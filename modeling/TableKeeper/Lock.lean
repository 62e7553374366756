import TableKeeper.Telemetry

/-!
  TableKeeper.Lock — exclusive access that survives a panic.

  A holder that panics poisons the lock and leaves its state as it was at that moment. A
  poisoned lock is still acquired, each time with a warning and a counter step; it is
  never healed.
-/

namespace TableKeeper

structure Lock (α : Type) where
  value : α
  poisoned : Bool := false

namespace Lock

variable {α : Type}

def poisonNotices : List Notice :=
  [.warn .lock "SQLite mutex was poisoned, recovering" [],
    .counter "litestore_mutex_poison_recovery_total" [] 1]

/-- What acquiring the lock tells the observers. -/
def acquire (l : Lock α) : List Notice := if l.poisoned then poisonNotices else []

/-- A holder changes the value and gives the lock back. -/
def update (f : α → α) (l : Lock α) : Lock α := { l with value := f l.value }

/-- A holder changes the value and panics. -/
def poison (f : α → α) (l : Lock α) : Lock α := ⟨f l.value, true⟩

end Lock
end TableKeeper
