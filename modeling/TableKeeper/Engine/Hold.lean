/-!
  TableKeeper.Engine.Hold — how a connection holds a database against others.

  Inside a transaction, what was read stays as it was, and what was written is seen by nobody
  else. With a write-ahead log, who reads and who writes do not hinder each other.
-/

namespace TableKeeper.Engine

inductive Hold where
  | free
  | reading
  | writing
  /-- Nobody else may read. -/
  | alone
  deriving DecidableEq, Repr

namespace Hold

def rank : Hold → Nat
  | free => 0
  | reading => 1
  | writing => 2
  | alone => 3

/-- Both together. -/
def max (a b : Hold) : Hold := if a.rank < b.rank then b else a

/-- Another connection may write too. -/
def letsWrite (h : Hold) (logged : Bool) : Bool := h.rank < if logged then 2 else 1

/-- Something was written that nobody else has seen. -/
def isWriting (h : Hold) : Bool := 2 ≤ h.rank

end Hold
end TableKeeper.Engine
