import TableKeeper.Program

/-!
  TableKeeper.Store.Observed — accounting around a store operation.

  1. A span opens before an operation and closes after it (`inSpan`).
  2. `observe` runs the body, then counts the operation once with its status, samples its
     duration, and on failure warns.
  3. A failure of a step below carries that step's name: unless the step has the
     operation's own name, the error is renamed to the operation and the step's name goes
     in front of the cause. Errors of other kinds pass unchanged.
-/

namespace TableKeeper.Store

variable {α : Type}

/-- Runs the body inside a span; a panic leaves the span open. -/
def inSpan (s : Span) (body : Call α) : Call α :=
  ExceptT.mk <| .tell (.enter s) <| body.run.bind fun r => .tell .leave (.done r)

/-- The error as the operation reports it. -/
def attributed (operation : String) : Error → Error
  | .operationFailed step cause =>
    if step = operation then .operationFailed step cause else .operationFailed operation (step ++ ": " ++ cause)
  | e => e

def labels (operation status : String) : List (String × String) :=
  [("backend", "sqlite"), ("operation", operation), ("status", status)]

def accounting (operation status : String) : List Notice :=
  [.counter "litestore_operations_total" (labels operation status) 1,
    .histogram "litestore_operation_duration_ms" (labels operation status)]

def failureNotice (operation table : String) (e : Error) : Notice :=
  .warn .store "record store operation failed"
    [("operation", .text operation), ("table", .text table), ("error", .text e.message)]

def tellAll (ns : List Notice) (r : Except Error α) : Program (Except Error α) :=
  ns.foldr .tell (.done r)

def observe (operation table : String) (body : Call α) : Call α :=
  ExceptT.mk <| body.run.bind fun
    | .ok a => tellAll (accounting operation "success") (.ok a)
    | .error e =>
      let e := attributed operation e
      tellAll (accounting operation "error" ++ [failureNotice operation table e]) (.error e)

end TableKeeper.Store
