import TableKeeper.Reader

/-!
  TableKeeper.Cursor — rows as a caller pulls them from a running statement.

  1. Each pull polls the statement once. A row becomes a record by the statement's column
     names; a cell that cannot be read fails that row, and the next pull goes on.
  2. The end and a failed poll finish the cursor. From then on every pull is empty and the
     statement is not polled again.
-/

namespace TableKeeper

/-- The statement's answer to one poll. -/
inductive Poll where
  | row (cells : List (Except String Value))
  | finished
  | failed (cause : String)

structure RowCursor where
  /-- The answers to come; after the last the statement is finished. -/
  polls : List Poll
  columns : List String
  done : Bool := false

namespace RowCursor

/-- The record of a row, on from the column with number `i`. A repeated column keeps its first
place and its last value. -/
def recordFrom : Nat → List String → List (Except String Value) → Record → Except Error Record
  | _, [], _, r => .ok r
  | i, c :: cs, cells, r =>
    match cells with
    | .ok v :: rest => recordFrom (i + 1) cs rest (r.put c v)
    | .error cause :: _ => .error (.operationFailed "read_column" cause)
    | [] => .error (.operationFailed "read_column" ("Invalid column index: " ++ toString i))

/-- The record of a row by the names of its columns. -/
def recordOf (columns : List String) (cells : List (Except String Value)) (r : Record) : Except Error Record :=
  recordFrom 0 columns cells r

def next (c : RowCursor) : Option RowItem × RowCursor :=
  if c.done then (none, c)
  else
    match c.polls with
    | [] => (none, { c with done := true })
    | .finished :: rest => (none, { c with polls := rest, done := true })
    | .failed cause :: rest => (some (.error (.operationFailed "read_row" cause)), { c with polls := rest, done := true })
    | .row cells :: rest => (some (recordOf c.columns cells .empty), { c with polls := rest })

/-- What the first `n` pulls give, up to the first empty one. -/
def pulls : Nat → RowCursor → List RowItem
  | 0, _ => []
  | n + 1, c =>
    match c.next with
    | (none, _) => []
    | (some x, c) => x :: pulls n c

/-- Every item of the cursor. -/
def items (c : RowCursor) : List RowItem := pulls (c.polls.length + 1) c

end RowCursor
end TableKeeper
