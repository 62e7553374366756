import TableKeeper.Engine.Constraint
import TableKeeper.Engine.Query

/-!
  TableKeeper.Engine.Assignment — new values for a row that is there.

  1. An assignment sets a column or the rowid. All of them see the row as it was; of two to
     one place the last counts.
  2. A new rowid must be an integer.
-/

namespace TableKeeper.Engine

open Sql

inductive Target where
  | column (index : Nat)
  | rowid
  deriving DecidableEq

structure Assignment where
  target : Target
  term : Term

def assignmentTarget (t : Table) (name : String) : Except Fault Target :=
  match t.columnIndex? name with
  | some i =>
    if t.isGenerated i then .error (.generatedUpdate (t.columnName i))
    else .ok (if t.key = some i then .rowid else .column i)
  | none => if t.isRowid name then .ok .rowid else .error (.noSuchColumn name none)

def prepareAssignments (t : Table) (s : Scope) : List (String × Expr) → Except Fault (List Assignment)
  | [] => .ok []
  | (name, e) :: rest => do
    let term ← resolve s e
    let target ← assignmentTarget t name
    return ⟨target, term⟩ :: (← prepareAssignments t s rest)

/-- The term that a place is set to, if any. -/
def assigned? (as : List Assignment) (target : Target) : Option Term :=
  (as.reverse.find? fun a => a.target = target).map (·.term)

/-- A value as a rowid. -/
def rowidOf? (v : Value) : Option Int64 :=
  match Affinity.store .integer v with
  | .integer n => some n
  | _ => none

/-- The row after its assignments. -/
def assigned (t : Table) (f : Frame) (as : List Assignment) (old : Row) : Except Fault Row := do
  let cells ← old.cells.zipIdx.mapM fun (v, i) =>
    match assigned? as (.column i) with
    | some term => evaluate f term
    | none => .ok v
  match assigned? as .rowid with
  | none => return t.stored old.rowid cells
  | some term =>
    match rowidOf? (← evaluate f term) with
    | some n => return t.stored n cells
    | none => throw .mismatch

/-- The table with a row changed, and the row; none when the row is left as it was. -/
def updateRow (t : Table) (stated : Option Resolution) (f : Frame) (as : List Assignment) (old : Row) :
    Except Failure (Option (Table × Row)) := do
  let new ← orAbort do t.computed f (← assigned t f as old)
  match ← checkNulls t stated f new with
  | none => return none
  | some new =>
    let new ← orAbort (t.computed f new)
    if !(← checkConditions t stated f new) then return none
    match ← settle (α := Empty) f (some old.rowid) new (t.reactions stated) t with
    | .admitted t => return some ((t.dropRow old.rowid).putRow new, new)
    | .leftOut | .diverted _ _ => return none

end TableKeeper.Engine
