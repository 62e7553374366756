import TableKeeper.Engine.Evaluate

/-!
  TableKeeper.Engine.Reading — the rows that a statement works on.

  1. Every row of the first table goes with every row of the next, and so on. A join may keep
     rows of its left side that nothing goes with, and those of its right side behind all
     others.
  2. Conditions that read no column are looked at once, before any row. On a row, those that
     an index answers come first.
  3. A fault ends the rows.
-/

namespace TableKeeper.Engine

open Sql

/-- An order in which rows are met: by some columns and then by rowid. -/
structure Scan where
  columns : List IndexedColumn
  descending : Bool := false

namespace Scan

def compare (s : Scan) (a b : Row) : Ordering :=
  s.columns.foldr (fun c o => (compareValues c.collation (a.cell c.column) (b.cell c.column)).then o)
    (Ord.compare a.rowid.toInt b.rowid.toInt)

def rows (s : Scan) (rs : List Row) : List Row :=
  let sorted := rs.mergeSort fun a b => s.compare a b != .gt
  if s.descending then sorted.reverse else sorted

end Scan

/-- The rows of a table by its rowid or its primary key. -/
def Table.inOrder (t : Table) : List Row :=
  match t.primary? with
  | some i => Scan.rows { columns := i.columns } t.rows
  | none => t.rows

structure PreparedSource where
  table : Table
  /-- The query that gives the rows, if they are not the table's own. -/
  query : Option Subquery := none
  /-- None meets the rows by rowid. -/
  scan : Option Scan := none
  join : JoinKind := {}
  /-- What a row must meet to go with the rows before. -/
  condition : Option Term := none

/-- The rows of a query, numbered. -/
def numbered (rows : List (Except Fault (List Value))) : List (Except Fault Row) :=
  rows.zipIdx.map fun (r, n) => r.map fun cells => ⟨.ofNat (n + 1), cells⟩

/-- The rows of a source in the order in which they are met. -/
def PreparedSource.met (f : Frame) (s : PreparedSource) : List (Except Fault Row) :=
  match s.query, s.scan with
  | some q, _ => numbered (q.rows f.fresh)
  | none, some scan => (scan.rows s.table.rows).map .ok
  | none, none => s.table.inOrder.map .ok

structure Reading where
  sources : List PreparedSource
  /-- Conditions that read no column. -/
  constants : List Term := []
  conditions : List Term := []

namespace Reading

/-! ## Conditions -/

/-- The term is a column that begins an index, or the rowid. -/
def isIndexed (tables : List Table) : Term → Bool
  | .rowid _ => true
  | .column n i _ _ => tables[n]?.any fun t => t.indexes.any fun ix => ix.isWhole && ix.columns.head?.any (·.column == i)
  | _ => false

def usesIndex (tables : List Table) : Term → Bool
  | .compare .eq a _ => isIndexed tables a
  | .isIn a _ => isIndexed tables a
  | _ => false

/-- A reading of the rows that meet a condition. -/
def ofCondition (sources : List PreparedSource) (conditions : List Term) : Reading :=
  let ts := conditions.flatMap Term.conjuncts
  let (constants, others) := ts.partition Term.isConstant
  let (first, later) := others.partition (usesIndex (sources.map (·.table)))
  { sources, constants, conditions := first ++ later }

/-! ## Rows -/

/-- The items in front of the first fault, and the fault. -/
def upToFault {α : Type} (xs : List (Except Fault α)) : List (Except Fault α) :=
  let good := xs.takeWhile fun x => x.toOption.isSome
  good ++ (xs.drop good.length).take 1

/-- All of the items, or the first fault among them. -/
def sequence {α : Type} (xs : List (Except Fault α)) : Except Fault (List α) := xs.mapM id

/-- The items that pass a test, and the faults. -/
def keeping {α : Type} (test : α → Except Fault Bool) (xs : List (Except Fault α)) : List (Except Fault α) :=
  xs.filterMap fun x =>
    match x with
    | .error e => some (.error e)
    | .ok a =>
      match test a with
      | .error e => some (.error e)
      | .ok true => some (.ok a)
      | .ok false => none

/-- The rows so far with each row of a source that goes with them. -/
def extended (f : Frame) (s : PreparedSource) (met : List (Except Fault Row)) (rows : Rows) : List (Except Fault Rows) :=
  let found := keeping (fun rows => allTrue { f with rows } s.condition.toList)
    (met.map fun r => r.map fun r => rows ++ [some r])
  if s.join.left && found.isEmpty then [.ok (rows ++ [none])] else found

/-- The rows of a source that go with nothing before, behind so many other sources. -/
def unmatched (count : Nat) (met : List (Except Fault Row)) (found : List (Except Fault Rows)) : List (Except Fault Rows) :=
  met.filterMap fun
    | .error _ => none
    | .ok r =>
      let isIn (rows : Except Fault Rows) : Bool := match rows with
        | .ok rows => (rows.getLast?).join.any (·.rowid == r.rowid)
        | .error _ => false
      if found.any isIn then none else some (.ok (.replicate count none ++ [some r]))

/-- One more source beside all rows so far. -/
def joined (f : Frame) (count : Nat) (s : PreparedSource) (rows : List (Except Fault Rows)) : List (Except Fault Rows) :=
  let met := s.met f
  let found := rows.flatMap fun
    | .ok rows => extended f s met rows
    | .error e => [.error e]
  if s.join.right then found ++ unmatched count met found else found

def combinations (f : Frame) (sources : List PreparedSource) : List (Except Fault Rows) :=
  sources.zipIdx.foldl (fun rows (s, n) => joined f n s rows) [.ok []]

/-- The rows that meet the conditions, up to the first fault. -/
def rows (r : Reading) (f : Frame) : List (Except Fault Rows) :=
  match allTrue f r.constants with
  | .error e => [.error e]
  | .ok false => []
  | .ok true =>
    upToFault (keeping (fun rows => allTrue { f with rows } r.conditions) (combinations f r.sources))

end Reading
end TableKeeper.Engine
