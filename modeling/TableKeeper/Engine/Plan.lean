import TableKeeper.Engine.Reading

/-!
  TableKeeper.Engine.Plan — the order in which the rows of a table are met.

  1. Rows are met by rowid, unless an index is read instead of the table. An index is read
     from its least entry or from its greatest; entries that are the same follow the rowid.
  2. An index is read for a condition on its first column, the one that is likely to leave
     the fewest rows before any other.
  3. Without such a condition an index is read for the order that it has, if the query asks
     for it; and else if it holds all columns that the query reads and is narrower than the
     table, the narrowest before any other.
-/

namespace TableKeeper.Engine

open Sql

namespace Plan

/-- Ten times the binary logarithm, rounded down to an eighth of a power. -/
def logarithm (n : Nat) : Nat :=
  if n < 2 then 0
  else
    let e := Nat.log2 n
    10 * e + (([0, 2, 3, 5, 6, 7, 8, 9][n * 8 / 2 ^ e - 8]?).getD 0)

/-! ## Conditions -/

/-- How a condition bounds a column or the rowid: to one value, to a list of so many, or to
one side of a value. -/
inductive Bound where
  | value
  | list (count : Nat)
  | side

/-- What a condition bounds. -/
inductive Bounded where
  | rowid
  | column (index : Nat) (collation : Collation)

def boundedOf? (c : Collation) : Term → Option Bounded
  | .rowid 0 => some .rowid
  | .column 0 i _ _ => some (.column i c)
  | _ => none

def comparisonBound (op : Comparison) : Option Bound :=
  match op with
  | .eq | .same => some .value
  | .lt | .le | .gt | .ge => some .side
  | .ne | .differs => none

/-- The bound that a condition is, if it is one. -/
def boundOf? : Term → Option (Bounded × Bound)
  | .compare op a b => do
    let c := Term.commonCollation a b
    let bounded ← if b.isConstant then boundedOf? c a else if a.isConstant then boundedOf? c b else none
    return (bounded, ← comparisonBound op)
  | .isIn a items => do
    let bounded ← boundedOf? a.collation a
    if Term.areConstant items then return (bounded, .list items.length) else none
  | .isNull a => do return (← boundedOf? a.collation a, .value)
  | _ => none

def isOn (i : IndexedColumn) : Bounded → Bool
  | .rowid => false
  | .column n c => n = i.column ∧ c = i.collation

/-- How many rows have one value, as a logarithm: one in a unique index. -/
def rowsOfValue (i : Index) : Nat := if i.unique && i.columns.length == 1 then 0 else 33

/-- How many rows a bound leaves of all, as a logarithm. -/
def leaves (value : Nat) : Bound → Nat
  | .value => value
  | .list n => value + logarithm n
  | .side => 180

/-- The indexes from the newest to the oldest. -/
def candidates (t : Table) : List Index := t.indexes.reverse.filter (·.isWhole)

/-- The ways that bounds give to find rows, each with what it leaves. No index is the rowid. -/
def ways (t : Table) (bounds : List (Bounded × Bound)) : List (Option Index × Nat) :=
  (bounds.filterMap fun (b, how) =>
    match b with
    | .rowid => some (none, leaves 0 how)
    | _ => none)
  ++ (candidates t).flatMap fun i => bounds.filterMap fun (b, how) =>
    if i.columns.head?.any (isOn · b) then some (some i, leaves (rowsOfValue i) how) else none

def best? {α : Type} : List (α × Nat) → Option (α × Nat)
  | [] => none
  | (a, n) :: rest =>
    match best? rest with
    | some (b, m) => if m < n then some (b, m) else some (a, n)
    | none => some (a, n)

/-! ## Order and width -/

def scanOf (t : Table) (descending : Bool) (i : Index) : Scan := { columns := i.columns ++ t.lastColumns, descending }

/-- The scan that has the order of a term. -/
def ordered? (t : Table) (term : Term) (descending : Bool) : Option Scan :=
  match term with
  | .rowid 0 => some { columns := [], descending }
  | .column 0 i _ _ =>
    ((candidates t).find? fun ix => ix.columns.head?.any (isOn · (.column i term.collation))).map (scanOf t descending)
  | _ => none

def widthOf (t : Table) (columns : List Nat) : Nat :=
  columns.foldl (fun n i => n + ((t.columns[i]?).map (·.width)).getD 0) 0

/-- A table holds its rowid beside its columns unless a column is the rowid. -/
def tableWidth (t : Table) : Nat :=
  logarithm (4 * (widthOf t (List.range t.columns.length) + if t.key.isNone then 1 else 0))

def indexWidth (t : Table) (i : Index) : Nat := logarithm (4 * (widthOf t (i.columns.map (·.column)) + 1))

/-- The narrowest index that holds all of these columns and is narrower than the table. -/
def covering? (t : Table) (columns : List Nat) : Option Scan :=
  let holds (i : Index) : Bool := columns.all fun n => i.columns.any (·.column == n)
  let narrow := (candidates t).filterMap fun i =>
    if holds i && indexWidth t i < tableWidth t then some (i, indexWidth t i) else none
  (best? narrow).map fun (i, _) => scanOf t false i

end Plan

/-- How the rows of a table are met by a query with these conditions, this order, and these
columns to be read. -/
def Table.scan? (t : Table) (conditions : List Term) (order : Option (Term × Bool)) (columns : List Nat) : Option Scan :=
  match Plan.best? (Plan.ways t (conditions.filterMap Plan.boundOf?)) with
  | some (i, _) => i.map (Plan.scanOf t false)
  | none =>
    match order with
    | some (term, descending) => Plan.ordered? t term descending
    | none => Plan.covering? t columns

end TableKeeper.Engine
