import TableKeeper.Engine.Evaluate

/-!
  TableKeeper.Engine.Constraint — what a row must meet to be written.

  1. In turn: columns that must not be null, conditions, then rows that are in the way by
     their rowid or in a unique index. A condition that is unknown is met.
  2. Indexes are looked at from the newest to the oldest, those that replace rows last; and
     so is the rowid if it replaces rows and nothing else was asked for.
  3. A resolution that the statement names goes before that of the constraint. A null is
     replaced by its column's default, and fails if that is null or none. A condition has
     no row that could be replaced.
-/

namespace TableKeeper.Engine

open Sql

/-- Why a row was not written, and what becomes of the statement. -/
structure Failure where
  fault : Fault
  resolution : Resolution := .abort

/-- A fault that is no broken constraint undoes the statement. -/
def orAbort {α : Type} (r : Except Fault α) : Except Failure α := r.mapError fun fault => { fault }

/-- A row as its columns keep it, its rowid among the cells. -/
def Table.stored (t : Table) (rowid : Int64) (cells : List Value) : Row where
  rowid := rowid
  cells := cells.zipIdx.map fun (v, i) => if t.key = some i then .integer rowid else (t.affinityOf i).store v

/-- The columns that are computed, from what, and what they do to a value. -/
def Table.generated (t : Table) : List (Nat × Term × Affinity) :=
  t.columns.zipIdx.filterMap fun (c, i) => c.generated.map fun term => (i, term, c.affinity)

/-- The row with its computed columns. As many rounds as there are such columns are enough for
those that are computed from others. -/
def Table.computed (t : Table) (f : Frame) (r : Row) : Except Fault Row :=
  let columns := t.generated
  let compute (r : Row) (g : Nat × Term × Affinity) : Except Fault Row := do
    let v ← evaluate { f with rows := [some r] } g.2.1
    return { r with cells := r.cells.set g.1 (g.2.2.store v) }
  columns.foldlM (fun r _ => columns.foldlM compute r) r

/-! ## Nulls -/

/-- The columns of a table that are null in a row and must not be, with their resolutions;
those that are computed come last. -/
def Table.nulls (t : Table) (stated : Option Resolution) (r : Row) : List (Nat × Column × Resolution) :=
  let all := (t.columns.zip r.cells).zipIdx.filterMap fun ((c, v), i) =>
    if v.isNull && t.key != some i then c.notNull.map fun own => (i, c, stated.getD own) else none
  let (plain, computed) := all.partition fun (_, c, _) => c.generated.isNone
  plain ++ computed

def nullFault (t : Table) (c : Column) : Fault := .notNull t.name c.name

/-- The row with defaults in place of nulls; none when it is left out. -/
def checkNulls (t : Table) (stated : Option Resolution) (f : Frame) (r : Row) : Except Failure (Option Row) :=
  fill (t.nulls stated r) r
where
  fill : List (Nat × Column × Resolution) → Row → Except Failure (Option Row)
    | [], r => .ok (some r)
    | (i, c, resolution) :: rest, r =>
      match resolution, c.default with
      | .ignore, _ => .ok none
      | .replace, some default => do
        let v := (t.affinityOf i).store (← orAbort (evaluate f default))
        if v.isNull then
          -- Any other column that fails does so first.
          let _ ← fill rest r
          throw { fault := nullFault t c }
        fill rest { r with cells := r.cells.set i v }
      | .replace, none => .error { fault := nullFault t c }
      | resolution, _ => .error ⟨nullFault t c, resolution⟩

/-! ## Types -/

def StrictType.keeps : StrictType → Value → Bool
  | _, .null | integer, .integer _ | real, .real _ | text, .text _ | blob, .blob _ => true
  | _, _ => false

/-- The type of a value as messages have it. -/
def storedType : Value → String
  | .null => "NULL"
  | .integer _ => "INT"
  | .real _ => "REAL"
  | .text _ => "TEXT"
  | .blob _ => "BLOB"

/-- Every value of the row is of a kind that its column keeps. -/
def checkTypes (t : Table) (r : Row) : Except Failure Unit :=
  (t.columns.zip r.cells).forM fun (c, v) =>
    match c.strict with
    | some (type, name) =>
      if type.keeps v then .ok () else .error { fault := .wrongType (storedType v) name t.name c.name }
    | none => .ok ()

/-! ## Conditions -/

/-- Whether a row is written as far as its conditions go; false leaves it out. -/
def checkConditions (t : Table) (stated : Option Resolution) (f : Frame) (r : Row) : Except Failure Bool := do
  if !t.checks.isEmpty then checkTypes t r
  test t.checks
where
  test : List Check → Except Failure Bool
    | [] => .ok true
    | c :: rest => do
      let v ← orAbort (evaluate { f with rows := [some r] } c.condition)
      if truth? v != some false then test rest
      else
        match stated.getD .abort with
        | .ignore => return false
        | .replace => throw { fault := .check c.label }
        | resolution => throw ⟨.check c.label, resolution⟩

/-! ## Rows in the way -/

namespace Index

/-- What an index holds of a row, if the row is in it. -/
def entry? (i : Index) (f : Frame) (r : Row) : Except Fault (Option (List (Value × Collation))) := do
  let f := { f with rows := [some r] }
  if !(← allTrue f i.condition.toList) then return none
  if i.computed.isEmpty then return some (i.columns.map fun c => (r.cell c.column, c.collation))
  return some ((← evaluateList f (i.computed.map (·.1))).zip (i.computed.map (·.2)))

/-- Two entries are the same; those with a null never are. -/
def isSame (a b : List (Value × Collation)) : Bool := (a.zip b).all fun (v, w) => sameValue v.2 v.1 w.1

/-- A row other than `self` that a new row would clash with. -/
def clash? (i : Index) (t : Table) (f : Frame) (self : Option Int64) (r : Row) : Except Fault (Option Row) := do
  if !i.unique then return none
  match ← i.entry? f r with
  | none => return none
  | some e => t.rows.findM? fun s => do
    if some s.rowid = self then return false
    return (← i.entry? f s).any (isSame e)

def fault (t : Table) (i : Index) : Fault :=
  if i.computed.isEmpty then .unique t.name (i.columns.map fun c => t.columnName c.column) else .uniqueIndex i.name

end Index

/-- What no two rows share. -/
inductive Unique where
  | rowid
  | index (i : Index)

namespace Unique

/-- The resolution that a constraint has of its own. -/
def own (t : Table) : Unique → Resolution
  | rowid => t.keyResolution
  | index i => i.resolution

def fault (t : Table) : Unique → Fault
  | rowid => .unique t.name [(t.key.map t.columnName).getD "rowid"]
  | index i => i.fault t

def isIndex : Unique → Bool
  | rowid => false
  | index _ => true

/-- The row that is in the way of a row which takes the place of `self`. -/
def clash? (t : Table) (f : Frame) (self : Option Int64) (r : Row) : Unique → Except Fault (Option Row)
  | rowid => .ok (if self = some r.rowid then none else t.rowAt? r.rowid)
  | index i => i.clash? t f self r

end Unique

/-- The unique indexes in the order in which they are looked at. -/
def Table.uniqueIndexes (t : Table) : List Index :=
  let (later, first) := (t.indexes.reverse.filter (·.unique)).partition (·.resolution == .replace)
  first ++ later

def Table.uniques (t : Table) (stated : Option Resolution) : List Unique :=
  let indexes := t.uniqueIndexes.map .index
  if !t.hasRowid then indexes
  else if t.keyResolution = .replace ∧ stated.isNone then indexes ++ [.rowid] else .rowid :: indexes

/-- How a row is written. -/
inductive Settlement (α : Type) where
  /-- Into this table, from which the rows in the way are gone. -/
  | admitted (t : Table)
  | leftOut
  /-- A row in the way decides. -/
  | diverted (a : α) (r : Row)

/-- What is done about a row in the way. -/
inductive Reaction (α : Type) where
  | resolve (r : Resolution)
  | divert (a : α)

/-- Looks at the constraints in turn, and at the types of the values when the first of them
that is no rowid comes up, or at the end. -/
def settle {α : Type} (f : Frame) (self : Option Int64) (r : Row) :
    List (Unique × Reaction α) → Table → Except Failure (Settlement α)
  | [], t => do
    checkTypes t r
    return .admitted t
  | (u, reaction) :: rest, t => do
    if u.isIndex then checkTypes t r
    match ← orAbort (u.clash? t f self r), reaction with
    | none, _ => settle f self r rest t
    | some s, .divert a => return .diverted a s
    | some s, .resolve .replace => settle f self r rest (t.dropRow s.rowid)
    | some _, .resolve .ignore => return .leftOut
    | some _, .resolve resolution => throw ⟨u.fault t, resolution⟩

/-- The reactions without any clause of the statement's own. -/
def Table.reactions {α : Type} (t : Table) (stated : Option Resolution) : List (Unique × Reaction α) :=
  (t.uniques stated).map fun u => (u, .resolve (stated.getD (u.own t)))

end TableKeeper.Engine
