import TableKeeper.Engine.Change

/-!
  TableKeeper.Engine.Reference — rows that refer to rows.

  1. A reference finds its row by the rowid or by a unique index of the table it refers to.
     A row with a null among the columns of a reference refers to nothing.
  2. When a row goes or changes its key, the rows that refer to it go too, follow it, or lose
     the reference, if the reference says so.
  3. At the end of a statement no more rows refer to nothing than before. A deferred
     reference is looked at when the transaction ends.
-/

namespace TableKeeper.Engine

open Sql

/-- How a reference finds its row: by the rowid, or by the columns of an index, each with the
column that refers to it. -/
inductive ParentKey where
  | rowid (column : Nat)
  | index (columns : List (Nat × IndexedColumn))

namespace ForeignKey

/-- The column that refers to a column of an index, by its name. -/
def referringTo? (k : ForeignKey) (p : Table) (names : List String) (c : IndexedColumn) : Option (Nat × IndexedColumn) :=
  if c.collation = p.collationOf c.column then
    ((k.columns.zip names).find? fun (_, n) => sameName n (p.columnName c.column)).map fun (i, _) => (i, c)
  else none

def keyByIndex? (k : ForeignKey) (p : Table) (i : Index) : Option ParentKey :=
  if !i.unique || !i.isWhole || i.columns.length != k.columns.length then none
  else
    match k.targets with
    | none => if i.primary then some (.index (k.columns.zip i.columns)) else none
    | some names => (i.columns.mapM (k.referringTo? p names)).map .index

/-- How the rows of a table are found. -/
def parentKey? (k : ForeignKey) (p : Table) : Option ParentKey :=
  let byRowid : Option ParentKey := match k.columns, p.key with
    | [c], some i =>
      if k.targets.all fun names => names.all (sameName · (p.columnName i)) then some (.rowid c) else none
    | _, _ => none
  byRowid.orElse fun _ => p.indexes.reverse.findSome? (k.keyByIndex? p)

/-- A row refers to something. -/
def refers (k : ForeignKey) (r : Row) : Bool := k.columns.all fun c => !(r.cell c).isNull

end ForeignKey

namespace ParentKey

/-- A row refers to a row of the table. -/
def finds (key : ParentKey) (p : Table) (child parent : Row) : Bool :=
  match key with
  | rowid c => rowidOf? (child.cell c) == some parent.rowid
  | index columns => columns.all fun (c, i) =>
    sameValue i.collation ((p.affinityOf i.column).store (child.cell c)) (parent.cell i.column)

/-- What the referring columns have when they refer to a row. -/
def valuesOf (key : ParentKey) (parent : Row) : List (Nat × Value) :=
  match key with
  | rowid c => [(c, .integer parent.rowid)]
  | index columns => columns.map fun (c, i) => (c, parent.cell i.column)

end ParentKey

/-! ## Preparing -/

def parentOf? (db : Database) (t : Table) (k : ForeignKey) : Option Table := db.ownTable? t.temporary k.parent

def checkForeignKey (db : Database) (t : Table) (k : ForeignKey) : Except Fault Unit :=
  match parentOf? db t k with
  | none => .error (.noSuchTable (schemaName t.temporary ++ "." ++ k.parent))
  | some p => if (k.parentKey? p).isSome then .ok () else .error (.referenceMismatch t.name k.parent)

/-- The references to a table, with the tables that they are of. -/
def referencesTo (db : Database) (p : Table) : List (Table × ForeignKey) :=
  (db.ownTables p.temporary).flatMap fun t => (t.foreignKeys.filter (sameName ·.parent p.name)).map (t, ·)

/-- The references of a table and those to it, as far as they are looked at. -/
def checkReferences (db : Database) (t : Table) (own : ForeignKey → Bool) (others : ForeignKey → Bool) :
    Except Fault Unit := do
  (t.foreignKeys.reverse.filter own).forM (checkForeignKey db t)
  ((referencesTo db t).filter fun (_, k) => others k).forM fun (c, k) => checkForeignKey db c k

/-- The columns that assignments change. -/
def changedColumns (t : Table) (as : List Assignment) : List Nat :=
  as.filterMap fun a =>
    match a.target with
    | .column i => some i
    | .rowid => t.key

/-- The column is what a reference refers to. -/
def isTarget (t : Table) (k : ForeignKey) (i : Nat) : Bool :=
  match k.targets with
  | some names => names.any (sameName · (t.columnName i))
  | none => t.key == some i || t.indexes.any fun ix => ix.primary && ix.columns.any (·.column == i)

def checkUpdateReferences (db : Database) (t : Table) (as : List Assignment) : Except Fault Unit :=
  let changed := changedColumns t as
  checkReferences db t (fun k => sameName k.parent t.name || k.columns.any changed.contains)
    (fun k => changed.any (isTarget t k))

/-! ## Following -/

/-- A change of a row in a table. -/
structure Following where
  table : Table
  event : RowEvent

/-- A database as far as the changes in it have been followed, and those that are left. -/
structure Followed where
  database : Database
  left : List Following

def Followed.write (s : Followed) (before after : Table) (events : List RowEvent) : Followed where
  database := s.database.setTable after
  left := s.left ++ events.map fun event => { table := before, event }

/-- The columns that an action sets, with the values; none removes the row. -/
def actionValues (c : Table) (f : Frame) (k : ForeignKey) (key : ParentKey) (new : Option Row) :
    ReferenceAction → Except Fault (Option (List (Nat × Value)))
  | .cascade => .ok (new.map key.valuesOf)
  | .setDefault => do
    return some (← k.columns.mapM fun i => do
      return (i, ← match (c.columns[i]?).bind (·.default) with
        | some term => evaluate f term
        | none => pure .null))
  | _ => .ok (some (k.columns.map (·, .null)))

/-- One row that refers to a row which went or changed. -/
def followRow (f : Frame) (c : Table) (k : ForeignKey) (key : ParentKey) (new : Option Row) (action : ReferenceAction)
    (s : Followed) (r : Row) : Except Failure Followed := do
  let t := (s.database.ownTable? c.temporary c.name).getD c
  match ← orAbort (actionValues c f k key new action) with
  | none => return s.write t (t.dropRow r.rowid) [.deleted r]
  | some values =>
    let as := values.map fun (i, v) =>
      { target := if t.key = some i then .rowid else .column i, term := .literal v : Assignment }
    match ← updateRow t (some .abort) { f with rows := [some r] } as r with
    | some (t', r') => return s.write t t' [.updated r r']
    | none => return s

/-- The rows that refer to a row which went or changed, by one reference. -/
def followKey (f : Frame) (e : Following) (s : Followed) (c : Table) (k : ForeignKey) : Except Failure Followed :=
  match k.parentKey? e.table with
  | none => .ok s
  | some key =>
    let (old, new, action) := match e.event with
      | .deleted r => (r, none, k.onDelete)
      | .updated old new => (old, some new, if key.valuesOf old = key.valuesOf new then .nothing else k.onUpdate)
    let t := (s.database.ownTable? c.temporary c.name).getD c
    let rows := t.rows.filter (key.finds e.table · old)
    match action with
    | .nothing => .ok s
    | .restrict => if rows.isEmpty then .ok s else .error { fault := .reference }
    | action => rows.foldlM (followRow f c k key new action) s

/-- Every change is followed once; the fuel bounds changes that lead to changes. -/
def follow (f : Frame) : Nat → Followed → Except Failure Database
  | 0, s => .ok s.database
  | fuel + 1, s =>
    match s.left with
    | [] => .ok s.database
    | e :: rest => do
      let s ← (referencesTo s.database e.table).foldlM (fun s (c, k) => followKey f e s c k) { s with left := rest }
      follow f fuel s

/-- How many changes a statement can lead to. -/
def followLimit : Nat := 100000

/-! ## What refers to nothing -/

/-- The rows of a table that refer to nothing by a reference. -/
def dangling (db : Database) (t : Table) (k : ForeignKey) : List Row :=
  match parentOf? db t k with
  | none => []
  | some p =>
    match k.parentKey? p with
    | none => []
    | some key => t.rows.filter fun r => k.refers r && !p.rows.any (key.finds p r)

/-- A row refers to nothing that did not before. -/
def breaks (before after : Database) (looked : ForeignKey → Bool) : Bool :=
  after.tables.any fun t => (t.foreignKeys.filter looked).any fun k =>
    let old := match before.ownTable? t.temporary t.name with
      | some t => dangling before t k
      | none => []
    (dangling after t k).any fun r => !old.contains r

/-- There is no reference in the database. -/
def isWithoutReferences (db : Database) : Bool := db.tables.all (·.foreignKeys.isEmpty)

/-- A change with all that follows from it. In a transaction deferred references wait. -/
def Changed.followed (c : Changed) (before : Database) (f : Frame) (inTransaction : Bool) : Changed :=
  if isWithoutReferences before ∨ c.failure.isSome then c
  else
    let undone (e : Failure) : Changed :=
      { database := before, table := c.table, inserted := c.inserted, failure := some e }
    match follow f followLimit { database := c.database, left := c.events.map fun event => { table := c.table, event } } with
    | .error e => undone e
    | .ok db =>
      if breaks before db fun k => !(inTransaction && k.deferred) then undone { fault := .reference }
      else { c with database := db }

/-- Some row refers to the table from another. -/
def isReferredTo (db : Database) (p : Table) : Bool :=
  (referencesTo db p).any fun (c, k) => !sameName c.name p.name &&
    match k.parentKey? p with
    | some key => c.rows.any fun r => p.rows.any (key.finds p r)
    | none => false

end TableKeeper.Engine
