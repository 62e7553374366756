import TableKeeper.Engine.Table

/-!
  TableKeeper.Engine.Schema — a database and the tables that list it.

  1. The schema table lists each table, each index and each view in the order of their
     creation. It is read and never written. A new table or index stands on the first page
     that is free, and a view on none.
  2. Tables that go with the connection have a schema of their own, `temp`; all others are
     in `main`. A name without a schema is looked up in `temp` first.
  3. Names that begin with `sqlite_` are the database's own.
-/

namespace TableKeeper.Engine

open Sql

/-- The pages that were given back. -/
structure FreePages where
  /-- The first of them, which lists the others and is taken last. -/
  first : Option Nat := none
  others : List Nat := []

structure Database where
  tables : List Table := []
  views : List View := []
  freePages : FreePages := {}
  temporaryFreePages : FreePages := {}

/-! ## The schema tables -/

def mainSchema : String := "main"

def temporarySchema : String := "temp"

def schemaName (temporary : Bool) : String := if temporary then temporarySchema else mainSchema

def schemaTableName (temporary : Bool) : String := if temporary then "sqlite_temp_master" else "sqlite_master"

/-- Another name of the schema table. -/
def schemaTableAlias (temporary : Bool) : String := if temporary then "sqlite_temp_schema" else "sqlite_schema"

def schemaColumns : List Column :=
  [{ name := "type", affinity := .text }, { name := "name", affinity := .text },
    { name := "tbl_name", affinity := .text }, { name := "rootpage", affinity := .integer },
    { name := "sql", affinity := .text }]

def pageValue (n : Nat) : Value := .integer (.ofNat n)

def Index.schemaRow (i : Index) (table : String) : Row :=
  ⟨i.listing.entry,
    [.text "index", .text i.name, .text table, pageValue i.listing.page, i.sql.elim .null .text]⟩

/-- The rows of a table and of its indexes. -/
def Table.schemaRows (t : Table) : List Row :=
  ⟨t.listing.entry, [.text "table", .text t.name, .text t.name, pageValue t.listing.page, .text t.sql]⟩
    :: t.listedIndexes.map (·.schemaRow t.name)

def View.schemaRow (v : View) : Row :=
  ⟨v.listing.entry, [.text "view", .text v.name, .text v.name, pageValue v.listing.page, .text v.sql]⟩

def Database.ownViews (db : Database) (temporary : Bool) : List View :=
  db.views.filter (·.temporary == temporary)

def Database.ownTables (db : Database) (temporary : Bool) : List Table :=
  db.tables.filter (·.temporary == temporary)

/-- The rows of a schema, in the order of creation. -/
def Database.schemaRows (db : Database) (temporary : Bool) : List Row :=
  let rows := (db.ownTables temporary).flatMap Table.schemaRows ++ (db.ownViews temporary).map View.schemaRow
  rows.mergeSort fun a b => a.rowid.toInt ≤ b.rowid.toInt

def Database.schemaTable (db : Database) (temporary : Bool) : Table where
  name := schemaTableName temporary
  temporary := temporary
  sql := ""
  columns := schemaColumns
  key := none
  indexes := []
  rows := db.schemaRows temporary
  readOnly := true

/-! ## Looking up -/

namespace Database

/-- The schema that a name in front of a point is. -/
def schemaOf? (name : String) : Option Bool :=
  if sameName name mainSchema then some false
  else if sameName name temporarySchema then some true
  else none

/-- A table that was created in a schema, or its schema table. -/
def ownTable? (db : Database) (temporary : Bool) (name : String) : Option Table :=
  if sameName name (schemaTableName temporary) then some (db.schemaTable temporary)
  else db.tables.find? fun t => t.temporary == temporary && sameName t.name name

/-- The schema table by the names that it has where its schema is known. -/
def listed? (db : Database) (temporary : Bool) (name : String) : Option Table :=
  if sameName name (schemaTableAlias temporary)
      ∨ temporary ∧ (sameName name (schemaTableName false) ∨ sameName name (schemaTableAlias false)) then
    some (db.schemaTable temporary)
  else none

def table? (db : Database) (n : TableName) : Option Table :=
  match n.schema with
  | some s => (schemaOf? s).bind fun temporary =>
    (db.ownTable? temporary n.name).orElse fun _ => db.listed? temporary n.name
  | none =>
    (db.ownTable? true n.name).orElse fun _ => (db.ownTable? false n.name).orElse fun _ =>
      if sameName n.name (schemaTableAlias false) then some (db.schemaTable false)
      else if sameName n.name (schemaTableAlias true) then some (db.schemaTable true)
      else none

def ownView? (db : Database) (temporary : Bool) (name : String) : Option View :=
  db.views.find? fun v => v.temporary == temporary && sameName v.name name

/-- A table or a view. -/
inductive Relation where
  | table (t : Table)
  | view (v : View)

namespace Relation

def temporary : Relation → Bool
  | table t => t.temporary
  | view v => v.temporary

/-- What it is, in messages. -/
def kind : Relation → String
  | table _ => "table"
  | view _ => "view"

end Relation

/-- The table or view that was created in a schema, or its schema table. -/
def ownRelation? (db : Database) (temporary : Bool) (name : String) : Option Relation :=
  ((db.ownTable? temporary name).map .table).orElse fun _ => (db.ownView? temporary name).map .view

/-- The table or view of a name. -/
def relation? (db : Database) (n : TableName) : Option Relation :=
  let own := match n.schema with
    | some s => (schemaOf? s).bind fun temporary => db.ownRelation? temporary n.name
    | none => (db.ownRelation? true n.name).orElse fun _ => db.ownRelation? false n.name
  own.orElse fun _ => (db.table? n).map .table

/-- The same table of the database. -/
def isTable (t u : Table) : Bool := t.temporary == u.temporary && sameName t.name u.name

/-- The database with a table of the same name replaced. -/
def setTable (db : Database) (t : Table) : Database :=
  { db with tables := db.tables.map fun u => if isTable t u then t else u }

def dropTable (db : Database) (t : Table) : Database :=
  { db with tables := db.tables.filter fun u => !isTable t u }

/-- The table that has an index, and the index. -/
def index? (db : Database) (n : TableName) : Option (Table × Index) :=
  let here (t : Table) : Bool := match n.schema with
    | some s => schemaOf? s == some t.temporary
    | none => true
  (db.tables.filter here).findSome? fun t => (t.indexes.find? fun i => sameName i.name n.name).map (t, ·)

/-! ## Listings -/

/-- The listings of a table and of its indexes. -/
def listingsOf (t : Table) : List Listing := t.listing :: t.listedIndexes.map (·.listing)

/-- The listings of a schema. -/
def listings (db : Database) (temporary : Bool) : List Listing :=
  (db.ownTables temporary).flatMap listingsOf ++ (db.ownViews temporary).map (·.listing)

def freeOf (db : Database) (temporary : Bool) : FreePages := if temporary then db.temporaryFreePages else db.freePages

def setFree (db : Database) (temporary : Bool) (p : FreePages) : Database :=
  if temporary then { db with temporaryFreePages := p } else { db with freePages := p }

/-- A page for something new, and the pages that are free then. The first page is that of the
schema, and all others are in use or free. -/
def takePage (used : Nat) (p : FreePages) : Nat × FreePages :=
  match p.others, p.first with
  | n :: ns, _ =>
    let least := ns.foldl min n
    (least, { p with others := p.others.filter (· ≠ least) })
  | [], some n => (n, {})
  | [], none => (used + 2, {})

def givePage (p : FreePages) (n : Nat) : FreePages :=
  match p.first with
  | none => { first := some n }
  | some _ => { p with others := p.others ++ [n] }

/-- The place behind all listings. -/
def newEntry (ls : List Listing) : Int64 := ls.foldl (fun n l => if n < l.entry then l.entry else n) 0 + 1

/-- A listing behind all that are there. -/
def newListing (ls : List Listing) (p : FreePages) : Listing × FreePages :=
  let (page, p) := takePage (ls.filter (·.page ≠ 0)).length p
  (⟨newEntry ls, page⟩, p)

/-- Listings for the indexes that need one, one behind the other. -/
def listIndexes (needs : Index → Bool) : List Index → List Listing → FreePages → List Index × FreePages
  | [], _, p => ([], p)
  | i :: rest, ls, p =>
    if needs i then
      let (l, p) := newListing ls p
      let (rest, p) := listIndexes needs rest (ls ++ [l]) p
      ({ i with listing := l } :: rest, p)
    else
      let (rest, p) := listIndexes needs rest ls p
      (i :: rest, p)

/-- The database with a new table, listed before its indexes. -/
def addTable (db : Database) (t : Table) : Database :=
  let ls := db.listings t.temporary
  let (l, p) := newListing ls (db.freeOf t.temporary)
  let (indexes, p) := listIndexes (fun i => t.hasRowid || !i.primary) t.indexes (ls ++ [l]) p
  { db with tables := db.tables ++ [{ t with listing := l, indexes }] }.setFree t.temporary p

def addIndex (db : Database) (t : Table) (i : Index) : Database :=
  let (l, p) := newListing (db.listings t.temporary) (db.freeOf t.temporary)
  (db.setTable { t with indexes := t.indexes ++ [{ i with listing := l }] }).setFree t.temporary p

/-- The database with a new view, which stands on no page. -/
def addView (db : Database) (v : View) : Database :=
  { db with views := db.views ++ [{ v with listing := ⟨newEntry (db.listings v.temporary), 0⟩ }] }

def removeView (db : Database) (v : View) : Database :=
  { db with views := db.views.filter fun u => !(u.temporary == v.temporary && sameName u.name v.name) }

/-- The database without a table, whose pages are given back from the last on. -/
def removeTable (db : Database) (t : Table) : Database :=
  let pages := ((listingsOf t).map (·.page)).mergeSort fun a b => b ≤ a
  (db.dropTable t).setFree t.temporary (pages.foldl givePage (db.freeOf t.temporary))

def removeIndex (db : Database) (t : Table) (i : Index) : Database :=
  (db.setTable { t with indexes := t.indexes.filter fun j => j.name ≠ i.name }).setFree t.temporary
    (givePage (db.freeOf t.temporary) i.listing.page)

/-! ## What a connection keeps to itself -/

/-- What is in one schema alone. -/
def onlySchema (db : Database) (temporary : Bool) : Database :=
  { db with tables := db.ownTables temporary, views := db.ownViews temporary }

/-- The database with what another has of its own. -/
def withTemporary (db own : Database) : Database :=
  { db with
    tables := db.ownTables false ++ own.ownTables true
    views := db.ownViews false ++ own.ownViews true
    temporaryFreePages := own.temporaryFreePages }

/-- A name that only the database itself gives. -/
def isReserved (name : String) : Bool := (foldName name).take 7 == "SQLITE_".toList

end Database
end TableKeeper.Engine
