import TableKeeper.Engine.Order
import TableKeeper.Engine.Term

/-!
  TableKeeper.Engine.Table — tables and their rows.

  1. A row has a rowid, which no two rows of a table share, and a cell per column; rows are
     kept by rising rowid. A new row gets the rowid after the largest. Where the rowids cannot
     be asked for, they only tell the rows apart, and the primary key gives the order.
  2. A table may have one column that is the rowid. An index keeps the rows by some columns;
     in a unique one no two rows have the same values there, and nulls do not clash.
  3. Names are the same when they differ only in the case of ASCII letters.
-/

namespace TableKeeper.Engine

open Sql

/-- The kinds of values that a column of a strict table keeps. -/
inductive StrictType where
  | integer
  | real
  | text
  | blob
  deriving DecidableEq

structure Column where
  name : String
  affinity : Affinity
  /-- The only kind of values that it keeps, with the type's name. -/
  strict : Option (StrictType × String) := none
  /-- About how large a value is, in units of four bytes. -/
  width : Nat := 1
  collation : Collation := .binary
  /-- What becomes of a null, where none may be. -/
  notNull : Option Resolution := none
  default : Option Term := none
  /-- What the column is computed from, if it is. -/
  generated : Option Term := none

/-- Where the schema lists a table or an index, and the page that it stands on. -/
structure Listing where
  entry : Int64 := 0
  page : Nat := 1

structure IndexedColumn where
  column : Nat
  collation : Collation := .binary

structure Index where
  name : String
  columns : List IndexedColumn
  /-- What is indexed if it is not columns alone. -/
  computed : List (Term × Collation) := []
  /-- Which rows are in the index, if not all. -/
  condition : Option Term := none
  unique : Bool := true
  resolution : Resolution := .abort
  /-- It came with its table and goes with it. -/
  implicit : Bool := false
  /-- It is the table's primary key. -/
  primary : Bool := false
  listing : Listing := {}
  /-- The statement that created it; none for an index that came with its table. -/
  sql : Option String := none

/-- A reference of some columns to the rows of a table. -/
structure ForeignKey where
  columns : List Nat
  parent : String
  /-- The columns that are referred to; none is the primary key. -/
  targets : Option (List String)
  onDelete : ReferenceAction := .nothing
  onUpdate : ReferenceAction := .nothing
  deferred : Bool := false

structure Check where
  label : String
  condition : Term

structure Table where
  name : String
  /-- It goes with the connection. -/
  temporary : Bool := false
  /-- The statement that created it. -/
  sql : String
  columns : List Column
  /-- The column that is the rowid, if one is. -/
  key : Option Nat
  keyResolution : Resolution := .abort
  /-- A rowid is never given a second time. -/
  autoincrement : Bool := false
  /-- In the order of creation. -/
  indexes : List Index
  checks : List Check := []
  foreignKeys : List ForeignKey := []
  rows : List Row
  listing : Listing := {}
  readOnly : Bool := false
  /-- Its rowids can be asked for. -/
  hasRowid : Bool := true

/-- A query by a name. -/
structure View where
  name : String
  temporary : Bool := false
  /-- The statement that created it. -/
  sql : String
  /-- The names of its columns, if they are given. -/
  columns : Option (List String)
  query : Select
  listing : Listing := {}

namespace Table

def columnIndex? (t : Table) (name : String) : Option Nat :=
  t.columns.findIdx? fun c => sameName c.name name

def columnName (t : Table) (i : Nat) : String := ((t.columns[i]?).map (·.name)).getD ""

/-- The affinity of a column; what is no column converts nothing. -/
def affinityOf (t : Table) (i : Nat) : Affinity :=
  match t.columns[i]? with
  | some c => c.affinity
  | none => .blob

def isGenerated (t : Table) (i : Nat) : Bool := ((t.columns[i]?).bind (·.generated)).isSome

/-- The columns that are not computed. -/
def plainColumns (t : Table) : List Column := t.columns.filter (·.generated.isNone)

def collationOf (t : Table) (i : Nat) : Collation := ((t.columns[i]?).map (·.collation)).getD .binary

def rowidNames : List String := ["rowid", "oid", "_rowid_"]

/-- A name for the rowid, where no column has the name. -/
def isRowidName (name : String) : Bool := rowidNames.any (sameName name)

/-- The name stands for the rowid. -/
def isRowid (t : Table) (name : String) : Bool :=
  match t.columnIndex? name with
  | some i => t.key == some i
  | none => t.hasRowid && isRowidName name

/-- Puts a row into its place by rowid, instead of one of the same rowid. -/
def placeRow (r : Row) : List Row → List Row
  | [] => [r]
  | s :: rest =>
    if r.rowid.toInt < s.rowid.toInt then r :: s :: rest
    else if r.rowid = s.rowid then r :: rest
    else s :: placeRow r rest

def putRow (t : Table) (r : Row) : Table := { t with rows := placeRow r t.rows }

def dropRow (t : Table) (rowid : Int64) : Table :=
  { t with rows := t.rows.filter fun r => r.rowid ≠ rowid }

def lastRowid? (t : Table) : Option Int64 := t.rows.getLast?.map (·.rowid)

def nextRowid (t : Table) : Int64 :=
  match t.lastRowid? with
  | some n => n + 1
  | none => 1

/-- The primary key of a table without rowids. -/
def primary? (t : Table) : Option Index := if t.hasRowid then none else t.indexes.find? (·.primary)

/-- The columns that order entries which are the same otherwise; none follow the rowid. -/
def lastColumns (t : Table) : List IndexedColumn := (t.primary?.map (·.columns)).getD []

/-- The indexes beside the table itself. -/
def listedIndexes (t : Table) : List Index := if t.hasRowid then t.indexes else t.indexes.filter (!·.primary)

/-- The row with this rowid. -/
def rowAt? (t : Table) (rowid : Int64) : Option Row := t.rows.find? fun r => r.rowid = rowid

end Table

/-- The index holds columns of all rows. -/
def Index.isWhole (i : Index) : Bool := i.computed.isEmpty && i.condition.isNone

end TableKeeper.Engine
