import TableKeeper.Engine.Constraint
import TableKeeper.Engine.Query

/-!
  TableKeeper.Engine.Definition — tables, indexes and views from what defines them.

  1. The name of a new table is looked at first, then the parts of its definition in turn,
     then why it breaks off if it does, and then its conditions and defaults.
  2. A column of the type INTEGER that alone is the primary key is the rowid, unless the key
     is that of the column and descends. Any other key, and every UNIQUE, makes an index,
     except for one on the same columns under the same collations as one before.
  3. An index takes the collation that it names for a column, or else the column's own.
-/

namespace TableKeeper.Engine

open Sql

/-! ## Drafts -/

/-- A unique constraint, with the collations that it names. -/
structure KeyDraft where
  columns : List (Nat × Option Collation)
  resolution : Option Resolution
  primary : Bool := false

structure ColumnDraft where
  name : String
  declared : String
  collation : Collation := .binary
  notNull : Option Resolution := none
  default : Option Expr := none
  generated : Option Expr := none

structure Draft where
  name : String
  columns : List ColumnDraft := []
  /-- The columns of the primary key, if there is one. -/
  keyColumns : Option (List Nat) := none
  key : Option Nat := none
  keyResolution : Resolution := .abort
  autoincrement : Bool := false
  keys : List KeyDraft := []
  checks : List CheckClause := []
  foreignKeys : List ForeignKey := []
  options : List TableOption := []

/-! ## Types -/

/-- The type is INTEGER, perhaps as a whole in quotes. -/
def isIntegerType (declared : String) : Bool :=
  match lex declared with
  | [l, _] =>
    match l.token with
    | .word s => sameName s "INTEGER"
    | .name _ s => sameName s "INTEGER"
    | .text s => sameName s "INTEGER"
    | _ => false
  | _ => false

namespace Draft

/-! ## Columns of keys -/

def collationAt (d : Draft) (c : Nat × Option Collation) : Collation :=
  c.2.getD (((d.columns[c.1]?).map (·.collation)).getD .binary)

def columnIndex? (d : Draft) (name : String) : Option Nat := d.columns.findIdx? fun c => sameName c.name name

def collation (name : String) : Except Fault Collation :=
  match Collation.ofName? name with
  | some c => .ok c
  | none => .error (.noSuchCollation name)

/-- The column that a term of a key names, and the collation. Text stands for a name. -/
def keyColumn (d : Draft) (o : OrderTerm) : Except Fault (Nat × Option Collation) := do
  let (e, label) := uncollated o.expr
  let c ← label.mapM collation
  match e with
  | .literal (.text s) => named s .quoted o.offset c
  | .column { schema := none, table := none, name, quoting, offset } => named name quoting offset c
  | .column n => throw (.noSuchColumn (written n) (some n.offset))
  | _ => throw .prohibitedExpressions
where
  named (name : String) (quoting : Quoting) (offset : Nat) (c : Option Collation) :
      Except Fault (Nat × Option Collation) :=
    match d.columnIndex? name, quoting with
    | some i, _ => .ok (i, c)
    | none, .doubleQuoted => .error .prohibitedExpressions
    | none, _ => .error (.noSuchColumn name (some offset))

/-- The keys are on the same columns, in the same order and under the same collations. -/
def sameKey (d : Draft) (a b : KeyDraft) : Bool :=
  a.columns.map (·.1) == b.columns.map (·.1) && a.columns.map d.collationAt == b.columns.map d.collationAt

/-- What a key adds to one on the same columns. -/
def mergedKey (old k : KeyDraft) : Except Fault KeyDraft :=
  let merged := { old with primary := old.primary || k.primary, resolution := old.resolution.orElse fun _ => k.resolution }
  match old.resolution, k.resolution with
  | some a, some b => if a = b then .ok merged else .error .conflictingResolutions
  | _, _ => .ok merged

def addKey (d : Draft) (k : KeyDraft) : Except Fault Draft :=
  match d.keys.find? (d.sameKey k) with
  | none => .ok { d with keys := d.keys ++ [k] }
  | some old => do
    let merged ← mergedKey old k
    return { d with keys := d.keys.map fun o => if d.sameKey k o then merged else o }

def checkNulls (os : List OrderTerm) : Except Fault Unit :=
  match os.findSome? (·.nullsLast) with
  | some last => .error (.prohibitedNulls last)
  | none => .ok ()

def isGenerated (d : Draft) (i : Nat) : Bool := ((d.columns[i]?).bind (·.generated)).isSome

/-- The primary key on these columns, of which the known ones are looked at first. -/
def addPrimaryKey (d : Draft) (k : KeyClause) (known : List Nat) (columns : Except Fault (List (Nat × Option Collation)))
    (alone : Bool) : Except Fault Draft :=
  if d.keyColumns.isSome then .error (.severalKeys d.name)
  else if known.any d.isGenerated then .error .generatedKey
  else
    let d := { d with keyColumns := some known }
    let only := if alone then known.head? else none
    let declared := (only.bind fun i => d.columns[i]?).map (·.declared)
    if declared.any isIntegerType ∧ !k.descending then
      .ok { d with key := only, keyResolution := k.resolution.getD .abort, autoincrement := k.autoincrement }
    else if k.autoincrement then .error .misplacedAutoincrement
    else do d.addKey { columns := ← columns, resolution := k.resolution, primary := true }

/-! ## Parts -/

/-- The draft with its last column changed. -/
def changeLast (d : Draft) (f : ColumnDraft → ColumnDraft) : Draft :=
  { d with columns := d.columns.dropLast ++ (d.columns.getLast?.map f).toList }

def lastColumn (d : Draft) : Nat := d.columns.length - 1

mutual

/-- No name, no parameter and no query is in the expression. -/
def isFixed : Expr → Bool
  | .literal _ | .constant _ => true
  | .parameter _ _ | .query _ | .hasRows _ | .isAmong _ _ => false
  | .column c => c.table.isNone && (truthWord? c).isSome
  | .call _ _ _ args _ => areFixed args
  | .signed _ e | .not e | .isNull e | .cast e _ | .collate e _ => isFixed e
  | .and a b | .or a b | .compare _ a b | .combine _ a b => isFixed a && isFixed b
  | .isIn a items => isFixed a && areFixed items
  | .choose c a b => isFixed c && isFixed a && isFixed b
  | .row items => areFixed items

def areFixed : List Expr → Bool
  | [] => true
  | e :: es => isFixed e && areFixed es

end

def addColumn (d : Draft) (name declared : String) : Except Fault Draft :=
  if columnLimit ≤ d.columns.length then .error (.tooManyTableColumns d.name)
  else if (d.columnIndex? name).isSome then .error (.duplicateColumn name)
  else .ok { d with columns := d.columns ++ [{ name, declared }] }

def lastName (d : Draft) : String := (d.columns.getLast?.map (·.name)).getD ""

def addDefault (d : Draft) (e : Expr) : Except Fault Draft :=
  if !isFixed e then .error (.variableDefault d.lastName)
  else if d.isGenerated d.lastColumn then .error .generatedDefault
  else .ok (d.changeLast fun c => { c with default := some e })

def addGenerated (d : Draft) (e : Expr) (kept : Option String) : Except Fault Draft :=
  let known := kept.all fun k => sameName k "VIRTUAL" || sameName k "STORED"
  if (d.columns.getLast?.bind (·.default)).isSome ∨ !known then .error (.badGenerated d.lastName)
  else if (d.keyColumns.getD []).contains d.lastColumn then .error .generatedKey
  else .ok (d.changeLast fun c => { c with generated := some e })

def addReference (d : Draft) (columns : List Nat) (r : Reference) : Draft :=
  let key : ForeignKey :=
    { columns, parent := r.table, targets := r.columns, onDelete := r.onDelete, onUpdate := r.onUpdate, deferred := r.deferred }
  { d with foreignKeys := d.foreignKeys ++ [key] }

def deferLast (deferred : Bool) : List ForeignKey → List ForeignKey
  | [] => []
  | [k] => [{ k with deferred }]
  | k :: ks => k :: deferLast deferred ks

def addToColumn (d : Draft) : ColumnConstraint → Except Fault Draft
  | .primaryKey k => d.addPrimaryKey k [d.lastColumn] (.ok [(d.lastColumn, none)]) true
  | .unique resolution => d.addKey { columns := [(d.lastColumn, none)], resolution }
  | .notNull resolution => .ok (d.changeLast fun c => { c with notNull := some (resolution.getD .abort) })
  | .default e => d.addDefault e
  | .check c => .ok { d with checks := d.checks ++ [c] }
  | .collate name => do
    let c ← collation name
    return d.changeLast fun column => { column with collation := c }
  | .reference r =>
    if r.columns.all (·.length == 1) then .ok (d.addReference [d.lastColumn] r)
    else .error (.severalReferenced d.lastName r.text r.offset)
  | .deferral deferred => .ok { d with foreignKeys := deferLast deferred d.foreignKeys }
  | .generated e kept => d.addGenerated e kept

def referring (d : Draft) (name : String) : Except Fault Nat :=
  match d.columnIndex? name with
  | some i => .ok i
  | none => .error (.unknownReferring name)

def addToTable (d : Draft) : TableConstraint → Except Fault Draft
  | .primaryKey os k =>
    let known := os.filterMap fun o => ((d.keyColumn o).toOption).map (·.1)
    let columns : Except Fault (List (Nat × Option Collation)) := do
      checkNulls os
      os.mapM d.keyColumn
    d.addPrimaryKey k known columns (os.length = 1)
  | .unique os resolution => do
    checkNulls os
    d.addKey { columns := ← os.mapM d.keyColumn, resolution }
  | .check c => .ok { d with checks := d.checks ++ [c] }
  | .reference names r => do
    if r.columns.any (·.length != names.length) then throw .unevenReference
    return d.addReference (← names.mapM d.referring) r

def add (d : Draft) : TablePart → Except Fault Draft
  | .column name declared => d.addColumn name declared
  | .ofColumn c => d.addToColumn c
  | .ofTable c => d.addToTable c
  | .option o => .ok { d with options := d.options ++ [o] }

/-! ## Options -/

/-- The type of a column in a strict table, with its name. -/
def strictType? (name : String) : Option (Option StrictType × String) :=
  [(some StrictType.integer, "INT"), (some .integer, "INTEGER"), (some .real, "REAL"), (some .text, "TEXT"),
    (some .blob, "BLOB"), (none, "ANY")].find? fun t => sameName t.2 name

/-- A column of a strict table. Of any type it keeps every value as it is. -/
def strictColumn (table : String) (c : ColumnDraft) : Except Fault Unit :=
  let declared := Grammar.unquoted c.declared
  if declared == "" then .error (.missingType table c.name)
  else if (strictType? declared).isNone then .error (.unknownType table c.name declared)
  else .ok ()

def isStrict (d : Draft) : Bool := d.options.contains .strict

def isWithoutRowid (d : Draft) : Bool := d.options.contains .withoutRowid

/-- No null in the columns of a primary key. -/
def withKeyNotNull (d : Draft) (except : Option Nat) : Draft :=
  let isKey (i : Nat) : Bool := (d.keyColumns.getD []).contains i && some i != except
  { d with columns := d.columns.zipIdx.map fun (c, i) =>
    if isKey i then { c with notNull := c.notNull.orElse fun _ => some .abort } else c }

/-- The draft with what its options ask for. -/
def withOptions (d : Draft) : Except Fault Draft := do
  let d ← if !d.isStrict then pure d else do
    d.columns.forM (strictColumn d.name)
    pure (d.withKeyNotNull d.key)
  if !d.isWithoutRowid then return d
  if d.autoincrement then throw .autoincrementWithoutRowid
  if d.keyColumns.isNone then throw (.missingKey d.name)
  let d := d.withKeyNotNull none
  match d.key with
  | none => return d
  | some i =>
    return { d with
      key := none
      keys := d.keys ++ [{ columns := [(i, none)], resolution := some d.keyResolution, primary := true }] }

/-! ## The table -/

def index (d : Draft) (k : KeyDraft) (n : Nat) : Index where
  name := "sqlite_autoindex_" ++ d.name ++ "_" ++ toString (n + 1)
  columns := k.columns.map fun c => { column := c.1, collation := d.collationAt c }
  resolution := k.resolution.getD .abort
  implicit := true
  primary := k.primary

def column (strict : Bool) (c : ColumnDraft) : Except Fault Column := do
  let default ← c.default.mapM (resolve {})
  let declared := Grammar.unquoted c.declared
  let type := if strict then strictType? declared else none
  return {
    name := c.name
    affinity := match type with
      | some (none, _) => .blob
      | _ => .ofDeclared declared
    strict := type.bind fun (t, name) => t.map (·, name)
    width := Affinity.widthOf declared
    collation := c.collation
    notNull := c.notNull
    default }

def table (d : Draft) (temporary : Bool) (sql : String) : Except Fault Table := do
  let d ← d.withOptions
  let columns ← d.columns.mapM (column d.isStrict)
  let t : Table := {
    name := d.name, temporary, sql, columns
    key := d.key, keyResolution := d.keyResolution, autoincrement := d.autoincrement
    indexes := d.keys.zipIdx.map fun (k, n) => d.index k n
    foreignKeys := d.foreignKeys
    hasRowid := !d.isWithoutRowid
    rows := [] }
  let scope (p : Confinement) : Scope := { Scope.ofTable t none with confinement := some p }
  let checks ← d.checks.mapM fun c => do
    return { label := c.label, condition := ← resolve (scope .check) c.condition : Check }
  let generated ← d.columns.mapM fun c => c.generated.mapM (resolve (scope .generated))
  if generated.all (·.isSome) then throw .onlyGenerated
  return { t with checks, columns := (columns.zip generated).map fun (c, g) => { c with generated := g } }

end Draft

/-! ## CREATE -/

/-- The schema that a new thing is made in: temporary or not. -/
def schemaOfNew (n : NewName) : Except Fault (Option Bool) :=
  match n.name.schema with
  | none => .ok none
  | some s =>
    match Database.schemaOf? s with
    | some temporary => .ok (some temporary)
    | none => .error (.unknownSchema s n.schemaOffset)

def hasIndex (db : Database) (temporary : Bool) (name : String) : Bool :=
  (db.index? ⟨some (schemaName temporary), name⟩).isSome

/-- Whether the name of a new table or view is free in a schema; it may be taken if that is
fine. -/
def isFree (db : Database) (n : NewName) (temporary ifMissing : Bool) : Except Fault Bool := do
  let name := n.name.name
  if Database.isReserved name then throw (.reservedName name)
  match db.ownRelation? temporary name with
  | some r =>
    if !ifMissing then throw (.nameTaken r.kind n.text n.offset)
    return false
  | none =>
    if hasIndex db temporary name then throw (.indexNamed name)
    return true

/-- Whether a new table or view is temporary. -/
def isTemporary (n : NewName) (stated : Bool) : Except Fault Bool := do
  let named ← schemaOfNew n
  if stated && named == some false then throw .qualifiedTemporary
  return stated || named.getD false

/-! ### A table from a query -/

/-- A name as it stands in a statement, in quotes if it must. -/
def quotedName (s : String) : String :=
  let isPlain (c : Char) : Bool := c.isAlphanum || c = '_'
  if s.toList.all isPlain && s != "" && !((s.toList.head?).any Char.isDigit) && !Grammar.isWordOfGrammar s then s
  else "\"" ++ .ofList (s.toList.flatMap fun c => if c = '"' then [c, c] else [c]) ++ "\""

/-- A type of an affinity, behind a blank. -/
def typeOf : Affinity → String
  | .absent | .blob => ""
  | .text => " TEXT"
  | .numeric => " NUM"
  | .integer => " INT"
  | .real => " REAL"

/-- The statement that would create a table with these columns. A long one has a line for each. -/
def statementOf (name : String) (columns : List Column) : String :=
  let width (s : String) : Nat := s.utf8ByteSize + s.toList.count '"' + 2
  let long := 50 ≤ columns.foldr (fun c n => width c.name + 5 + n) (width name)
  let items := columns.map fun c => quotedName c.name ++ typeOf c.affinity
  "CREATE TABLE " ++ quotedName name ++ "(" ++ (if long then "\n  " else "")
    ++ Text.joined (if long then ",\n  " else ",") items ++ (if long then "\n)" else ")")

/-- A table with the columns that a query gives. -/
def tableOf (name : String) (temporary : Bool) (q : Subquery) : Table :=
  let column (c : GivenColumn) : Column :=
    { name := c.name, affinity := if c.affinity = .absent then .blob else c.affinity }
  let columns := (renamed q (ownNames q)).columns.map column
  { name, temporary, sql := statementOf name columns, columns, key := none, indexes := [], rows := [] }

/-- A new table, and the query that its rows come from. -/
structure NewTable where
  table : Table
  source : Option PreparedSelect := none

/-- The table that is to be made; none when it is there already and that is fine. -/
def defineTable (db : Database) (c : CreateTable) : Except Fault (Option NewTable) := do
  let temporary ← isTemporary c.name c.temporary
  let broken : Except Fault Unit := match c.broken with
    | some f => .error (.grammar f)
    | none => .ok ()
  let name := c.name.name.name
  if ← isFree db c.name temporary c.ifMissing then
    match c.source with
    | some q =>
      let q ← prepareSelect db.context q
      return some { table := tableOf name temporary q.subquery, source := some q }
    | none =>
      let draft ← c.parts.foldlM Draft.add { name }
      broken
      return some { table := ← draft.table temporary ("CREATE TABLE " ++ c.body) }
  else
    broken
    return none

/-- The view that is to be made; what it reads is looked at when it is read. -/
def defineView (db : Database) (c : CreateView) : Except Fault (Option View) := do
  if c.parametric then throw .parametricView
  let temporary ← isTemporary c.name c.temporary
  if !(← isFree db c.name temporary c.ifMissing) then return none
  return some {
    name := c.name.name.name, temporary
    sql := "CREATE VIEW " ++ c.body
    columns := c.columns
    query := c.query }

/-- A new index and the table that it is on. -/
structure NewIndex where
  table : Table
  index : Index

def defineIndex (db : Database) (c : CreateIndex) : Except Fault (Option NewIndex) := do
  let named ← schemaOfNew c.name
  let temporary := named.getD (((db.relation? ⟨none, c.table⟩).map (·.temporary)).getD false)
  let t ← match db.relation? ⟨some (schemaName temporary), c.table⟩ with
    | some (.table t) => pure t
    | some (.view _) => throw .unindexableView
    | none => throw (.noSuchTable (schemaName temporary ++ "." ++ c.table))
  if Database.isReserved t.name then throw (.unindexable t.name)
  let name := c.name.name.name
  if Database.isReserved name then throw (.reservedName name)
  if (db.ownRelation? temporary name).isSome then throw (.tableNamed name)
  if hasIndex db temporary name then
    if c.ifMissing then return none
    throw (.indexExists name)
  Draft.checkNulls c.columns
  let scope (p : Confinement) : Scope := { Scope.ofTable t none with confinement := some p }
  let condition ← resolve? (scope .part) c.condition
  let keys ← c.columns.mapM (key (scope .index))
  let columns := keys.filterMap fun (term, collation) => (columnPlace t term).map fun i => { column := i, collation }
  let index : Index := {
    name, columns
    computed := if columns.length = keys.length then [] else keys
    condition
    unique := c.unique
    sql := some ((if c.unique then "CREATE UNIQUE INDEX " else "CREATE INDEX ") ++ c.body) }
  return some ⟨t, index⟩
where
  /-- What is indexed; text stands for a name. -/
  key (s : Scope) (o : OrderTerm) : Except Fault (Term × Collation) := do
    let (e, label) := uncollated o.expr
    let e := match e with
      | .literal (.text s) => .column { name := s, offset := o.offset }
      | e => e
    let stated ← label.mapM Draft.collation
    let term ← resolve s e
    return (term, stated.getD (placeCollation s term))
  placeCollation (s : Scope) (term : Term) : Collation :=
    match term, s.sources with
    | .rowid _, [k] => (k.table.key.map k.table.collationOf).getD .binary
    | t, _ => t.collation
  columnPlace (t : Table) : Term → Option Nat
    | .column _ i _ _ => some i
    | .rowid _ => t.key
    | _ => none

/-- Rows that are there may not clash in a new index. -/
def NewIndex.check (n : NewIndex) (f : Frame) : Except Fault Unit :=
  n.table.rows.forM fun r => do
    if (← n.index.clash? n.table f (some r.rowid) r).isSome then throw (n.index.fault n.table)

/-! ## DROP -/

/-- What is to be dropped; none when there is nothing and that is fine. -/
def droppedTable (db : Database) (d : Drop) : Except Fault (Option Table) :=
  match db.relation? d.name with
  | none => if d.ifPresent then .ok none else .error (.noSuchTable d.name.text)
  | some (.view v) => .error (.droppedViewAsTable v.name)
  | some (.table t) => if Database.isReserved t.name then .error (.undroppableTable t.name) else .ok (some t)

def droppedView (db : Database) (d : Drop) : Except Fault (Option View) :=
  match db.relation? d.name with
  | none => if d.ifPresent then .ok none else .error (.noSuchView d.name.text)
  | some (.view v) => .ok (some v)
  | some (.table t) =>
    .error (if Database.isReserved t.name then .undroppableTable t.name else .droppedTableAsView t.name)

def droppedIndex (db : Database) (d : Drop) : Except Fault (Option NewIndex) :=
  match db.index? d.name with
  | none => if d.ifPresent then .ok none else .error (.noSuchIndex d.name.text)
  | some (t, i) => if i.implicit then .error .undroppableIndex else .ok (some ⟨t, i⟩)

end TableKeeper.Engine
