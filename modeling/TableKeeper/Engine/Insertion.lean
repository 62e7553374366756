import TableKeeper.Engine.Assignment
import TableKeeper.Engine.Selection

/-!
  TableKeeper.Engine.Insertion — INSERT.

  1. A column that is not named gets its default. The rowid is the last of the named columns
     that stands for it, and the one after the largest when that is null or missing.
  2. Clauses for clashes name the rowid or a unique index, and their constraints are looked
     at first, in their order. A row that is in the way there is updated or left alone
     instead; a clause without a target is for all clashes.
  3. In a table with AUTOINCREMENT no rowid is given twice: the largest so far is kept in a
     table of its own.
-/

namespace TableKeeper.Engine

open Sql

/-- What happened to a row. -/
inductive RowEvent where
  | deleted (r : Row)
  | updated (old new : Row)

/-- What a change did. A failure that undoes nothing leaves what was done before. -/
structure Changed where
  database : Database
  /-- The table before the change, and what happened to its rows. -/
  table : Table
  events : List RowEvent := []
  count : Nat := 0
  /-- The rowid of the last row that was inserted, even if that was undone. -/
  inserted : Option Int64 := none
  returned : List (List Value) := []
  failure : Option Failure := none

/-! ## Preparing -/

/-- Where a cell of a new row comes from. -/
inductive CellSource where
  | value (index : Nat)
  | default (t : Option Term)

inductive UpsertTarget where
  | all
  | rowid
  /-- A unique index by its name. -/
  | index (name : String)
  deriving DecidableEq

structure PreparedUpsert where
  target : UpsertTarget
  /-- None leaves the row alone. -/
  assignments : Option (List Assignment)
  conditions : List Term

structure PreparedInsert where
  table : Table
  resolution : Option Resolution
  cells : List CellSource
  /-- Which value is the rowid, if one is. -/
  rowid : Option Nat
  /-- None gives one row of no values. -/
  source : Option PreparedSelect
  upserts : List PreparedUpsert
  returning : List OutputColumn

/-- The table of a change. -/
def changeable (db : Database) (s : Subject) : Except Fault Table :=
  match db.relation? s.table with
  | none => .error (.noSuchTable s.table.text)
  | some (.view v) => .error (.unchangeableView v.name)
  | some (.table t) => if t.readOnly then .error (.readOnly t.name) else .ok t

def checkNames (t : Table) (subject : String) : List String → Except Fault Unit
  | [] => .ok ()
  | n :: rest =>
    match t.columnIndex? n with
    | some i => if t.isGenerated i then .error (.generatedInsert (t.columnName i)) else checkNames t subject rest
    | none => if t.isRowid n then checkNames t subject rest else .error (.noColumnNamed subject n)

def lastIdx? {α : Type} (test : α → Bool) (xs : List α) : Option Nat :=
  (xs.zipIdx.filter fun (x, _) => test x).getLast?.map (·.2)

def cellSources (t : Table) (names : List String) : List CellSource :=
  t.columns.map fun c =>
    match names.findIdx? (sameName · c.name) with
    | some i => .value i
    | none => .default c.default

def checkCounts (t : Table) (i : Insert) (width : Nat) : Except Fault Unit :=
  match i.columns with
  | some names => if names.length = width then .ok () else .error (.namedCount names.length width)
  | none =>
    if i.source.isNone || t.plainColumns.length == width then .ok ()
    else .error (.valueCount i.subject.text t.plainColumns.length width)

/-! ## Clauses for clashes -/

def uncollatedTerm : Term → Term
  | .collate t _ => uncollatedTerm t
  | t => t

/-- The place of the column that a term is. -/
def columnOf? (t : Table) (term : Term) : Option Nat :=
  match uncollatedTerm term with
  | .column _ i _ _ => some i
  | .rowid _ => t.key
  | _ => none

/-- An index is on just these columns, in any order. -/
def Index.isOn (i : Index) (columns : List (Option Nat)) : Bool :=
  i.unique && i.isWhole && i.columns.length == columns.length && i.columns.all fun c => columns.contains (some c.column)

def upsertTarget (cx : Context) (t : Table) (label : Option String) (number : Option Nat) :
    Option (List OrderTerm) → Except Fault UpsertTarget
  | none => .ok .all
  | some os => do
    let terms ← resolveList (cx.ofTable t label) (os.map (·.expr))
    match terms with
    | [.rowid _] => return .rowid
    | _ =>
      match t.uniqueIndexes.find? (·.isOn (terms.map (columnOf? t))) with
      | some i => return .index i.name
      | none => throw (.noConflictTarget number)

def upsertAction (cx : Context) (t : Table) (label : Option String) (target : UpsertTarget) :
    ConflictAction → Except Fault PreparedUpsert
  | .nothing => .ok ⟨target, none, []⟩
  | .update assignments condition => do
    let scope := { cx.ofTable t label with upserting := true }
    let as ← prepareAssignments t scope assignments
    let c ← resolve? scope condition
    return ⟨target, some as, c.toList⟩

def prepareUpserts (cx : Context) (t : Table) (label : Option String) (us : List Upsert) :
    Except Fault (List PreparedUpsert) := do
  let targets ← us.zipIdx.mapM fun (u, n) =>
    upsertTarget cx t label (if us.length = 1 then none else some (n + 1)) u.target
  (us.zip targets).mapM fun (u, target) => upsertAction cx t label target u.action

/-- The columns of a RETURNING clause. -/
def returningColumns (cx : Context) (t : Table) (label : Option String) (rs : List ResultColumn) :
    Except Fault (List OutputColumn) :=
  if rs.any (fun | .allOf _ => true | _ => false) then .error .starredReturning
  else outputColumns (cx.ofTable t label) rs

def prepareInsert (cx : Context) (i : Insert) : Except Fault PreparedInsert := do
  let cx := cx.withNamed i.named
  let t ← changeable cx.database i.subject
  let label := i.subject.label
  checkNames t i.subject.text (i.columns.getD [])
  let source ← i.source.mapM (prepareSelect cx)
  checkCounts t i ((source.map (·.columns.length)).getD 0)
  let names := i.columns.getD (if source.isSome then t.plainColumns.map (·.name) else [])
  let upserts ← prepareUpserts cx t label i.upserts
  return {
    table := t
    resolution := i.resolution
    cells := cellSources t names
    rowid := lastIdx? t.isRowid names
    source, upserts
    returning := ← returningColumns cx t label i.returning }

/-! ## Reactions -/

def targetOf : Unique → UpsertTarget
  | .rowid => .rowid
  | .index i => .index i.name

/-- The clause that is for a constraint. -/
def clauseFor? (us : List PreparedUpsert) (u : Unique) : Option PreparedUpsert :=
  us.find? fun c => c.target = .all ∨ c.target = targetOf u

/-- The constraints with targets of their own in the order of the clauses, the rowid behind
them if it has none, and then the others. -/
def byClauses (us : List PreparedUpsert) (constraints : List Unique) : List Unique :=
  let targets := (us.map (·.target)).filter (· ≠ .all)
  let targets := if targets.contains .rowid || targets.isEmpty then targets else targets ++ [.rowid]
  let first := targets.eraseDups.flatMap fun target => constraints.filter fun u => targetOf u = target
  first ++ constraints.filter fun u => !targets.contains (targetOf u)

/-- A lone clause without a target that does nothing is the resolution to leave rows out. -/
def PreparedInsert.reactions (p : PreparedInsert) (t : Table) : List (Unique × Reaction PreparedUpsert) :=
  match p.upserts with
  | [] => t.reactions p.resolution
  | [⟨.all, none, _⟩] => t.reactions (some .ignore)
  | us =>
    let indexes := t.uniqueIndexes.map .index
    (byClauses us (if t.hasRowid then .rowid :: indexes else indexes)).map fun u =>
      (u, match clauseFor? us u with
        | some c => .divert c
        | none => .resolve (p.resolution.getD (u.own t)))

/-! ## Running -/

/-- The work of a statement so far. -/
structure Work where
  table : Table
  /-- The largest rowid that was ever given, where that is kept. -/
  largest : Int64
  count : Nat := 0
  inserted : Option Int64 := none
  returned : List (List Value) := []
  events : List RowEvent := []

/-- The rowid of a new row: the given one, or the next. -/
def Work.newRowid (w : Work) (given : Option Value) : Except Fault Int64 :=
  match given with
  | none | some .null =>
    if !w.table.autoincrement then .ok w.table.nextRowid
    else if w.largest.toInt = 2 ^ 63 - 1 then .error .full
    else .ok (if w.table.nextRowid < w.largest + 1 then w.largest + 1 else w.table.nextRowid)
  | some v =>
    match rowidOf? v with
    | some n => .ok n
    | none => .error .mismatch

def Work.returning (w : Work) (f : Frame) (columns : List OutputColumn) (r : Row) : Except Failure Work := do
  let vs ← orAbort (evaluateList { f with rows := [some r] } (columns.map (·.term)))
  return { w with count := w.count + 1, returned := w.returned ++ (if columns.isEmpty then [] else [vs]) }

/-- The work with another table, from which rows may be gone. -/
def Work.replace (w : Work) (t : Table) : Work :=
  let gone := w.table.rows.filter fun r => (t.rowAt? r.rowid).isNone
  { w with table := t, events := w.events ++ gone.map .deleted }

/-- The work with one row changed, in a table from which rows may be gone. -/
def Work.update (w : Work) (t : Table) (old new : Row) : Work :=
  let gone := w.table.rows.filter fun r => r.rowid ≠ old.rowid ∧ !t.rows.contains r
  { w with table := t, events := w.events ++ gone.map .deleted ++ [.updated old new] }

/-- A row that is in the way, under the clause that is for it. -/
def Work.divert (w : Work) (f : Frame) (p : PreparedInsert) (u : PreparedUpsert) (old new : Row) : Except Failure Work :=
  match u.assignments with
  | none => .ok w
  | some as => do
    let f := { f with rows := [some old], excluded := new }
    if !(← orAbort (allTrue f u.conditions)) then return w
    match ← updateRow w.table (some .abort) f as old with
    | none => return w
    | some (t, r) => (w.update t old r).returning f p.returning r

/-- The work after one more row. -/
def Work.insertRow (w : Work) (f : Frame) (p : PreparedInsert) (values : List Value) : Except Failure Work := do
  let rowid ← orAbort (w.newRowid (p.rowid.map fun i => (values[i]?).getD .null))
  let w := { w with largest := if w.largest < rowid then rowid else w.largest }
  let cells ← p.cells.mapM fun
    | .value i => pure ((values[i]?).getD .null)
    | .default none => pure .null
    | .default (some t) => orAbort (evaluate f t)
  let r ← orAbort (w.table.computed f (w.table.stored rowid cells))
  match ← checkNulls w.table p.resolution f r with
  | none => return w
  | some r =>
    let r ← orAbort (w.table.computed f r)
    if !(← checkConditions w.table p.resolution f r) then return w
    match ← settle f none r (p.reactions w.table) w.table with
    | .leftOut => return w
    | .diverted u s => w.divert f p u s r
    | .admitted t =>
      let w := w.replace t
      let inserted := if t.hasRowid then some rowid else w.inserted
      ({ w with table := t.putRow r, inserted } : Work).returning f p.returning r

/-- The work after all rows, or up to a failure. -/
def Work.insertRows (f : Frame) (p : PreparedInsert) : List Item → Work → Work × Option Failure
  | [], w => (w, none)
  | item :: rest, w =>
    match (do w.insertRow f p (← orAbort item) : Except Failure Work) with
    | .ok w => w.insertRows f p rest
    | .error e => (w, some e)

/-! ## The largest rowids -/

def sequenceName : String := "sqlite_sequence"

def sequenceTable? (db : Database) (t : Table) : Option Table := db.ownTable? t.temporary sequenceName

def isSequenceOf (t : Table) (r : Row) : Bool := r.cell 0 = .text t.name

/-- The largest rowid that is kept for a table. -/
def largestOf (db : Database) (t : Table) : Int64 :=
  (((sequenceTable? db t).bind fun s => s.rows.find? (isSequenceOf t)).map fun r => integerOf (r.cell 1)).getD 0

def keepLargest (db : Database) (t : Table) (n : Int64) : Database :=
  match sequenceTable? db t with
  | none => db
  | some s =>
    let rowid := ((s.rows.find? (isSequenceOf t)).map (·.rowid)).getD s.nextRowid
    db.setTable (s.putRow ⟨rowid, [.text t.name, .integer n]⟩)

/-- What a statement on a table leaves of its work. -/
def Work.changed (db : Database) (table : Table) (w : Work) (failure : Option Failure) : Changed :=
  let all : Changed :=
    { database := db.setTable w.table, table, events := w.events, count := w.count, inserted := w.inserted
      returned := w.returned, failure }
  match failure with
  | none => all
  | some e => if e.resolution = .fail then all else { database := db, table, inserted := w.inserted, failure }

def runInsert (db : Database) (f : Frame) (p : PreparedInsert) : Changed :=
  let items : List Item := match p.source with
    | some q => runSelect f q
    | none => [.ok []]
  let before := largestOf db p.table
  let (w, failure) := Work.insertRows f p items { table := p.table, largest := before }
  let changed := w.changed db p.table failure
  if p.table.autoincrement && failure.isNone && before < w.largest then
    { changed with database := keepLargest changed.database p.table w.largest }
  else changed

end TableKeeper.Engine
