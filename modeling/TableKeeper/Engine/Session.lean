import TableKeeper.Cursor
import TableKeeper.Engine.Definition
import TableKeeper.Engine.Hold
import TableKeeper.Engine.Reference

/-!
  TableKeeper.Engine.Session — statements by their text.

  1. A text is prepared one statement at a time; a second statement after the first is
     prepared too, so that its own fault comes first, and is then refused.
  2. Values are bound before the statement runs, and their number must be that of the
     parameters.
  3. A change updates the count of changed rows and, when it inserted, the last rowid; a
     change that is undone sets the count to zero.
  4. A batch runs each statement of a text; what ran before a failure stays.
  5. A transaction is the states that can be returned to, each under its name if it has one.
     Without any, what a statement does is there for good.
-/

namespace TableKeeper.Engine

open Sql

/-- The settings that can be asked for. -/
structure Pragmas where
  journalMode : String := "delete"
  synchronous : Int64 := 2
  busyTimeout : Int64 := 5000

/-- A state that can be returned to. The one that a transaction begins with has no name,
unless a savepoint began it. -/
structure Savepoint where
  name : Option String
  database : Database

/-- A connection's view while a statement runs. -/
structure Session where
  /-- Or why nothing can be read. -/
  database : Except Fault Database
  /-- The states of the transaction, the latest first. -/
  savepoints : List Savepoint := []
  /-- How the transaction holds the database. -/
  hold : Hold := .free
  /-- What it did is there for good. -/
  wrote : Bool := false
  /-- Why nothing can be written, if nothing can. -/
  obstacle : Option Fault := none
  pragmas : Pragmas
  lastInsert : Int64 := 0
  changes : Nat := 0

inductive Body where
  | select (q : PreparedSelect)
  | insert (p : PreparedInsert)
  | update (p : PreparedUpdate)
  | delete (p : PreparedDelete)
  | createTable (n : NewTable)
  | createIndex (n : NewIndex)
  | createView (v : View)
  | dropTable (t : Table)
  | dropView (v : View)
  | dropIndex (n : NewIndex)
  | transaction (c : TransactionCommand)
  /-- The rows of a setting. -/
  | pragma (column : String) (rows : List Value)
  /-- Nothing to do. -/
  | nothing

structure Prepared where
  body : Body
  parameters : Nat

namespace Prepared

def columns (p : Prepared) : List String :=
  match p.body with
  | .select q => q.columns
  | .insert i => i.returning.map (·.name)
  | .update u => u.returning.map (·.name)
  | .delete d => d.returning.map (·.name)
  | .pragma c _ => [c]
  | _ => []

/-- The statement needs to write the file: what it writes does not go with the connection. -/
def writes (p : Prepared) : Bool :=
  match p.body with
  | .insert i => !i.table.temporary
  | .update u => !u.table.temporary
  | .delete d => !d.table.temporary
  | .createTable n => !n.table.temporary
  | .dropTable t => !t.temporary
  | .createIndex n | .dropIndex n => !n.table.temporary
  | .createView v | .dropView v => !v.temporary
  | .select _ | .transaction _ | .pragma _ _ | .nothing => false

/-- The statement reads tables. -/
def reads (p : Prepared) : Bool :=
  match p.body with
  | .select _ => true
  | _ => false

end Prepared

namespace Session

/-- The database, or an empty one. -/
def known (s : Session) : Database := s.database.toOption.getD {}

/-- Where a query is prepared. -/
def context (s : Session) : Context :=
  match s.database with
  | .ok db => db.context
  | .error f => { Database.context {} with obstacle := some f }

def preparePragma (s : Session) (name : String) : Except Fault Body := do
  if sameName name "busy_timeout" then return .pragma "timeout" [.integer s.pragmas.busyTimeout]
  let _ ← s.database
  if sameName name "journal_mode" then return .pragma "journal_mode" [.text s.pragmas.journalMode]
  if sameName name "synchronous" then return .pragma "synchronous" [.integer s.pragmas.synchronous]
  return .nothing

/-- A definition or a removal, where there is something to do. -/
def bodyOf {α : Type} (make : α → Body) (found : Except Fault (Option α)) : Except Fault Body :=
  found.map fun a => (a.map make).getD .nothing

def prepareParsed (s : Session) : Parsed → Except Fault Body
  | .select q => .select <$> prepareSelect s.context q
  | .insert i => do
    let db ← s.database
    let p ← prepareInsert db.context i
    checkReferences db p.table (fun _ => true) (fun _ => false)
    return .insert p
  | .update u => do
    let db ← s.database
    let p ← prepareUpdate db.context u
    checkUpdateReferences db p.table p.assignments
    return .update p
  | .delete d => do
    let db ← s.database
    let p ← prepareDelete db.context d
    checkReferences db p.table (fun _ => true) (fun _ => true)
    return .delete p
  | .createTable c => do bodyOf .createTable (defineTable (← s.database) c)
  | .createIndex c => do bodyOf .createIndex (defineIndex (← s.database) c)
  | .createView c => do bodyOf .createView (defineView (← s.database) c)
  | .dropView d => do bodyOf .dropView (droppedView (← s.database) d)
  | .dropTable d => do bodyOf .dropTable (droppedTable (← s.database) d)
  | .dropIndex d => do bodyOf .dropIndex (droppedIndex (← s.database) d)
  | .transaction c => .ok (.transaction c)
  | .pragma name => s.preparePragma name

/-- The text after a statement. -/
def textAfter (sql : String) (ls rest : List Lexeme) : String :=
  let read := ls.take (ls.length - rest.length)
  .ofList (sql.toList.drop (read.foldl (fun n l => n + l.gap.length + l.raw.length) 0))

/-- The first statement of a text, and the text after it. None when there is no statement. -/
def prepareFirst (s : Session) (sql : String) : Except String (Option (Prepared × String)) :=
  let ls := lex sql
  match readStatement ls with
  | .error f => .error ((Fault.grammar f).text sql)
  | .ok none => .ok none
  | .ok (some r) =>
    match s.prepareParsed r.parsed with
    | .error f => .error (f.text sql)
    | .ok body => .ok (some (⟨body, r.parameters⟩, textAfter sql ls r.rest))

/-- The one statement of a text. -/
def prepare (s : Session) (sql : String) : Except String Prepared :=
  match s.prepareFirst sql with
  | .error e => .error e
  | .ok none => .ok ⟨.nothing, 0⟩
  | .ok (some (p, rest)) =>
    match s.prepareFirst rest with
    | .error e => .error e
    | .ok none => .ok p
    | .ok (some _) => .error (Fault.message .severalStatements)

/-- One value too many is noticed when it is bound, and no further one is looked at. -/
def checkParameters (p : Prepared) (params : List Value) : Except Fault Unit :=
  let given := min params.length (p.parameters + 1)
  if given = p.parameters then .ok () else .error (.parameterCount given p.parameters)

/-! ## Transactions -/

/-- While nothing is held, what a transaction can return to is the database as it is. -/
def anchored (s : Session) : Session :=
  if s.hold = .free then
    { s with savepoints := s.savepoints.map fun p => { p with database := s.known.withTemporary p.database } }
  else s

/-- A transaction holds the database in this way too. -/
def holding (s : Session) (h : Hold) : Session :=
  if s.savepoints.isEmpty ∨ h = .free then s else { s.anchored with hold := s.hold.max h }

/-- The transaction is over, and what it did is undone. -/
def rolledBack (s : Session) : Session :=
  match s.anchored.savepoints.getLast? with
  | some p => { s with database := .ok p.database, savepoints := [], hold := .free }
  | none => s

def save (s : Session) (name : Option String) : Session :=
  { s with savepoints := ⟨name, s.known⟩ :: s.savepoints }

def isNamed (name : String) (p : Savepoint) : Bool := p.name.any (sameName name)

/-- The savepoints from the latest of a name on. -/
def savepointsFrom (s : Session) (name : String) : Except Fault (List Savepoint) :=
  match s.anchored.savepoints.dropWhile fun p => !isNamed name p with
  | [] => .error (.noSuchSavepoint name)
  | ps => .ok ps

/-- The transaction is over. No deferred reference may be to nothing. -/
def committed (s : Session) : Except Fault Session :=
  let done := { s with savepoints := [], hold := .free, wrote := s.wrote || s.hold.isWriting }
  match s.savepoints.getLast? with
  | some p => if s.hold.isWriting && breaks p.database s.known (·.deferred) then .error .reference else .ok done
  | none => .ok done

/-- A transaction begins, and holds the database at once or when it is needed. -/
def begun (s : Session) (h : Hold) : Except Fault Session :=
  let s := s.save none
  match h, s.obstacle with
  | .free, _ => .ok s
  | _, some .locked => .error .locked
  | _, some .readOnlyDatabase => .ok (s.holding .reading)
  | h, _ => .ok (s.holding (if s.pragmas.journalMode == "wal" then .writing else h))

def runTransaction (s : Session) : TransactionCommand → Except Fault Session
  | .begin mode =>
    if !s.savepoints.isEmpty then .error .insideTransaction
    else s.begun (match mode with
      | .deferred => .free
      | .immediate => .writing
      | .exclusive => .alone)
  | .commit => if s.savepoints.isEmpty then .error .noCommit else s.committed
  | .rollback => if s.savepoints.isEmpty then .error .noRollback else .ok s.rolledBack
  | .savepoint name => .ok (s.save (some name))
  | .release name => do
    let ps ← s.savepointsFrom name
    if ps.length = 1 then s.committed else return { s.anchored with savepoints := ps.drop 1 }
  | .rollbackTo name => do
    let ps ← s.savepointsFrom name
    return { s with savepoints := ps, database := (ps.head?.map (·.database)).elim s.database .ok }

/-- What is there for good. -/
def settled (s : Session) : Database := (s.anchored.savepoints.getLast?.map (·.database)).getD s.known

/-! ## Running -/

/-- The session after a change. -/
def afterChange (s : Session) (c : Changed) : Session :=
  let s := { s with database := .ok c.database, changes := c.count, lastInsert := c.inserted.getD s.lastInsert }
  match c.failure with
  | some ⟨_, .rollback⟩ => s.rolledBack
  | _ => s

/-- The database with a new table, and the table of largest rowids when that is needed. -/
def created (db : Database) (t : Table) : Database :=
  let db := db.addTable t
  if t.autoincrement ∧ (sequenceTable? db t).isNone then db.addTable (sequenceTable t.temporary) else db
where
  sequenceTable (temporary : Bool) : Table := {
    name := sequenceName, temporary
    sql := "CREATE TABLE sqlite_sequence(name,seq)"
    columns := [{ name := "name", affinity := .blob }, { name := "seq", affinity := .blob }]
    key := none, indexes := [], rows := [] }

/-- The database without a table and what is kept for it. -/
def dropped (db : Database) (t : Table) : Database :=
  let db := db.removeTable t
  match t.autoincrement, sequenceTable? db t with
  | true, some s => db.setTable { s with rows := s.rows.filter fun r => !isSequenceOf t r }
  | _, _ => db

/-- A new table with its rows. -/
def filled (f : Frame) (n : NewTable) : Except Fault Table :=
  match n.source with
  | none => .ok n.table
  | some q => do
    let rows ← Reading.sequence (runSelect f q)
    return rows.foldl (fun t cells => t.putRow (t.stored t.nextRowid cells)) n.table

/-- The database after a definition or a removal. -/
def redefined (db : Database) (f : Frame) : Body → Except Fault Database
  | .createTable n => do return created db (← filled f n)
  | .createIndex n => do
    n.check f
    return db.addIndex n.table n.index
  | .dropTable t => if isReferredTo db t then .error .reference else .ok (dropped db t)
  | .dropIndex n => .ok (db.removeIndex n.table n.index)
  | .createView v => .ok (db.addView v)
  | .dropView v => .ok (db.removeView v)
  | _ => .ok db

/-- Runs a prepared statement to the rows it gives, and the session after it. -/
def step (s : Session) (p : Prepared) (params : List Value) : List Item × Session :=
  match p.writes, s.obstacle with
  | true, some f => ([.error f], s)
  | _, _ =>
    let s := s.holding (if p.writes then .writing else if p.reads then .reading else .free)
    let s := { s with wrote := s.wrote || (p.writes && s.savepoints.isEmpty) }
    let db := s.known
    let f : Frame := { params := params.toArray, counters := ⟨s.lastInsert, s.changes⟩ }
    let change (c : Changed) : List Item × Session :=
      let c := c.followed db f (!s.savepoints.isEmpty)
      (match c.failure with
        | none => c.returned.map .ok
        | some e => [.error e.fault], s.afterChange c)
    match p.body with
    | .select q => (runSelect f q, s)
    | .insert i => change (runInsert db f i)
    | .update u => change (runUpdate db f u)
    | .delete d => change (runDelete db f d)
    | .transaction c =>
      match s.runTransaction c with
      | .ok s => ([], s)
      | .error e => ([.error e], s)
    | .pragma _ rows => (rows.map fun v => .ok [v], s)
    | .nothing => ([], s)
    | body =>
      match redefined db f body with
      | .ok db => ([], { s with database := .ok db })
      | .error e => ([.error e], s)

/-! ## The three ways to run a text -/

def failed (operation cause : String) : Error := .operationFailed operation cause

/-- Runs one statement that gives no rows: how many rows it changed. -/
def execute (s : Session) (sql : String) (params : List Value) : Except Error Nat × Session :=
  match s.prepare sql with
  | .error e => (.error (failed "prepare" e), s)
  | .ok p =>
    match checkParameters p params with
    | .error f => (.error (failed "execute" f.message), s)
    | .ok () =>
      match s.step p params with
      | ([], s) => (.ok s.changes, s)
      | (.error f :: _, s) => (.error (failed "execute" f.message), s)
      | (.ok _ :: _, s) => (.error (failed "execute" (Fault.message .returnedRows)), s)

def pollOf : Item → Poll
  | .ok vs => .row (vs.map .ok)
  | .error f => .failed f.message

/-- Runs one statement for its rows. -/
def query (s : Session) (sql : String) (params : List Value) : Except Error (List RowItem) × Session :=
  match s.prepare sql with
  | .error e => (.error (failed "prepare" e), s)
  | .ok p =>
    match checkParameters p params with
    | .error f => (.error (failed "query" f.message), s)
    | .ok () =>
      let (rows, s) := s.step p params
      (.ok (RowCursor.items { polls := rows.map pollOf, columns := p.columns }), s)

/-- Every statement takes at least one character, so the length of the text bounds them. -/
def batchFrom : Nat → Session → String → Except String Unit × Session
  | 0, s, _ => (.ok (), s)
  | fuel + 1, s, sql =>
    match s.prepareFirst sql with
    | .error e => (.error e, s)
    | .ok none => (.ok (), s)
    | .ok (some (p, rest)) =>
      match s.step p [] with
      | (.error f :: _, s) => (.error f.message, s)
      | (_, s) => batchFrom fuel s rest

def batch (s : Session) (sql : String) : Except Error Unit × Session :=
  let (r, s) := batchFrom (sql.length + 1) s sql
  (r.mapError (failed "execute_batch"), s)

end Session
end TableKeeper.Engine
