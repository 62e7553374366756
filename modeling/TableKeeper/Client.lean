import TableKeeper.Config.Layer
import TableKeeper.Disk
import TableKeeper.Engine.Session
import TableKeeper.Lock
import TableKeeper.Program

/-!
  TableKeeper.Client — a connection to a database, shared through a lock.

  1. A connection is to a file, to a private database that goes with it, or to a database in
     memory that is shared by its name and goes with the last connection to it.
  2. Each statement, or each query with the reading of its rows, holds the lock. A panic
     while rows are read poisons the lock and changes nothing else.
  3. What a transaction does is with its connection until it is over; temporary tables always
     are.
  4. Opening makes the file when it is not there. The busy timeout must fit 32 signed bits;
     a longer one is a panic. With a write-ahead log, a file remembers it and commits are
     synchronous in the normal way; a private database keeps its own journal, and so does a
     file that cannot be written.
-/

namespace TableKeeper

open Engine Sql

inductive Place where
  | memory (db : Database)
  /-- Private, in a file without a name. -/
  | temporary (db : Database)
  /-- In memory, by its name. -/
  | shared (name : String)
  | file (path : FullPath)

structure Connection where
  place : Place
  readOnly : Bool := false
  /-- Its file may keep a write-ahead log. -/
  canLog : Bool := true
  synchronous : Int64 := 2
  busyTimeout : Int64 := 5000
  lastInsert : Int64 := 0
  changes : Nat := 0
  /-- The temporary tables. -/
  own : Database := {}
  /-- The states of an open transaction, how it holds the database, what it has made of it,
  and how often that was written before. -/
  savepoints : List Savepoint := []
  hold : Hold := .free
  working : Option Database := none
  seen : Nat := 0

/-- A handle on a database, with the disk that its file is on. -/
structure Client where
  disk : Disk
  lock : Lock Connection
  /-- The path as it was given; none in memory. -/
  path : Option String

namespace Connection

def journalMode (d : Disk) : Place → String
  | .memory _ => "memory"
  | .shared _ => "memory"
  | .temporary _ => "delete"
  | .file p => if (d.stored? p).any (·.wal) then "wal" else "delete"

/-- How others hold the database of a place. -/
def heldByOthers (d : Disk) (p : FullPath) : Hold :=
  match d.held with
  | some (q, h) => if p = q then h else .free
  | none => .free

/-- The database of a place, or why nothing can be read. -/
def database (d : Disk) : Place → Except Fault Database
  | .memory db | .temporary db => .ok db
  | .shared name => .ok ((d.sharedDatabase? name).getD {})
  | .file p =>
    if !d.canRead p then .error .diskFault
    else if heldByOthers d p = .alone then .error .locked
    else match d.stored? p with
      | some s => .ok s.database
      | none => .error .notADatabase

/-- Others have written since the transaction began to read. -/
def isStale (d : Disk) (c : Connection) (p : FullPath) : Bool :=
  c.hold == .reading && (d.stored? p).any (·.version ≠ c.seen)

/-- Why nothing can be written, if nothing can. -/
def obstacle? (d : Disk) (c : Connection) : Option Fault :=
  match c.readOnly, c.place with
  | true, _ => some .readOnlyDatabase
  | false, .file p =>
    let logged := (d.stored? p).any (·.wal)
    if !(heldByOthers d p).letsWrite logged || isStale d c p then some .locked
    else if !logged && !d.canKeepJournal p then some .cannotOpen
    else none
  | false, _ => none

def session (d : Disk) (c : Connection) : Session where
  database := match c.working with
    | some db => .ok db
    | none => (database d c.place).map (·.withTemporary c.own)
  savepoints := c.savepoints
  hold := c.hold
  obstacle := c.obstacle? d
  pragmas := { journalMode := journalMode d c.place, synchronous := c.synchronous, busyTimeout := c.busyTimeout }
  lastInsert := c.lastInsert
  changes := c.changes

end Connection

namespace Client

/-- The disk and the place with a database kept there. -/
def keep (d : Disk) (db : Database) : Place → Place × Disk
  | .memory _ => (.memory db, d)
  | .temporary _ => (.temporary db, d)
  | .shared name => (.shared name, d.putShared name db)
  | .file p =>
    let old := (d.stored? p).getD {}
    (.file p, d.putFile p (.database { old with database := db, version := old.version + 1 }))

/-- How often the database was written when a transaction began to hold it. -/
def seenBy (c : Client) (s : Session) : Nat :=
  match c.lock.value.place with
  | .file p =>
    if c.lock.value.hold = Hold.free ∧ s.hold ≠ Hold.free then ((c.disk.stored? p).map (·.version)).getD 0
    else c.lock.value.seen
  | _ => c.lock.value.seen

/-- The client after a session. What is there for good is kept, which a transaction is not
before it is over. -/
def withSession (c : Client) (s : Session) : Client :=
  let conn := { c.lock.value with
    lastInsert := s.lastInsert
    changes := s.changes
    savepoints := s.savepoints
    hold := s.hold
    own := s.known.onlySchema true
    working := if s.hold = Hold.free then none else s.database.toOption
    seen := c.seenBy s }
  let (place, disk) :=
    if s.wrote then keep c.disk (s.settled.onlySchema false) conn.place else (conn.place, c.disk)
  { c with disk, lock := { c.lock with value := { conn with place } } }

def session (c : Client) : Session := c.lock.value.session c.disk

def execute (c : Client) (s : Statement) : Reply Client WriteOutcome :=
  let (r, session) := c.session.execute s.sql s.params
  { result := r.map fun n => ⟨n, session.lastInsert⟩
    state := c.withSession session
    notices := c.lock.acquire }

def query (c : Client) (s : Statement) : Reply Client (List RowItem) :=
  let (r, session) := c.session.query s.sql s.params
  { result := r, state := c.withSession session, notices := c.lock.acquire }

def batch (c : Client) (sql : String) : Reply Client Unit :=
  let (r, session) := c.session.batch sql
  { result := r, state := c.withSession session, notices := c.lock.acquire }

/-- The files as another connection finds them. -/
def lent (c : Client) : Disk :=
  match c.lock.value.place with
  | .file p => { c.disk with held := some (p, c.lock.value.hold) }
  | _ => c.disk

/-- The client after another connection has come and gone. -/
def resumed (c : Client) (d : Disk) : Client := { c with disk := { d with held := none } }

def handle : Handle Client where
  execute := execute
  query := query
  release := id
  unwind c := { c with lock := c.lock.poison id }

/-! ## Opening -/

/-- The longest busy timeout that a connection takes. -/
def timeoutLimit : Nat := 2147483647

/-- What came of opening: none is a panic. -/
structure Opening where
  result : Option (Except Error Client)
  notices : List Notice := []

/-- A file that is a database and can be written remembers its write-ahead log. -/
def withLog (wal : Bool) (c : Connection) (d : Disk) : Disk :=
  match c.place with
  | .file p =>
    match wal && c.canLog && d.canRead p && (c.obstacle? d).isNone, d.stored? p with
    | true, some s => d.putFile p (.database { s with wal := true })
    | _, _ => d
  | _ => d

/-- The connection after its settings; none is a panic. -/
def configured? (s : ConnectionSettings) (c : Client) : Option Client :=
  if timeoutLimit < s.busyTimeout.toNat then none
  else
    let conn := { c.lock.value with
      busyTimeout := .ofNat s.busyTimeout.toNat
      synchronous := if s.wal then 1 else c.lock.value.synchronous }
    some { c with disk := withLog s.wal conn c.disk, lock := { c.lock with value := conn } }

def atPlace (d : Disk) (path : Option String) (place : Place) : Client :=
  { disk := d, lock := { value := { place } }, path }

def inMemory (d : Disk) : Client := atPlace d none (.memory {})

def unopenable (path : String) : Error := .connection path ("unable to open database file: " ++ path)

/-- A connection to what a name says, as it is before any settings. -/
def openNamed (d : Disk) (path : String) (n : DatabaseName) : Except Error Client :=
  let opened (d : Disk) (place : Place) : Client :=
    { disk := d
      lock := { value := { place, readOnly := n.access == .readOnly || n.immutable, canLog := n.canLog } }
      path := some path }
  match n.storage with
  | .memory => .ok (opened d (.memory {}))
  | .temporary => .ok (opened d (.temporary {}))
  | .shared name => .ok (opened (if (d.sharedDatabase? name).isSome then d else d.putShared name {}) (.shared name))
  | .file p =>
    if n.permissionsOf.any fun q => !d.pathExists q then .error (.connection path Fault.diskFault.message)
    else match d.openDatabase? p n.access with
      | some (d, full) => .ok (opened d (.file full))
      | none => .error (unopenable path)

/-- A connection by the text given to open it. -/
def openPath (d : Disk) (path : String) : Except Error Client :=
  match path.toList.findIdx? (·.toNat = 0) with
  | some n =>
    let bytes := Text.byteLength (path.toList.take n)
    .error (.connection path ("nul byte found in provided data at position: " ++ toString bytes))
  | none =>
    match DatabaseName.parse path with
    | .error f => .error (.connection path f.message)
    | .ok name => openNamed d path name

/-- The files after the connection is closed. -/
def close (c : Client) : Disk :=
  match c.lock.value.place with
  | .shared name => c.disk.dropShared name
  | _ => c.disk

def connectMemory (d : Disk) (s : ConnectionSettings) : Opening := { result := (configured? s (inMemory d)).map .ok }

def connectSpan (path : String) : Span := ⟨"connect", .handle, [("path", .text path)]⟩

def connect (d : Disk) (path : String) (s : ConnectionSettings) : Opening :=
  let enter := Notice.enter (connectSpan path)
  match openPath d path with
  | .error e => { result := some (.error e), notices := [enter, .leave] }
  | .ok c =>
    match configured? s c with
    | none => { result := none, notices := [enter, .leave] }
    | some c => { result := some (.ok c), notices := [enter, .debug .handle "opened sqlite database" [], .leave] }

/-- A connection that was opened elsewhere and is taken over as it is. Its path is the full
one of its file, if it has one. -/
def adopt (d : Disk) (path : Option String) : Except Error Client :=
  match path with
  | none => .ok (inMemory d)
  | some p => (openPath d p).map fun c =>
    { c with path := match c.lock.value.place with
      | .file full => some (Disk.fullText full)
      | _ => none }

end Client
end TableKeeper
