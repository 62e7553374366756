import TableKeeper.Store.Observed

/-!
  TableKeeper.Store.Operations — records in one table, by key, by list of keys or by filter.

  1. `exists?`, `read` and `remove` take an identifier; `list`, `iterate` and `count` take a
     filter. All compile to one clause, so all agree on the rows that are meant.
  2. `write` with a key is one upsert. When the record carries another key it is a rename,
     and when the table has no unique key the upsert is refused: both go on by
     `writeChecked`, which looks for the row first and then updates or creates.
  3. A key that is not truthy counts as absent, and a write without a key creates.
  4. An empty record has no statement; the error comes before any statement is sent.
-/

namespace TableKeeper

open Sql

/-- A table and how lists reach it. -/
structure Store where
  table : String
  binding : ListBinding := .bound

namespace Store

/-! ## Notices -/

def sent (message : String) (s : Statement) : Notice :=
  .debug .store message [("sql", .text s.sql), ("params", .number s.params.length)]

def spanOf (st : Store) (operation : String) (more : FieldList) : Span :=
  ⟨operation, .store, [("operation", .text operation), ("table", .text st.table)] ++ more⟩

def columnsField (r : Record) : FieldList := [("columns", .number r.size)]

def predicatesField (f : Filter) : FieldList := [("predicates", .number f.size)]

/-! ## Statements -/

def statement (c : Command) (params : List Value) : Statement := ⟨c.text, params⟩

def selectStatement (st : Store) (f : Filter) (o : QueryOptions) : Statement :=
  let c := compile st.binding f o
  statement (.select st.table o.fields c.text) c.values

def countStatement (st : Store) (f : Filter) : Statement :=
  let c := compile st.binding f {}
  statement (.count st.table c.text) c.values

def deleteStatement (st : Store) (f : Filter) : Statement :=
  let c := compile st.binding f {}
  statement (.delete st.table c.text) c.values

/-- A command over columns, or its refusal as an error. -/
def shaped (c : Except NoColumns Command) (params : List Value) : Except Error Statement :=
  match c with
  | .ok c => .ok (statement c params)
  | .error f => .error f.error

def insertStatement (st : Store) (r : Record) : Except Error Statement :=
  shaped (insert? st.table r.names) r.values

def upsertStatement (st : Store) (r : Record) : Except Error Statement :=
  shaped (upsert? st.table r.names) r.values

/-- The key is the last parameter. -/
def updateStatement (st : Store) (id : Value) (r : Record) : Except Error Statement :=
  shaped (update? st.table r.names) (r.values ++ [id])

/-! ## Reading -/

def select (st : Store) (f : Filter) (o : QueryOptions) : Call (List Record) := do
  let s := st.selectStatement f o
  Call.tell (sent "selecting" s)
  Call.fetchAll s

/-- The first row of a filter, by key alone. -/
def existenceOptions : QueryOptions := { fields := some [Record.idColumn], limit := some 1 }

def exists? (st : Store) (i : Identifier) : Call Bool :=
  inSpan (st.spanOf "exists" []) <| observe "exists" st.table do
    return !(← st.select i.toFilter existenceOptions).isEmpty

def read (st : Store) (i : Identifier) : Call (Option Record) :=
  inSpan (st.spanOf "read" []) <| observe "read" st.table do
    match i with
    | .key v =>
      let s := statement (.selectById st.table) [v]
      Call.tell (.debug .store "reading by id" [("sql", .text s.sql)])
      Call.fetchRow s
    | i => return (← st.select i.toFilter { limit := some 1 }).head?

def list (st : Store) (f : Filter) (o : QueryOptions) : Call (List Record) :=
  inSpan (st.spanOf "list" (predicatesField f)) <| observe "list" st.table <| st.select f o

def iterate {α : Type} (st : Store) (f : Filter) (o : QueryOptions) (reader : Reader α) : Call α :=
  inSpan (st.spanOf "iterate" (predicatesField f)) <| observe "iterate" st.table do
    let s := st.selectStatement f o
    Call.tell (sent "iterating" s)
    Call.read s reader

/-- A count is an integer that is not negative. -/
def countOf (v : Value) : Except Error Nat :=
  match v with
  | .integer n => if 0 ≤ n.toInt then .ok n.toInt.toNat else unexpected v
  | v => unexpected v
where
  unexpected (v : Value) : Except Error Nat :=
    .error (.operationFailed "count" ("unexpected count value " ++ v.display))

/-- Counts the rows of a filter; projection, order and pagination do not matter. -/
def count (st : Store) (f : Filter) (_ : QueryOptions) : Call Nat :=
  inSpan (st.spanOf "count" (predicatesField f)) <| observe "count" st.table do
    let s := st.countStatement f
    Call.tell (sent "counting" s)
    ExceptT.mk (.done (countOf (← Call.fetchScalar s)))

/-! ## Writing -/

def truthy? (id : Option Value) : Option Value := id.filter Value.truthy

/-- The record with the key added, where a truthy one is given. -/
def keyed (id : Option Value) (r : Record) : Record :=
  match truthy? id with
  | some id => Record.withId r id
  | none => r

def send (message : String) (s : Except Error Statement) : Call WriteOutcome := do
  let s ← ExceptT.mk (.done s)
  Call.tell (sent message s)
  Call.execute s

def create (st : Store) (id : Option Value) (r : Record) : Call WriteOutcome :=
  inSpan (st.spanOf "create" (columnsField r)) <| observe "create" st.table <|
    send "inserting" (st.insertStatement (keyed id r))

def update (st : Store) (id : Value) (r : Record) : Call WriteOutcome :=
  inSpan (st.spanOf "update" (columnsField r)) <| observe "update" st.table <|
    send "updating" (st.updateStatement id r)

def remove (st : Store) (i : Identifier) : Call WriteOutcome :=
  inSpan (st.spanOf "remove" []) <| observe "remove" st.table <|
    send "deleting" (.ok (st.deleteStatement i.toFilter))

def writeChecked (st : Store) (id : Option Value) (r : Record) : Call WriteOutcome := do
  match truthy? id with
  | some id =>
    if ← st.exists? (.key id) then st.update id r else st.create (some id) r
  | none => st.create none r

/-- An upsert was refused because nothing makes the key unique. -/
def lacksUniqueId : Error → Bool
  | .operationFailed _ cause => Text.occurs "ON CONFLICT clause does not match".toList cause.toList
  | _ => false

/-- The record carries a key other than the given one. -/
def renames (id : Value) (r : Record) : Bool :=
  match r.get? Record.idColumn with
  | some own => !own.eqv id
  | none => false

/-- One upsert; refused for lack of a unique key, it is done by looking first. -/
def upsert (st : Store) (id : Value) (r : Record) : Call WriteOutcome := do
  let s ← ExceptT.mk (.done (st.upsertStatement r))
  Call.tell (sent "upserting" s)
  ExceptT.mk <| (Call.execute s).run.bind fun
    | .ok o => .done (.ok o)
    | .error e =>
      if lacksUniqueId e then
        (do
          Call.tell (.debug .store "no unique id constraint, writing by key" [("error", .text e.message)])
          st.writeChecked (some id) r).run
      else .done (.error e)

def write (st : Store) (id : Option Value) (r : Record) : Call WriteOutcome :=
  inSpan (st.spanOf "write" (columnsField r)) <|
    match truthy? id with
    | none => st.create none r
    | some id => observe "write" st.table <|
      if renames id r then do
        Call.tell (.debug .store "record renames its id, writing by key" [("key", .text id.display)])
        st.writeChecked (some id) r
      else st.upsert id (Record.withId r id)

end Store
end TableKeeper
