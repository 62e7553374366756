import TableKeeper.Sql.Clause

/-!
  TableKeeper.Sql.Command — the statements that a store sends.

  1. A command is data, and `text` spells it. A tail is the text of a compiled clause.
  2. An INSERT, UPDATE or upsert names at least one column; from none there is no
     statement (`NoColumns`).
  3. An upsert is an INSERT that, where a row already has the key, overwrites the named
     columns except the key itself, or does nothing when there is no other.
-/

namespace TableKeeper.Sql

open Text

/-- A statement and the values of its parameters. -/
structure Statement where
  sql : String
  params : List Value
  deriving DecidableEq

/-- There is no statement that writes no column. -/
structure NoColumns where
  verb : String
  table : String

def NoColumns.error (f : NoColumns) : Error :=
  .invalidInput ("cannot build " ++ f.verb ++ " for table '" ++ f.table ++ "' from a record with no columns")

inductive Command where
  | select (table : String) (fields : Option (List String)) (tail : String)
  | selectById (table : String)
  | count (table tail : String)
  | delete (table tail : String)
  | insert (table : String) (columns : List String)
  | update (table : String) (columns : List String)
  | upsert (table : String) (columns : List String)

def quoteNames (names : List String) : String := joined "," (names.map quoteName)

def placeholdersFor (columns : List String) : String := joined "," (columns.map fun _ => "?")

def assignments (columns : List String) : String := joined "," (columns.map fun c => quoteName c ++ "=?")

def insertText (table : String) (columns : List String) : String :=
  "INSERT INTO " ++ quoteName table ++ " (" ++ quoteNames columns ++ ") VALUES (" ++ placeholdersFor columns ++ ")"

/-- The columns that an upsert overwrites. -/
def overwritten (columns : List String) : List String := columns.filter (· ≠ Record.idColumn)

def conflictAction (columns : List String) : String :=
  if (overwritten columns).isEmpty then "DO NOTHING"
  else "DO UPDATE SET " ++ joined "," ((overwritten columns).map fun c => quoteName c ++ "=excluded." ++ quoteName c)

def Command.text : Command → String
  | select table fields tail =>
    let projection := match fields with
      | none => "*"
      | some names => quoteNames names
    "SELECT " ++ projection ++ " FROM " ++ quoteName table ++ tail
  | selectById table => "SELECT * FROM " ++ quoteName table ++ " WHERE " ++ quoteName Record.idColumn ++ "=?"
  | count table tail => "SELECT count(*) FROM " ++ quoteName table ++ tail
  | delete table tail => "DELETE FROM " ++ quoteName table ++ tail
  | insert table columns => insertText table columns
  | update table columns =>
    "UPDATE " ++ quoteName table ++ " SET " ++ assignments columns ++ " WHERE " ++ quoteName Record.idColumn ++ "=?"
  | upsert table columns =>
    insertText table columns ++ " ON CONFLICT(" ++ quoteName Record.idColumn ++ ") " ++ conflictAction columns

/-! ## Commands that write columns -/

def insert? (table : String) (columns : List String) : Except NoColumns Command :=
  if columns.isEmpty then .error ⟨"insert", table⟩ else .ok (.insert table columns)

def update? (table : String) (columns : List String) : Except NoColumns Command :=
  if columns.isEmpty then .error ⟨"update", table⟩ else .ok (.update table columns)

def upsert? (table : String) (columns : List String) : Except NoColumns Command :=
  if columns.isEmpty then .error ⟨"insert", table⟩ else .ok (.upsert table columns)

end TableKeeper.Sql
