import TableKeeper.Sql.Grammar

/-!
  TableKeeper.Engine.Fault — why a statement fails.

  Each fault has a message. Some also have a place in the statement, counted in bytes, and
  are then reported with the statement's text and that place.
-/

namespace TableKeeper.Engine

open Sql

inductive Fault where
  | grammar (f : Grammar.Fault)
  /-- In the text of a view, which has no place in the statement. -/
  | inView (f : Fault)
  -- names
  | noSuchTable (name : String)
  | noSuchIndex (name : String)
  | noSuchView (name : String)
  /-- With the place, when the column stands in an expression. -/
  | noSuchColumn (name : String) (offset : Option Nat)
  | ambiguousColumn (name : String) (offset : Nat)
  | noColumnNamed (table column : String)
  | noSuchFunction (name : String) (offset : Nat)
  | noSuchCollation (name : String)
  | noTables
  -- calls
  | argumentCount (function : String) (offset : Nat)
  | misusedAggregate (function : String) (offset : Nat)
  /-- In a place where there is no group. -/
  | misplacedAggregate (function : String) (offset : Nat)
  | misusedAlias (name : String)
  | distinctArguments
  /-- FILTER at a function that is no aggregate. -/
  | misplacedFilter (function : String) (offset : Nat)
  | aggregateInGroups
  | havingWithoutGroups
  -- queries
  | tooManyColumns
  | tooManySources
  | conditionedNatural
  | notCommon (column : String)
  | circularReference (name : String)
  | severalMentions (name : String)
  | recursiveAggregate
  | namedWidth (name : String) (values columns : Nat)
  | circularView (name : String)
  | viewWidth (expected : Nat) (name : String) (columns : Nat)
  | misusedRow
  | queryWidth (columns expected : Nat)
  /-- What may not stand in a place, and the place. -/
  | prohibited (what place : String) (offset : Option Nat)
  | unevenParts (operation : String)
  /-- An order term by its number from one, outside the columns. -/
  | orderRange (term : Nat) (clause : String) (columns : Nat) (offset : Option Nat)
  | orderMissing (term : Nat)
  -- definitions
  /-- A table or a view has the name. -/
  | nameTaken (kind name : String) (offset : Nat)
  | indexExists (name : String)
  | indexNamed (name : String)
  | tableNamed (name : String)
  | unknownSchema (name : String) (offset : Nat)
  | reservedName (name : String)
  | duplicateColumn (name : String)
  | severalKeys (table : String)
  | misplacedAutoincrement
  | variableDefault (column : String)
  | tooManyTableColumns (table : String)
  | conflictingResolutions
  | badGenerated (column : String)
  | generatedDefault
  | generatedKey
  | onlyGenerated
  | missingType (table column : String)
  | unknownType (table column declared : String)
  | missingKey (table : String)
  | autoincrementWithoutRowid
  | generatedInsert (column : String)
  | generatedUpdate (column : String)
  /-- A reference of one column to several, with the table's name as it stands in the text. -/
  | severalReferenced (column table : String) (offset : Nat)
  | unevenReference
  | unknownReferring (column : String)
  | prohibitedExpressions
  | prohibitedNulls (last : Bool)
  | qualifiedTemporary
  | temporaryIndex (table : String)
  | undroppableTable (name : String)
  | undroppableIndex
  | droppedViewAsTable (name : String)
  | droppedTableAsView (name : String)
  | unindexableView
  | parametricView
  -- changes
  | readOnly (table : String)
  | unindexable (table : String)
  | unchangeableView (name : String)
  | valueCount (table : String) (columns values : Nat)
  | namedCount (columns values : Nat)
  /-- With the number of the clause, when there are several. -/
  | noConflictTarget (clause : Option Nat)
  | notNull (table column : String)
  | unique (table : String) (columns : List String)
  | uniqueIndex (name : String)
  | check (label : String)
  | reference
  | referenceMismatch (table parent : String)
  | mismatch
  | wrongType (given type table column : String)
  | starredReturning
  | full
  -- values
  | patternTooLong
  | badEscape
  | integerOverflow
  -- transactions
  | insideTransaction
  | noCommit
  | noRollback
  | noSuchSavepoint (name : String)
  -- connections
  | notADatabase
  | diskFault
  | locked
  | readOnlyDatabase
  | cannotOpen
  | severalStatements
  | returnedRows
  | parameterCount (given needed : Nat)
  deriving DecidableEq, Repr

namespace Fault

/-- The number of a place in a list, as a word. -/
def ordinal (n : Nat) : String :=
  toString n ++
    if 11 ≤ n % 100 ∧ n % 100 ≤ 13 then "th"
    else if n % 10 = 1 then "st"
    else if n % 10 = 2 then "nd"
    else if n % 10 = 3 then "rd"
    else "th"

def message : Fault → String
  | grammar f => f.message
  | inView f => f.message
  | noSuchTable name => "no such table: " ++ name
  | noSuchIndex name => "no such index: " ++ name
  | noSuchView name => "no such view: " ++ name
  | noSuchColumn name _ => "no such column: " ++ name
  | ambiguousColumn name _ => "ambiguous column name: " ++ name
  | noColumnNamed table column => "table " ++ table ++ " has no column named " ++ column
  | noSuchFunction name _ => "no such function: " ++ name
  | noSuchCollation name => "no such collation sequence: " ++ name
  | noTables => "no tables specified"
  | argumentCount function _ => "wrong number of arguments to function " ++ function ++ "()"
  | misusedAggregate function _ => "misuse of aggregate function " ++ function ++ "()"
  | misplacedAggregate function _ => "misuse of aggregate: " ++ function ++ "()"
  | misusedAlias name => "misuse of aliased aggregate " ++ name
  | distinctArguments => "DISTINCT aggregates must have exactly one argument"
  | misplacedFilter function _ => "FILTER may not be used with non-aggregate " ++ function ++ "()"
  | tooManySources => "at most 64 tables in a join"
  | conditionedNatural => "a NATURAL join may not have an ON or USING clause"
  | notCommon column => "cannot join using column " ++ column ++ " - column not present in both tables"
  | circularReference name => "circular reference: " ++ name
  | severalMentions name => "multiple references to recursive table: " ++ name
  | recursiveAggregate => "recursive aggregate queries not supported"
  | namedWidth name values columns =>
    "table " ++ name ++ " has " ++ toString values ++ " values for " ++ toString columns ++ " columns"
  | circularView name => "view " ++ name ++ " is circularly defined"
  | viewWidth expected name columns =>
    "expected " ++ toString expected ++ " columns for '" ++ name ++ "' but got " ++ toString columns
  | misusedRow => "row value misused"
  | queryWidth columns expected =>
    "sub-select returns " ++ toString columns ++ " columns - expected " ++ toString expected
  | prohibited what place _ => what ++ " prohibited in " ++ place
  | aggregateInGroups => "aggregate functions are not allowed in the GROUP BY clause"
  | havingWithoutGroups => "HAVING clause on a non-aggregate query"
  | tooManyColumns => "too many columns in result set"
  | unevenParts operation =>
    "SELECTs to the left and right of " ++ operation ++ " do not have the same number of result columns"
  | orderRange term clause columns _ =>
    ordinal term ++ " " ++ clause ++ " BY term out of range - should be between 1 and " ++ toString columns
  | orderMissing term => ordinal term ++ " ORDER BY term does not match any column in the result set"
  | nameTaken kind name _ => kind ++ " " ++ name ++ " already exists"
  | indexExists name => "index " ++ name ++ " already exists"
  | indexNamed name => "there is already an index named " ++ name
  | tableNamed name => "there is already a table named " ++ name
  | unknownSchema name _ => "unknown database " ++ name
  | reservedName name => "object name reserved for internal use: " ++ name
  | duplicateColumn name => "duplicate column name: " ++ name
  | severalKeys table => "table \"" ++ table ++ "\" has more than one primary key"
  | misplacedAutoincrement => "AUTOINCREMENT is only allowed on an INTEGER PRIMARY KEY"
  | variableDefault column => "default value of column [" ++ column ++ "] is not constant"
  | tooManyTableColumns table => "too many columns on " ++ table
  | badGenerated column => "error in generated column \"" ++ column ++ "\""
  | generatedDefault => "cannot use DEFAULT on a generated column"
  | generatedKey => "generated columns cannot be part of the PRIMARY KEY"
  | onlyGenerated => "must have at least one non-generated column"
  | missingType table column => "missing datatype for " ++ table ++ "." ++ column
  | unknownType table column declared =>
    "unknown datatype for " ++ table ++ "." ++ column ++ ": \"" ++ declared ++ "\""
  | missingKey table => "PRIMARY KEY missing on table " ++ table
  | autoincrementWithoutRowid => "AUTOINCREMENT not allowed on WITHOUT ROWID tables"
  | generatedInsert column => "cannot INSERT into generated column \"" ++ column ++ "\""
  | generatedUpdate column => "cannot UPDATE generated column \"" ++ column ++ "\""
  | severalReferenced column table _ =>
    "foreign key on " ++ column ++ " should reference only one column of table " ++ table
  | unevenReference => "number of columns in foreign key does not match the number of columns in the referenced table"
  | unknownReferring column => "unknown column \"" ++ column ++ "\" in foreign key definition"
  | conflictingResolutions => "conflicting ON CONFLICT clauses specified"
  | prohibitedExpressions => "expressions prohibited in PRIMARY KEY and UNIQUE constraints"
  | prohibitedNulls last => "unsupported use of NULLS " ++ if last then "LAST" else "FIRST"
  | qualifiedTemporary => "temporary table name must be unqualified"
  | temporaryIndex table => "cannot create a TEMP index on non-TEMP table \"" ++ table ++ "\""
  | undroppableTable name => "table " ++ name ++ " may not be dropped"
  | undroppableIndex => "index associated with UNIQUE or PRIMARY KEY constraint cannot be dropped"
  | droppedViewAsTable name => "use DROP VIEW to delete view " ++ name
  | droppedTableAsView name => "use DROP TABLE to delete table " ++ name
  | unindexableView => "views may not be indexed"
  | parametricView => "parameters are not allowed in views"
  | readOnly table => "table " ++ table ++ " may not be modified"
  | unindexable table => "table " ++ table ++ " may not be indexed"
  | unchangeableView name => "cannot modify " ++ name ++ " because it is a view"
  | valueCount table columns values =>
    "table " ++ table ++ " has " ++ toString columns ++ " columns but " ++ toString values ++ " values were supplied"
  | namedCount columns values => toString values ++ " values for " ++ toString columns ++ " columns"
  | noConflictTarget clause =>
    (match clause with
      | some n => ordinal n ++ " "
      | none => "") ++ "ON CONFLICT clause does not match any PRIMARY KEY or UNIQUE constraint"
  | notNull table column => "NOT NULL constraint failed: " ++ table ++ "." ++ column
  | unique table columns =>
    "UNIQUE constraint failed: " ++ Text.joined ", " (columns.map fun c => table ++ "." ++ c)
  | uniqueIndex name => "UNIQUE constraint failed: index '" ++ name ++ "'"
  | check label => "CHECK constraint failed: " ++ label
  | reference => "FOREIGN KEY constraint failed"
  | referenceMismatch table parent =>
    "foreign key mismatch - \"" ++ table ++ "\" referencing \"" ++ parent ++ "\""
  | mismatch => "datatype mismatch"
  | wrongType given type table column =>
    "cannot store " ++ given ++ " value in " ++ type ++ " column " ++ table ++ "." ++ column
  | starredReturning => "RETURNING may not use \"TABLE.*\" wildcards"
  | full => "database or disk is full"
  | patternTooLong => "LIKE or GLOB pattern too complex"
  | badEscape => "ESCAPE expression must be a single character"
  | integerOverflow => "integer overflow"
  | insideTransaction => "cannot start a transaction within a transaction"
  | noCommit => "cannot commit - no transaction is active"
  | noRollback => "cannot rollback - no transaction is active"
  | noSuchSavepoint name => "no such savepoint: " ++ name
  | notADatabase => "file is not a database"
  | diskFault => "disk I/O error"
  | locked => "database is locked"
  | readOnlyDatabase => "attempt to write a readonly database"
  | cannotOpen => "unable to open database file"
  | severalStatements => "Multiple statements provided"
  | returnedRows => "Execute returned results - did you mean to call query?"
  | parameterCount given needed =>
    "Wrong number of parameters passed to query. Got " ++ toString given ++ ", needed " ++ toString needed

def offset? : Fault → Option Nat
  | grammar f => f.offset?
  | noSuchColumn _ offset => offset
  | ambiguousColumn _ offset => some offset
  | noSuchFunction _ offset => some offset
  | argumentCount _ offset => some offset
  | misusedAggregate _ offset => some offset
  | misplacedAggregate _ offset => some offset
  | misplacedFilter _ offset => some offset
  | prohibited _ _ offset => offset
  | orderRange _ _ _ offset => offset
  | nameTaken _ _ offset => some offset
  | unknownSchema _ offset => some offset
  | severalReferenced _ _ offset => some offset
  | _ => none

/-- The message, with the statement and the place where the fault has one. -/
def text (sql : String) (f : Fault) : String :=
  match f.offset? with
  | some n => f.message ++ " in " ++ sql ++ " at offset " ++ toString n
  | none => f.message

end Fault
end TableKeeper.Engine
