import TableKeeper.Sql.Grammar.Fault
import TableKeeper.Value

/-!
  TableKeeper.Sql.Syntax — statements as the grammar reads them.

  1. Names are not resolved yet: a column and a function keep the byte offset of their first
     token, so that an unknown one can be reported at its place.
  2. BETWEEN is read as the two comparisons that it stands for, CASE as nested choices, and
     LIKE and its kin as calls of the function that they name, the pattern first.
  3. A query may stand in an expression and an expression in a query, so the two are defined
     together.
-/

namespace TableKeeper.Sql

/-! ## Expressions -/

inductive Comparison where
  | eq
  | ne
  | lt
  | le
  | gt
  | ge
  /-- IS: equality in which nulls are equal. -/
  | same
  | differs
  deriving DecidableEq, Repr

namespace Comparison

/-- The comparison is true of two values in this order. -/
def holds (c : Comparison) (o : Ordering) : Bool :=
  match c with
  | eq | same => o == .eq
  | ne | differs => o != .eq
  | lt => o == .lt
  | le => o != .gt
  | gt => o == .gt
  | ge => o != .lt

/-- The comparison has an answer for nulls too. -/
def seesNull : Comparison → Bool
  | same | differs => true
  | _ => false

end Comparison

/-- An operator that makes a value of two. -/
inductive Operator where
  | add
  | subtract
  | multiply
  | divide
  | remainder
  | concat
  | bitAnd
  | bitOr
  | shiftLeft
  | shiftRight
  deriving DecidableEq, Repr

inductive Sign where
  | plus
  | minus
  | complement
  deriving DecidableEq, Repr

/-- How a name was written. -/
inductive Quoting where
  | bare
  | quoted
  /-- In double quotes: text, when nothing has the name. -/
  | doubleQuoted
  deriving DecidableEq, Repr

/-- A column with the table and the schema in front of it, if they were written. -/
structure ColumnName where
  schema : Option String := none
  table : Option String := none
  name : String
  quoting : Quoting := .quoted
  offset : Nat
  deriving DecidableEq, Repr

structure TableName where
  schema : Option String := none
  name : String
  deriving DecidableEq, Repr

namespace TableName

/-- The name as messages have it. -/
def text (n : TableName) : String :=
  match n.schema with
  | some s => s ++ "." ++ n.name
  | none => n.name

end TableName

inductive SetOperation where
  | union
  | unionAll
  | intersect
  | except
  deriving DecidableEq, Repr

namespace SetOperation

/-- The operation as messages have it. -/
def text : SetOperation → String
  | union => "UNION"
  | unionAll => "UNION ALL"
  | intersect => "INTERSECT"
  | except => "EXCEPT"

end SetOperation

/-- Which rows a join keeps although nothing goes with them, and whether the two sides go
together by all the columns whose names they share. -/
structure JoinKind where
  left : Bool := false
  right : Bool := false
  natural : Bool := false
  deriving DecidableEq, Repr

mutual

inductive Expr where
  | literal (v : Value)
  /-- Membership in an empty list, or in the complement of one. -/
  | constant (b : Bool)
  /-- By its number, from zero. -/
  | parameter (index offset : Nat)
  | column (c : ColumnName)
  /-- An aggregate sees only the rows that the filter lets through, if there is one. -/
  | call (name : String) (offset : Nat) (distinct : Bool) (args : List Expr) (filter : Option Expr)
  | signed (s : Sign) (e : Expr)
  | not (e : Expr)
  | and (a b : Expr)
  | or (a b : Expr)
  | compare (op : Comparison) (a b : Expr)
  | combine (op : Operator) (a b : Expr)
  | isIn (a : Expr) (items : List Expr)
  | isNull (e : Expr)
  /-- The second where the first is true, and else the third. -/
  | choose (c a b : Expr)
  | cast (e : Expr) (declared : String)
  | collate (e : Expr) (name : String)
  /-- Several values side by side. -/
  | row (items : List Expr)
  /-- The first row of a query. -/
  | query (q : Select)
  /-- A query has rows. -/
  | hasRows (q : Select)
  | isAmong (a : Expr) (q : Select)

inductive ResultColumn where
  | all
  | allOf (table : String)
  /-- An expression, its alias, and its text. -/
  | expr (e : Expr) (label : Option String) (text : String)

/-- What rows are read from. -/
inductive Relation where
  | table (name : TableName)
  | query (q : Select)

structure Source where
  relation : Relation
  label : Option String := none
  /-- How the rows of the sources before go with the rows here. -/
  join : JoinKind := {}
  condition : Option Expr := none
  /-- The columns that both sides have in common. -/
  common : Option (List String) := none
  /-- The index that is to be used, if one is named. -/
  index : Option String := none

structure OrderTerm where
  expr : Expr
  /-- The place of its first operand. -/
  offset : Nat := 0
  descending : Bool := false
  nullsLast : Option Bool := none

structure Core where
  distinct : Bool := false
  columns : List ResultColumn
  sources : List Source := []
  condition : Option Expr := none
  groups : List OrderTerm := []
  having : Option Expr := none

inductive QueryPart where
  | select (c : Core)
  | values (rows : List (List Expr))

/-- A query with a name that stands in front of another query. -/
structure NamedQuery where
  name : String
  columns : Option (List String)
  query : Select

structure Select where
  named : List NamedQuery := []
  first : QueryPart
  others : List (SetOperation × QueryPart) := []
  order : List OrderTerm := []
  limit : Option Expr := none
  offset : Option Expr := none

end

instance : Inhabited Expr := ⟨.constant false⟩

/-! ## Properties of expressions -/

mutual

/-- How many nodes a path from the expression down to a leaf has at most. -/
def Expr.height : Expr → Nat
  | .literal _ | .constant _ | .parameter _ _ | .column _ => 1
  | .call _ _ _ args filter => max (heights args) (height? filter) + 1
  | .signed _ e | .not e | .isNull e | .cast e _ | .collate e _ => e.height + 1
  | .and a b | .or a b | .compare _ a b | .combine _ a b => max a.height b.height + 1
  | .isIn a items => max a.height (heights items) + 1
  | .choose c a b => max c.height (max a.height b.height) + 1
  | .row items => heights items + 1
  | .query q | .hasRows q => q.height + 1
  | .isAmong a q => max a.height q.height + 1

def heights : List Expr → Nat
  | [] => 0
  | e :: es => max e.height (heights es)

def height? : Option Expr → Nat
  | none => 0
  | some e => e.height

def rowHeights : List (List Expr) → Nat
  | [] => 0
  | es :: rest => max (heights es) (rowHeights rest)

def columnHeights : List ResultColumn → Nat
  | [] => 0
  | .expr e _ _ :: rest => max e.height (columnHeights rest)
  | _ :: rest => columnHeights rest

def termHeights : List OrderTerm → Nat
  | [] => 0
  | ⟨e, _, _, _⟩ :: rest => max e.height (termHeights rest)

/-- The sources of a query are not part of the expression that it stands in. -/
def QueryPart.height : QueryPart → Nat
  | .select ⟨_, columns, _, condition, groups, having⟩ =>
    max (columnHeights columns) (max (height? condition) (max (termHeights groups) (height? having)))
  | .values rows => rowHeights rows

def partHeights : List (SetOperation × QueryPart) → Nat
  | [] => 0
  | (_, p) :: rest => max p.height (partHeights rest)

def Select.height : Select → Nat
  | ⟨_, first, others, order, limit, offset⟩ =>
    max first.height (max (partHeights others) (max (termHeights order) (max (height? limit) (height? offset))))

end

namespace Expr

mutual

/-- Some function is called, LIKE among them. A query inside does not count. -/
def calls : Expr → Bool
  | .literal _ | .constant _ | .parameter _ _ | .column _ | .query _ | .hasRows _ => false
  | .call _ _ _ _ _ => true
  | .signed _ e | .not e | .isNull e | .cast e _ | .collate e _ | .isAmong e _ => calls e
  | .and a b | .or a b | .compare _ a b | .combine _ a b => calls a || calls b
  | .isIn a items => calls a || callsAny items
  | .choose c a b => calls c || calls a || calls b
  | .row items => callsAny items

def callsAny : List Expr → Bool
  | [] => false
  | e :: es => calls e || callsAny es

end

mutual

/-- No name is in the expression, no call and no query. -/
def isConstant : Expr → Bool
  | .literal _ | .constant _ | .parameter _ _ => true
  | .column _ | .call _ _ _ _ _ | .query _ | .hasRows _ | .isAmong _ _ => false
  | .signed _ e | .not e | .isNull e | .cast e _ | .collate e _ => isConstant e
  | .and a b | .or a b | .compare _ a b | .combine _ a b => isConstant a && isConstant b
  | .isIn a items => isConstant a && areConstant items
  | .choose c a b => isConstant c && isConstant a && isConstant b
  | .row items => areConstant items

def areConstant : List Expr → Bool
  | [] => true
  | e :: es => isConstant e && areConstant es

end

/-- The place of the leftmost name or call in the expression, if one stands there. -/
def offset? : Expr → Option Nat
  | .column c => some c.offset
  | .call _ offset _ _ _ | .parameter _ offset => some offset
  | .signed _ e | .not e | .isNull e | .cast e _ | .collate e _ => offset? e
  | .and a _ | .or a _ | .compare _ a _ | .combine _ a _ | .isIn a _ | .isAmong a _ => offset? a
  | _ => none

/-- Membership in a list. One item that is constant is compared as it is, without the
affinity of the left side. -/
def among (a : Expr) : List Expr → Expr
  | [] => .constant false
  | [e] => if e.isConstant then .compare .eq a (.signed .plus e) else .isIn a [e]
  | items => .isIn a items

/-- False as it is written: a zero, or membership in an empty list. -/
def isFalse : Expr → Bool
  | .literal (.integer n) => n == 0
  | .constant b => !b
  | _ => false

/-- A conjunction. One with a side that is false as it is written, and with no call in
either, is zero, and the names in it are never looked up. -/
def conjoin (a b : Expr) : Expr :=
  if (a.isFalse || b.isFalse) && !a.calls && !b.calls then .literal (.integer 0) else .and a b

def between (e low high : Expr) : Expr := .and (.compare .ge e low) (.compare .le e high)

end Expr

/-! ## Changes -/

/-- What becomes of a statement whose row breaks a constraint: its work is undone, or that
of the transaction; what it did before stays; the row is left out; or the rows in the way
are removed. -/
inductive Resolution where
  | abort
  | rollback
  | fail
  | ignore
  | replace
  deriving DecidableEq, Repr

inductive ConflictAction where
  | nothing
  | update (assignments : List (String × Expr)) (condition : Option Expr)

structure Upsert where
  /-- The columns whose clash is caught; none catches every clash. -/
  target : Option (List OrderTerm)
  /-- Which rows the index of the columns holds. -/
  partly : Option Expr := none
  action : ConflictAction

/-- The table of a change and the name that it goes by in it. -/
structure Subject where
  table : TableName
  label : Option String := none

namespace Subject

/-- The subject as messages have it. -/
def text (s : Subject) : String := s.label.getD s.table.text

end Subject

structure Insert where
  subject : Subject
  resolution : Option Resolution := none
  columns : Option (List String)
  /-- None inserts the defaults. -/
  source : Option Select
  upserts : List Upsert := []
  returning : List ResultColumn := []
  /-- The queries with names in front. -/
  named : List NamedQuery := []

structure Update where
  subject : Subject
  index : Option String := none
  resolution : Option Resolution := none
  assignments : List (String × Expr)
  /-- What the rows are joined with. -/
  sources : List Source := []
  condition : Option Expr
  returning : List ResultColumn := []
  named : List NamedQuery := []

structure Delete where
  subject : Subject
  index : Option String := none
  condition : Option Expr
  returning : List ResultColumn := []
  named : List NamedQuery := []

/-! ## Definitions -/

structure KeyClause where
  descending : Bool := false
  resolution : Option Resolution := none
  autoincrement : Bool := false

structure CheckClause where
  condition : Expr
  /-- Its name, or else its text. -/
  label : String

/-- What becomes of the rows that refer to a row which goes or changes its key. -/
inductive ReferenceAction where
  | nothing
  | restrict
  | setNull
  | setDefault
  | cascade
  deriving DecidableEq, Repr

/-- A reference to the rows of a table, by some of its columns or by its primary key. -/
structure Reference where
  table : String
  /-- The table's name as it stands in the text, and its place. -/
  text : String
  offset : Nat
  columns : Option (List String)
  onDelete : ReferenceAction := .nothing
  onUpdate : ReferenceAction := .nothing
  /-- It is looked at when the transaction ends. -/
  deferred : Bool := false

inductive ColumnConstraint where
  | primaryKey (k : KeyClause)
  | unique (resolution : Option Resolution)
  | notNull (resolution : Option Resolution)
  | default (e : Expr)
  | check (c : CheckClause)
  | collate (name : String)
  | reference (r : Reference)
  /-- How the last reference is deferred. -/
  | deferral (deferred : Bool)
  /-- The column is computed; how it is kept is one of two words, if it is given. -/
  | generated (e : Expr) (kept : Option String)

inductive TableConstraint where
  | primaryKey (columns : List OrderTerm) (k : KeyClause)
  | unique (columns : List OrderTerm) (resolution : Option Resolution)
  | check (c : CheckClause)
  | reference (columns : List String) (r : Reference)

inductive TableOption where
  /-- Its columns keep values of their types only. -/
  | strict
  /-- Its primary key stands for the rowid. -/
  | withoutRowid
  deriving DecidableEq, Repr

/-- A part of a table's definition; the constraints of a column stand behind it. -/
inductive TablePart where
  | column (name declared : String)
  | ofColumn (c : ColumnConstraint)
  | ofTable (c : TableConstraint)
  | option (o : TableOption)

/-- The name of a thing to be made. -/
structure NewName where
  name : TableName
  /-- The name as it stands in the text, and its place. -/
  text : String
  offset : Nat
  /-- The place of the schema, if one is written. -/
  schemaOffset : Nat := 0

structure CreateTable where
  name : NewName
  temporary : Bool := false
  /-- The text from the name on. -/
  body : String
  ifMissing : Bool := false
  parts : List TablePart
  /-- The query that its columns and rows come from, if there is one. -/
  source : Option Select := none
  /-- Why the definition breaks off behind its parts, if it does. -/
  broken : Option Grammar.Fault := none

structure CreateIndex where
  name : NewName
  unique : Bool := false
  body : String
  ifMissing : Bool := false
  table : String
  columns : List OrderTerm
  /-- Which rows are in the index. -/
  condition : Option Expr := none

structure CreateView where
  name : NewName
  temporary : Bool := false
  body : String
  ifMissing : Bool := false
  columns : Option (List String)
  query : Select
  /-- A parameter stands in the query. -/
  parametric : Bool := false

structure Drop where
  name : TableName
  ifPresent : Bool

/-- When a transaction takes hold of the database: when it needs to, at once for writing, or
at once for itself alone. -/
inductive TransactionMode where
  | deferred
  | immediate
  | exclusive
  deriving DecidableEq, Repr

inductive TransactionCommand where
  | begin (mode : TransactionMode)
  | commit
  | rollback
  | savepoint (name : String)
  | release (name : String)
  | rollbackTo (name : String)
  deriving DecidableEq, Repr

inductive Parsed where
  | select (s : Select)
  | insert (i : Insert)
  | update (u : Update)
  | delete (d : Delete)
  | createTable (c : CreateTable)
  | createIndex (c : CreateIndex)
  | createView (c : CreateView)
  | dropTable (d : Drop)
  | dropView (d : Drop)
  | dropIndex (d : Drop)
  | transaction (c : TransactionCommand)
  /-- A setting by name; the setting form with a value changes nothing. -/
  | pragma (name : String)

end TableKeeper.Sql
