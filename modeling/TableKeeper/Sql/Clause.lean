import TableKeeper.Filter
import TableKeeper.Options

/-!
  TableKeeper.Sql.Clause — a filter and options as the tail of a statement.

  1. A clause is data: predicates, order terms, limit and offset. `text` is the one place
     that spells it.
  2. Names stand between back-ticks and are not escaped; a name with a back-tick does not
     survive.
  3. `compile` gives the predicates in filter order. Each value that is not written into
     the text is a parameter, and `values` has them in the order of their `?`.
  4. A bound list has one parameter per item, an inline list has one literal per item. A
     number or text is a quoted literal, null is the keyword, and bytes are hexadecimal.
  5. Order terms of any direction but 1 and -1 are dropped, and so are a limit and an offset
     of zero. An offset without a limit is written after `LIMIT -1`, which bounds nothing.
-/

namespace TableKeeper.Sql

open Text

def quoteName (name : String) : String := "`" ++ name ++ "`"

/-- Doubles every single quote. -/
def doubleQuotes : List Char → List Char
  | [] => []
  | c :: rest => if c = '\'' then '\'' :: '\'' :: doubleQuotes rest else c :: doubleQuotes rest

/-- The text of a value as it stands between single quotes. -/
def escaped (v : Value) : String := .ofList (doubleQuotes v.display.toList)

/-- A value written into the text. -/
def literal : Value → String
  | .null => "NULL"
  | .blob bytes => "X'" ++ hex bytes ++ "'"
  | v => "'" ++ escaped v ++ "'"

/-! ## Clauses -/

/-- An item of a list predicate. -/
inductive Item where
  | parameter
  | literal (v : Value)

inductive Predicate where
  | equals (field : String)
  | like (field : String)
  | oneOf (field : String) (items : List Item)

inductive Direction where
  | ascending
  | descending
  deriving DecidableEq, Repr

structure Clause where
  predicates : List Predicate := []
  order : List (String × Direction) := []
  limit : Option UInt64 := none
  offset : Option UInt64 := none

def Item.text : Item → String
  | parameter => "?"
  | .literal v => Sql.literal v

def Predicate.text : Predicate → String
  | equals field => quoteName field ++ "=?"
  | like field => quoteName field ++ " LIKE ?"
  | oneOf field items => quoteName field ++ " IN (" ++ joined "," (items.map Item.text) ++ ")"

def Direction.text : Direction → String
  | ascending => "ASC"
  | descending => "DESC"

def orderTermText (t : String × Direction) : String := quoteName t.1 ++ " " ++ t.2.text

/-- `lead` and the parts, or nothing when there are none. -/
def listing (lead sep : String) (parts : List String) : String :=
  if parts.isEmpty then "" else lead ++ joined sep parts

def pageText (limit offset : Option UInt64) : String :=
  (match limit, offset with
    | some n, _ => " LIMIT " ++ toString n.toNat
    | none, some _ => " LIMIT -1"
    | none, none => "")
  ++ (match offset with
    | some n => " OFFSET " ++ toString n.toNat
    | none => "")

def Clause.text (c : Clause) : String :=
  listing " WHERE " " AND " (c.predicates.map Predicate.text)
    ++ listing " ORDER BY " ", " (c.order.map orderTermText)
    ++ pageText c.limit c.offset

/-! ## Compilation -/

/-- Count of the question marks in a text, wherever they stand. -/
def questionMarks (text : String) : Nat := text.toList.count '?'

/-- A clause and the values of its parameters. -/
structure Compiled where
  clause : Clause
  values : List Value

namespace Compiled

def text (c : Compiled) : String := c.clause.text

def placeholders (c : Compiled) : Nat := questionMarks c.text

end Compiled

def predicateOf (binding : ListBinding) (e : String × Constraint) : Predicate :=
  match e.2 with
  | .equals _ => .equals e.1
  | .matches _ => .like e.1
  | .oneOf vs =>
    match binding with
    | .bound => .oneOf e.1 (vs.map fun _ => .parameter)
    | .inline => .oneOf e.1 (vs.map .literal)

/-- The values that a constraint sends as parameters. -/
def parametersOf (binding : ListBinding) (e : String × Constraint) : List Value :=
  match e.2 with
  | .equals v => [v]
  | .matches p => [.text p.body]
  | .oneOf vs =>
    match binding with
    | .bound => vs
    | .inline => []

def directionOf? (d : Int64) : Option Direction :=
  if d = QueryOptions.ascending then some .ascending
  else if d = QueryOptions.descending then some .descending
  else none

def orderOf (o : QueryOptions) : List (String × Direction) :=
  o.order.filterMap fun t => (directionOf? t.2).map (t.1, ·)

def compile (binding : ListBinding) (f : Filter) (o : QueryOptions) : Compiled where
  clause :=
    { predicates := f.entries.map (predicateOf binding)
      order := orderOf o
      limit := o.limit?
      offset := o.offset? }
  values := f.entries.flatMap (parametersOf binding)

end TableKeeper.Sql
