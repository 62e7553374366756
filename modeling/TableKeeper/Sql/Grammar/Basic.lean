import TableKeeper.Sql.Syntax
import TableKeeper.Sql.Token

/-!
  TableKeeper.Sql.Grammar.Basic — reading tokens one by one.

  1. A reader looks at one token at a time, and the first token that cannot go on the text
     is the one that is reported (`Fault`): as unreadable if it is no token, as incomplete
     input at the end, and by its text otherwise.
  2. A word is a keyword where the grammar asks for one, and else a name. Reserved words are
     names only in quotes; the words of a join are names, but neither labels nor types.
  3. Parameters are numbered from one as they come. One that has been named keeps its
     number.
  4. How a query inside an expression is read is a part of what a reader is given, and so
     are the bounds of a text.
-/

namespace TableKeeper.Sql

open Text

namespace Grammar

/-- What is still to be read, how many lexemes there were, and the parameters so far. -/
structure Cursor where
  rest : List Lexeme
  size : Nat
  parameters : Nat := 0
  names : List (String × Nat) := []
  /-- The parts of a table's definition, and how many lexemes were left behind the last. -/
  parts : List TablePart := []
  mark : Nat := 0

/-- How a query is read where it is a part of something else, and the bounds of a text. -/
structure Nested where
  select : Cursor → Except Fault Select × Cursor
  limits : Limits := .engine

abbrev Parse := ReaderT Nested (ExceptT Fault (StateM Cursor))

/-- A query inside something else. -/
def nestedSelect : Parse Select := do
  let (r, c) := (← read).select (← get)
  set c
  match r with
  | .ok q => return q
  | .error f => throw f

/-- The fault of a text that cannot go on at its next token. -/
def faultAt : List Lexeme → Fault
  | [] => .incomplete
  | l :: _ =>
    match l.token with
    | .ending => .incomplete
    | .illegal => .unreadable (.ofList l.raw) l.offset
    | _ => .unexpected (.ofList l.raw) l.offset

def fail {α : Type} : Parse α := do throw (faultAt (← get).rest)

def peek : Parse (Option Token) := return (← get).rest.head?.map (·.token)

/-- Takes the next token, which has been looked at. -/
def advance : Parse Unit := modify fun c => { c with rest := c.rest.drop 1 }

def offsetHere : Parse Nat := return ((← get).rest.head?.map (·.offset)).getD 0

/-! ## Single tokens -/

def upper (s : String) : String := .ofList (s.toList.map upperChar)

def isSymbol (s : String) : Parse Bool := return (← peek) == some (.symbol s)

/-- The next token as a keyword. -/
def keywordHere : Parse (Option String) := do
  match ← peek with
  | some (.word w) => return some (upper w)
  | _ => return none

def isKeyword (k : String) : Parse Bool := return (← keywordHere) == some k

/-- Takes the symbol if it is next. -/
def symbol? (s : String) : Parse Bool := do
  if ← isSymbol s then advance; return true else return false

def keyword? (k : String) : Parse Bool := do
  if ← isKeyword k then advance; return true else return false

/-- Takes one of the keywords if one is next. -/
def oneOf? (ks : List String) : Parse (Option String) := do
  match ← keywordHere with
  | some k => if ks.contains k then advance; return some k else return none
  | none => return none

def symbol (s : String) : Parse Unit := do
  if !(← symbol? s) then fail

def keyword (k : String) : Parse Unit := do
  if !(← keyword? k) then fail

def keywords : List String → Parse Unit
  | [] => return
  | k :: ks => do
    keyword k
    keywords ks

/-- A query begins here. -/
def beginsQuery : Parse Bool := do
  match ← keywordHere with
  | some k => return ["SELECT", "VALUES", "WITH"].contains k
  | none => return false

/-! ## Names -/

/-- Words that are never names unless quoted. -/
def reserved : List String :=
  ["ADD", "ALL", "ALTER", "AND", "AS", "AUTOINCREMENT", "BETWEEN", "CASE", "CHECK", "COLLATE", "COMMIT",
    "CONSTRAINT", "CREATE", "DEFAULT", "DEFERRABLE", "DELETE", "DISTINCT", "DROP", "ELSE", "ESCAPE", "EXCEPT",
    "EXISTS", "FOREIGN", "FROM", "GROUP", "HAVING", "IN", "INDEX", "INSERT", "INTERSECT", "INTO", "IS",
    "ISNULL", "JOIN", "LIMIT", "NOT", "NOTHING", "NOTNULL", "NULL", "ON", "OR", "ORDER", "PRIMARY",
    "REFERENCES", "RETURNING", "SELECT", "SET", "TABLE", "THEN", "TO", "TRANSACTION", "UNION", "UNIQUE",
    "UPDATE", "USING", "VALUES", "WHEN", "WHERE"]

/-- Words that the grammar asks for in some places and that are names elsewhere. -/
def softWords : List String :=
  ["ABORT", "ACTION", "AFTER", "ALWAYS", "ANALYZE", "ASC", "ATTACH", "BEFORE", "BEGIN", "BY", "CASCADE", "CAST",
    "COLUMN", "CONFLICT", "CURRENT", "CURRENT_DATE", "CURRENT_TIME", "CURRENT_TIMESTAMP", "DATABASE", "DEFERRED",
    "DESC", "DETACH", "DO", "EACH", "END", "EXCLUDE", "EXCLUSIVE", "EXPLAIN", "FAIL", "FILTER", "FIRST",
    "FOLLOWING", "FOR", "GENERATED", "GLOB", "GROUPS", "IF", "IGNORE", "IMMEDIATE", "INITIALLY", "INSTEAD", "KEY",
    "LAST", "LIKE", "MATCH", "MATERIALIZED", "NO", "NULLS", "OF", "OFFSET", "OTHERS", "OVER", "PARTITION", "PLAN",
    "PRAGMA", "PRECEDING", "QUERY", "RAISE", "RANGE", "RECURSIVE", "REGEXP", "REINDEX", "RELEASE", "RENAME",
    "REPLACE", "RESTRICT", "ROLLBACK", "ROW", "ROWS", "SAVEPOINT", "TEMP", "TEMPORARY", "TIES", "TRIGGER",
    "UNBOUNDED", "VACUUM", "VIEW", "VIRTUAL", "WINDOW", "WITH", "WITHIN", "WITHOUT"]

/-- Words of a join. -/
def joinWords : List String := ["CROSS", "FULL", "INDEXED", "INNER", "LEFT", "NATURAL", "OUTER", "RIGHT"]

/-- The word is one that the grammar asks for somewhere. -/
def isWordOfGrammar (s : String) : Bool := (reserved ++ softWords ++ joinWords).contains (upper s)

/-- The name that a token is, if it is one. Text in single quotes may stand for a name. -/
def nameOf? : Token → Option String
  | .word w => if reserved.contains (upper w) then none else some w
  | .name _ s => some s
  | .text s => some s
  | _ => none

/-- The label or word of a type that a token is. -/
def labelOf? (t : Token) : Option String :=
  match t with
  | .word w => if joinWords.contains (upper w) then none else nameOf? t
  | t => nameOf? t

def taking (f : Token → Option String) : Parse (Option String) := do
  match (← peek).bind f with
  | some s => advance; return some s
  | none => return none

def name : Parse String := do
  match ← taking nameOf? with
  | some s => return s
  | none => fail

/-- A second name, with or without AS. -/
def label? : Parse (Option String) := do
  if ← keyword? "AS" then return some (← name) else taking labelOf?

/-- A name that only AS can give. -/
def alias? : Parse (Option String) := do
  if ← keyword? "AS" then return some (← name) else return none

def tableName : Parse TableName := do
  let first ← name
  if ← symbol? "." then return ⟨some first, ← name⟩ else return ⟨none, first⟩

/-! ## Lists -/

/-- `item`s divided by commas, at least one. -/
def commaList {α : Type} (item : Parse α) : Nat → Parse (List α)
  | 0 => fail
  | fuel + 1 => do
    let a ← item
    if ← symbol? "," then return a :: (← commaList item fuel) else return [a]

def list {α : Type} (item : Parse α) : Parse (List α) := do commaList item (← get).size

def bracketed {α : Type} (item : Parse α) : Parse (List α) := do
  symbol "("
  let xs ← list item
  symbol ")"
  return xs

/-! ## Text -/

/-- The text from the first of the lexemes to the last, without what is skipped around them. -/
def textOf (before after : List Lexeme) : String :=
  let ls := before.take (before.length - after.length)
  .ofList ((ls.flatMap fun l => l.gap ++ l.raw).drop ((ls.head?.map (·.gap.length)).getD 0))

/-- The text from the first of the lexemes up to where the text after them begins. -/
def textUpTo (before after : List Lexeme) : String :=
  textOf before after ++ .ofList ((after.head?.map (·.gap)).getD [])

/-- That text without blanks behind it. -/
def textBetween (before after : List Lexeme) : String :=
  .ofList ((textUpTo before after).toList.reverse.dropWhile Number.Numeric.isSpace).reverse

/-! ## Parameters -/

/-- A parameter without a number, which gets the next one. -/
def nextParameter (offset : Nat) : Parse Expr := do
  let c ← get
  if !(← read).limits.allowsParameter (c.parameters + 1) then throw (.tooManyParameters offset)
  set { c with parameters := c.parameters + 1 }
  return .parameter c.parameters offset

def numberedParameter (n offset : Nat) : Parse Expr := do
  if n = 0 || !(← read).limits.allowsParameter n then throw (.parameterRange offset)
  modify fun c => { c with parameters := max c.parameters n }
  return .parameter (n - 1) offset

def namedParameter (name : String) (offset : Nat) : Parse Expr := do
  match (← get).names.lookup name with
  | some i => return .parameter i offset
  | none =>
    modify fun c => { c with names := (name, c.parameters) :: c.names }
    nextParameter offset

end Grammar
end TableKeeper.Sql
