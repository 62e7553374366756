import TableKeeper.Sql.Grammar.Basic

/-!
  TableKeeper.Sql.Grammar.Expression — expressions by precedence.

  1. Every operator has a level, and a higher level binds more tightly. An expression of
     some least level is an operand and all operators behind it of that level or above.
     Operators of one level group to the left.
  2. NOT in front takes all of its own level and above, wherever it stands; the signs bind
     more tightly than every operator.
  3. Values in brackets are a row, and a query in brackets is its first row.
  4. How deep an expression may be is bounded.
-/

namespace TableKeeper.Sql.Grammar

/-- What may stand behind an operand. -/
inductive Infix where
  | or
  | and
  /-- NOT in front of LIKE, IN, BETWEEN or NULL. -/
  | negated
  | compare (op : Comparison)
  | combine (op : Operator)
  | is
  | isIn
  | between
  /-- LIKE and its kin. -/
  | pattern
  | isNull
  | notNull
  | collate
  deriving DecidableEq

namespace Infix

def level : Infix → Nat
  | or => 1
  | and => 2
  | negated => 3
  | compare .eq | compare .ne | is | isIn | between | pattern | isNull | notNull => 4
  | compare _ => 5
  | combine .bitAnd | combine .bitOr | combine .shiftLeft | combine .shiftRight => 7
  | combine .add | combine .subtract => 8
  | combine .multiply | combine .divide | combine .remainder => 9
  | combine .concat => 10
  | collate => 11

def ofSymbol? : String → Option Infix
  | "=" | "==" => some (compare .eq)
  | "<>" | "!=" => some (compare .ne)
  | "<" => some (compare .lt)
  | "<=" => some (compare .le)
  | ">" => some (compare .gt)
  | ">=" => some (compare .ge)
  | "&" => some (combine .bitAnd)
  | "|" => some (combine .bitOr)
  | "<<" => some (combine .shiftLeft)
  | ">>" => some (combine .shiftRight)
  | "+" => some (combine .add)
  | "-" => some (combine .subtract)
  | "*" => some (combine .multiply)
  | "/" => some (combine .divide)
  | "%" => some (combine .remainder)
  | "||" => some (combine .concat)
  | _ => none

def ofKeyword? : String → Option Infix
  | "OR" => some or
  | "AND" => some and
  | "NOT" => some negated
  | "IS" => some is
  | "IN" => some isIn
  | "BETWEEN" => some between
  | "LIKE" | "GLOB" | "REGEXP" | "MATCH" => some pattern
  | "ISNULL" => some isNull
  | "NOTNULL" => some notNull
  | "COLLATE" => some collate
  | _ => none

def ofToken? : Token → Option Infix
  | .symbol s => ofSymbol? s
  | .word w => ofKeyword? (upper w)
  | _ => none

end Infix

/-- The level of what NOT in front takes. -/
def notLevel : Nat := 3

/-- The level of what stands right of an equality, a pattern or a bound. -/
def boundLevel : Nat := 5

/-- The level of what a sign takes. -/
def signLevel : Nat := 12

def signOf? : Token → Option Sign
  | .symbol "-" => some .minus
  | .symbol "+" => some .plus
  | .symbol "~" => some .complement
  | _ => none

def literalOf : Number.Numeric → Expr
  | .integer n => .literal (.integer n)
  | .real x => .literal (.real x)

/-- `2 ^ 63` is too large for an integer. -/
def lowestReal : Value := .real (.ofInt (2 ^ 63))

def lowestInteger : Value := .integer (.ofInt (-2 ^ 63))

def quotingOf (quote : Char) : Quoting := if quote = '"' then .doubleQuoted else .quoted

/-- A column, after its first name. -/
def columnFrom (first : String) (quoting : Quoting) (offset : Nat) : Parse Expr := do
  if ← symbol? "." then
    let second ← name
    if ← symbol? "." then
      return .column { schema := some first, table := some second, name := ← name, offset }
    else return .column { table := some first, name := second, offset }
  else return .column { name := first, quoting, offset }

/-- The token after the next one. -/
def second : Parse (Option Token) := return ((← get).rest.drop 1).head?.map (·.token)

/-- A point follows the next token. -/
def isQualified : Parse Bool := return (← second) == some (.symbol ".")

/-- All rows of a table. -/
def wholeTable (name : TableName) : Select :=
  { first := .select { columns := [.all], sources := [{ relation := .table name }] } }

/-- A row of so many values in a list of rows. -/
def rowOf (count : Nat) (e : Expr) : Parse (List Expr) :=
  let items := match e with
    | .row items => items
    | e => [e]
  if items.length = count then return items else throw (.unevenMember items.length count)

/-- The words of a declared type with the bounds behind them, as they are written. -/
def declaredWords : Nat → Parse Unit
  | 0 => return
  | fuel + 1 => do
    match ← taking labelOf? with
    | some _ => declaredWords fuel
    | none => return

/-- A number with or without a sign. -/
def signedNumber : Parse Unit := do
  if !(← symbol? "+") then
    let _ ← symbol? "-"
  match ← peek with
  | some (.number _) | some .lowest => advance
  | _ => fail

/-- A declared type: its words, and at most two numbers in brackets; none has no words. -/
def declaredType : Parse String := do
  let before := (← get).rest
  declaredWords (← get).size
  if (← get).rest.length < before.length then
    if ← symbol? "(" then
      signedNumber
      if ← symbol? "," then signedNumber
      symbol ")"
  return textOf before (← get).rest

mutual

/-- An expression of operators of at least the level. The fuel is more than the tokens left
can use up. -/
def expressionOf : Nat → Nat → Parse Expr
  | 0, _ => fail
  | fuel + 1, least => do continued fuel least (← prefixed fuel)

/-- What follows an operand. -/
def continued : Nat → Nat → Expr → Parse Expr
  | 0, _, _ => fail
  | fuel + 1, least, a => do
    match (← peek).bind Infix.ofToken? with
    | some op => if least ≤ op.level then continued fuel least (← applied fuel op a) else return a
    | none => return a

/-- An operator and what stands right of it. -/
def applied : Nat → Infix → Expr → Parse Expr
  | 0, _, _ => fail
  | fuel + 1, op, a =>
    match op with
    | .or => do
      advance
      return .or a (← expressionOf fuel (op.level + 1))
    | .and => do
      advance
      return .conjoin a (← expressionOf fuel (op.level + 1))
    | .compare c => do
      advance
      return .compare c a (← expressionOf fuel (op.level + 1))
    | .combine c => do
      advance
      return .combine c a (← expressionOf fuel (op.level + 1))
    | .negated => do
      advance
      match (← peek).bind Infix.ofToken? with
      | some .pattern => return .not (← patternTail fuel a)
      | some .isIn => return .not (← membership fuel a)
      | some .between => return .not (← betweenTail fuel a)
      | _ =>
        keyword "NULL"
        return .not (.isNull a)
    | .is => do
      advance
      let negative ← keyword? "NOT"
      let distinct ← keyword? "DISTINCT"
      if distinct then keyword "FROM"
      let b ← expressionOf fuel boundLevel
      return .compare (if negative = distinct then .same else .differs) a b
    | .isIn => membership fuel a
    | .between => betweenTail fuel a
    | .pattern => patternTail fuel a
    | .isNull => do
      advance
      return .isNull a
    | .notNull => do
      advance
      return .not (.isNull a)
    | .collate => do
      advance
      match ← taking labelOf? with
      | some c => return .collate a c
      | none => fail

/-- LIKE or one of its kin, the pattern, and the escape if one is given. -/
def patternTail : Nat → Expr → Parse Expr
  | 0, _ => fail
  | fuel + 1, a => do
    let offset ← offsetHere
    match ← peek with
    | some (.word w) =>
      advance
      let b ← expressionOf fuel boundLevel
      if ← keyword? "ESCAPE" then return .call w offset false [b, a, ← expressionOf fuel boundLevel] none
      else return .call w offset false [b, a] none
    | _ => fail

def betweenTail : Nat → Expr → Parse Expr
  | 0, _ => fail
  | fuel + 1, a => do
    advance
    let low ← expressionOf fuel notLevel
    keyword "AND"
    return .between a low (← expressionOf fuel boundLevel)

/-- IN and a list, a query, or a table. -/
def membership : Nat → Expr → Parse Expr
  | 0, _ => fail
  | fuel + 1, a => do
    advance
    if !(← symbol? "(") then return .isAmong a (wholeTable (← tableName))
    if ← beginsQuery then
      let q ← nestedSelect
      symbol ")"
      return .isAmong a q
    if ← symbol? ")" then return .among a []
    let items ← expressions fuel
    symbol ")"
    match a with
    | .row xs => return .isAmong a { first := .values (← items.mapM (rowOf xs.length)) }
    | _ => return .among a items

def expressions : Nat → Parse (List Expr)
  | 0 => fail
  | fuel + 1 => do
    let a ← expressionOf fuel 1
    if ← symbol? "," then return a :: (← expressions fuel) else return [a]

/-- An operand with what stands in front of it. -/
def prefixed : Nat → Parse Expr
  | 0 => fail
  | fuel + 1 => do
    if ← keyword? "NOT" then return .not (← expressionOf fuel notLevel)
    match (← peek).bind signOf? with
    | none => operand fuel
    | some s =>
      advance
      if s = .minus ∧ (← peek) = some .lowest then
        advance
        return .literal lowestInteger
      else return .signed s (← expressionOf fuel signLevel)

def operand : Nat → Parse Expr
  | 0 => fail
  | fuel + 1 => do
    let offset ← offsetHere
    match ← peek with
    | some (.parameter n) =>
      advance
      match n with
      | none => nextParameter offset
      | some n => numberedParameter n offset
    | some (.named s) => advance; namedParameter s offset
    | some (.number n) => advance; return literalOf n
    | some .lowest => advance; return .literal lowestReal
    | some (.blob bytes) => advance; return .literal (.blob bytes)
    | some (.text s) =>
      let qualified ← isQualified
      advance
      if qualified then columnFrom s .quoted offset else return .literal (.text s)
    | some (.name q s) => advance; named fuel s (quotingOf q) offset
    | some (.symbol "(") =>
      advance
      inBrackets fuel
    | some (.word w) =>
      match upper w with
      | "NULL" => advance; return .literal .null
      | "CASE" => advance; choices fuel
      | "CAST" => advance; castTail fuel
      | "EXISTS" =>
        advance
        symbol "("
        let q ← nestedSelect
        symbol ")"
        return .hasRows q
      | u =>
        if reserved.contains u then fail
        else
          advance
          named fuel w .bare offset
    | _ => fail

/-- After an opening bracket: a query, an expression, or a row. -/
def inBrackets : Nat → Parse Expr
  | 0 => fail
  | fuel + 1 => do
    if ← beginsQuery then
      let q ← nestedSelect
      symbol ")"
      return .query q
    let items ← expressions fuel
    symbol ")"
    match items with
    | [e] => return e
    | items => return .row items

/-- A name is that of a function when a bracket follows. -/
def named : Nat → String → Quoting → Nat → Parse Expr
  | 0, _, _, _ => fail
  | fuel + 1, s, quoting, offset => do
    if !(← symbol? "(") then columnFrom s quoting offset
    else
      let (distinct, args) ← arguments fuel
      return .call s offset distinct args (← filter? fuel)

/-- The arguments of a call up to the closing bracket, and whether equal ones count once. -/
def arguments : Nat → Parse (Bool × List Expr)
  | 0 => fail
  | fuel + 1 => do
    if ← symbol? "*" then
      symbol ")"
      return (false, [])
    let distinct ← keyword? "DISTINCT"
    if !distinct then
      let _ ← keyword? "ALL"
    if ← symbol? ")" then return (distinct, [])
    let args ← expressions fuel
    symbol ")"
    return (distinct, args)

/-- FILTER and its condition, behind a call. -/
def filter? : Nat → Parse (Option Expr)
  | 0 => fail
  | fuel + 1 => do
    if !((← isKeyword "FILTER") && (← second) == some (.symbol "(")) then return none
    advance
    advance
    keyword "WHERE"
    let e ← expressionOf fuel 1
    symbol ")"
    return some e

/-- After CASE. -/
def choices : Nat → Parse Expr
  | 0 => fail
  | fuel + 1 => do
    if ← isKeyword "WHEN" then arms fuel none
    else arms fuel (some (← expressionOf fuel 1))

/-- The arms of a CASE; with a base, each condition is compared with it. -/
def arms : Nat → Option Expr → Parse Expr
  | 0, _ => fail
  | fuel + 1, base => do
    keyword "WHEN"
    let c ← expressionOf fuel 1
    let c := match base with
      | some b => .compare .eq b c
      | none => c
    keyword "THEN"
    let a ← expressionOf fuel 1
    if ← isKeyword "WHEN" then return .choose c a (← arms fuel base)
    else if ← keyword? "ELSE" then
      let b ← expressionOf fuel 1
      keyword "END"
      return .choose c a b
    else
      keyword "END"
      return .choose c a (.literal .null)

/-- After CAST. -/
def castTail : Nat → Parse Expr
  | 0 => fail
  | fuel + 1 => do
    symbol "("
    let e ← expressionOf fuel 1
    keyword "AS"
    let declared ← declaredType
    symbol ")"
    return .cast e declared

end

def expr : Parse Expr := do
  let e ← expressionOf (4 * (← get).size + 8) 1
  if !(← read).limits.allowsHeight e.height then throw .tooDeep
  return e

end TableKeeper.Sql.Grammar
