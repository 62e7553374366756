import TableKeeper.Sql.Grammar.Expression

/-!
  TableKeeper.Sql.Grammar.Query — queries.

  1. A query is a SELECT or a VALUES, any more of them behind set operations, and an order
     and bounds for them all. Queries with names may stand in front of it.
  2. It reads from tables and from queries in brackets, which joins put side by side.
  3. A query inside another is read the same way; every one takes at least one token.
-/

namespace TableKeeper.Sql.Grammar

def where? : Parse (Option Expr) := do
  if ← keyword? "WHERE" then return some (← expr) else return none

/-- The table of `table.*`, if that is next. -/
def starredTable? : Parse (Option String) := do
  match (← get).rest with
  | a :: b :: c :: _ =>
    match nameOf? a.token, b.token == .symbol ".", c.token == .symbol "*" with
    | some s, true, true =>
      advance
      advance
      advance
      return some s
    | _, _, _ => return none
  | _ => return none

def resultColumn : Parse ResultColumn := do
  if ← symbol? "*" then return .all
  match ← starredTable? with
  | some s => return .allOf s
  | none =>
    let before := (← get).rest
    let e ← expr
    let text := textBetween before (← get).rest
    return .expr e (← label?) text

/-! ## Sources -/

/-- What a word adds to a join; none is no word of a join. -/
def joinWord? (word : String) : Option (JoinKind × Bool × Bool) :=
  match upper word with
  | "NATURAL" => some ({ natural := true }, false, false)
  | "LEFT" => some ({ left := true }, false, true)
  | "RIGHT" => some ({ right := true }, false, true)
  | "FULL" => some ({ left := true, right := true }, false, true)
  | "OUTER" => some ({}, false, true)
  | "INNER" | "CROSS" => some ({}, true, false)
  | _ => none

/-- The join of some words: one that is inner and outer, or outer on no side, is unknown. -/
def joinOf? (words : List String) : Option JoinKind := do
  let parts ← words.mapM joinWord?
  let kinds := parts.map (·.1)
  let kind : JoinKind :=
    { left := kinds.any (·.left), right := kinds.any (·.right), natural := kinds.any (·.natural) }
  let inner := parts.any (·.2.1)
  let outer := parts.any (·.2.2)
  if inner && outer || outer && !kind.left && !kind.right then none else some kind

/-- Up to two names behind the first word of a join. -/
def joinNames : Nat → Parse (List String)
  | 0 => return []
  | fuel + 1 => do
    if ← isKeyword "JOIN" then return []
    else
      let word ← name
      return word :: (← joinNames fuel)

/-- What joins the next source, if anything. -/
def join? : Parse (Option JoinKind) := do
  if (← symbol? ",") || (← keyword? "JOIN") then return some {}
  let offset ← offsetHere
  match ← oneOf? (joinWords.filter (· != "INDEXED")) with
  | none => return none
  | some first =>
    let words := first :: (← joinNames 2)
    keyword "JOIN"
    match joinOf? words with
    | some kind => return some kind
    | none => throw (.unknownJoin words offset)

/-- The index that is to be used. -/
def indexHint? : Parse (Option String) := do
  if (← isKeyword "NOT") && (← second) == some (.word "INDEXED") then
    advance
    advance
    return none
  else if ← keyword? "INDEXED" then
    keyword "BY"
    return some (← name)
  else return none

/-- ON or USING, in which either may stand. -/
def joinCondition? : Parse (Option Expr × Option (List String)) := do
  if ← keyword? "ON" then return (some (← expr), none)
  else if ← keyword? "USING" then return (none, some (← bracketed name))
  else return (none, none)

/-- A source behind a join, or several in brackets. -/
def source : Nat → JoinKind → Parse (List Source)
  | 0, _ => fail
  | fuel + 1, join => do
    if ← symbol? "(" then
      if ← beginsQuery then
        let q ← nestedSelect
        symbol ")"
        return [← finished join (.query q)]
      else
        let first ← source fuel join
        let rest ← more fuel (← get).size
        symbol ")"
        let _ ← label?
        let (condition, common) ← joinCondition?
        return (first.map fun s => { s with
          condition := s.condition.orElse fun _ => condition
          common := s.common.orElse fun _ => common }) ++ rest
    else return [← finished join (.table (← tableName))]
where
  finished (join : JoinKind) (relation : Relation) : Parse Source := do
    let label ← label?
    let index ← indexHint?
    let (condition, common) ← joinCondition?
    return { relation, label, join, condition, common, index }
  more (fuel : Nat) : Nat → Parse (List Source)
    | 0 => return []
    | count + 1 => do
      match ← join? with
      | some kind => return (← source fuel kind) ++ (← more fuel count)
      | none => return []

def moreSources : Nat → Parse (List Source)
  | 0 => return []
  | fuel + 1 => do
    match ← join? with
    | some kind => return (← source fuel kind) ++ (← moreSources fuel)
    | none => return []

/-- A condition of a join that no source stands in front of. -/
def checkFirst (s : Source) : Parse Unit :=
  if s.common.isSome then throw (.missingJoin "USING") else if s.condition.isSome then throw (.missingJoin "ON") else return

/-- The sources of a list behind its keyword. -/
def sourceList : Parse (List Source) := do
  let first ← source (← get).size {}
  if let [s] := first then checkFirst s
  return first ++ (← moreSources (← get).size)

def sources : Parse (List Source) := do
  if ← keyword? "FROM" then sourceList else return []

/-! ## Order and bounds -/

/-- The lexemes from the first operand on, behind signs and brackets. -/
def fromOperand (ls : List Lexeme) : List Lexeme :=
  ls.dropWhile fun l => l.token == .symbol "(" || (signOf? l.token).isSome

def groupTerm : Parse OrderTerm := do
  let place := (fromOperand (← get).rest).head?.map (·.offset)
  return { expr := ← expr, offset := place.getD 0 }

def orderTerm : Parse OrderTerm := do
  let term ← groupTerm
  let descending := (← oneOf? ["ASC", "DESC"]) == some "DESC"
  if ← keyword? "NULLS" then
    match ← oneOf? ["FIRST", "LAST"] with
    | some k => return { term with descending, nullsLast := some (k == "LAST") }
    | none => fail
  else return { term with descending }

def orderBy : Parse (List OrderTerm) := do
  if ← keyword? "ORDER" then
    keyword "BY"
    list orderTerm
  else return []

def limit? : Parse (Option Expr × Option Expr) := do
  if ← keyword? "LIMIT" then
    let first ← expr
    if ← keyword? "OFFSET" then return (some first, some (← expr))
    else if ← symbol? "," then return (some (← expr), some first)
    else return (some first, none)
  else return (none, none)

/-! ## Queries -/

def groupBy : Parse (List OrderTerm) := do
  if ← keyword? "GROUP" then
    keyword "BY"
    list groupTerm
  else return []

/-- After SELECT. -/
def core : Parse Core := do
  let distinct := (← oneOf? ["DISTINCT", "ALL"]) == some "DISTINCT"
  let columns ← list resultColumn
  let sources ← sources
  let condition ← where?
  let groups ← groupBy
  let having ← if ← keyword? "HAVING" then some <$> expr else pure none
  return { distinct, columns, sources, condition, groups, having }

/-- Rows of so many values, divided by commas. -/
def moreRows (count : Nat) : Nat → Parse (List (List Expr))
  | 0 => return []
  | fuel + 1 => do
    if ← symbol? "," then
      let row ← bracketed expr
      if row.length ≠ count then throw .unevenValues
      return row :: (← moreRows count fuel)
    else return []

/-- After VALUES. -/
def valueRows : Parse (List (List Expr)) := do
  let row ← bracketed expr
  return row :: (← moreRows row.length (← get).size)

/-- What may follow a SELECT. -/
structure Tail where
  order : List OrderTerm := []
  limit : Option Expr := none
  offset : Option Expr := none

namespace Tail

/-- The clause that a tail begins with, if it has one. -/
def clause? (t : Tail) : Option String :=
  if !t.order.isEmpty then some "ORDER BY" else if t.limit.isSome then some "LIMIT" else none

end Tail

def queryPart : Parse (QueryPart × Tail) := do
  if ← keyword? "VALUES" then return (.values (← valueRows), {})
  keyword "SELECT"
  let c ← core
  let order ← orderBy
  let (limit, offset) ← limit?
  return (.select c, { order, limit, offset })

def setOperation? : Parse (Option SetOperation) := do
  match ← oneOf? ["UNION", "INTERSECT", "EXCEPT"] with
  | some "UNION" => return some (if ← keyword? "ALL" then .unionAll else .union)
  | some "INTERSECT" => return some .intersect
  | some _ => return some .except
  | none => return none

def moreParts : Nat → Parse (List (SetOperation × QueryPart × Tail))
  | 0 => return []
  | fuel + 1 => do
    match ← setOperation? with
    | some op => return (op, ← queryPart) :: (← moreParts fuel)
    | none => return []

/-- The last tail in front of a set operation, as a fault. -/
def early? (tails : List Tail) (others : List SetOperation) : Option Fault :=
  ((tails.zip others).filterMap fun (t, op) => t.clause?.map fun c => .early c op.text).getLast?

/-- One of the queries of WITH. -/
def namedQuery : Parse NamedQuery := do
  let name ← Grammar.name
  let columns ← if ← isSymbol "(" then some <$> bracketed Grammar.name else pure none
  keyword "AS"
  if ← keyword? "NOT" then keyword "MATERIALIZED"
  else
    let _ ← keyword? "MATERIALIZED"
  symbol "("
  let query ← nestedSelect
  symbol ")"
  return { name, columns, query }

/-- The first name that an earlier query has. -/
def repeated? : List NamedQuery → Option String
  | [] => none
  | q :: rest => ((rest.find? fun r => upper r.name == upper q.name).map (·.name)).orElse fun _ => repeated? rest

/-- The queries with names in front of a statement, if there are any. -/
def namedQueries : Parse (List NamedQuery) := do
  if ← keyword? "WITH" then
    let _ ← keyword? "RECURSIVE"
    let qs ← list namedQuery
    match repeated? qs with
    | some name => throw (.duplicateNamed name)
    | none => return qs
  else return []

/-- A query behind its named ones. Order and bounds stand behind its last part. -/
def plainSelect (named : List NamedQuery) : Parse Select := do
  let (first, tail) ← queryPart
  let others ← moreParts (← get).size
  let tails := tail :: others.map (·.2.2)
  if let some f := early? tails (others.map (·.1)) then throw f
  let { order, limit, offset } := (tails.getLast?).getD tail
  return { named, first, others := others.map fun (op, q, _) => (op, q), order, limit, offset }

def select : Parse Select := do plainSelect (← namedQueries)

/-- How a query is read at some depth of nesting. -/
def selectWithin (limits : Limits) : Nat → Cursor → Except Fault Select × Cursor
  | 0, c => (.error (faultAt c.rest), c)
  | depth + 1, c => (select.run { select := selectWithin limits depth, limits }).run c

end TableKeeper.Sql.Grammar
