import TableKeeper.Sql.Grammar.Definition

/-!
  TableKeeper.Sql.Grammar — tokens to statements.

  A statement ends at a semicolon or at the end of the text. What follows the semicolon is
  left to the caller.
-/

namespace TableKeeper.Sql

namespace Grammar

/-- What is read after the first word of a statement. -/
def reader? : String → Option (Parse Parsed)
  | "CREATE" => some create
  | "DROP" => some drop
  | "BEGIN" => some do return .transaction (← begin)
  | "COMMIT" | "END" => some do return .transaction (← commit)
  | "ROLLBACK" => some do return .transaction (← rollback)
  | "SAVEPOINT" => some do return .transaction (.savepoint (← name))
  | "RELEASE" => some do return .transaction (← release)
  | "PRAGMA" => some do return .pragma (← pragma)
  | _ => none

/-- A query or a change, behind the queries with names. -/
def queryOrChange? (named : List NamedQuery) : String → Option (Parse Parsed)
  | "INSERT" => some do
    advance
    return .insert { ← insert (← orResolution?) with named }
  | "REPLACE" => some do
    advance
    return .insert { ← insert (some .replace) with named }
  | "UPDATE" => some do
    advance
    return .update { ← update with named }
  | "DELETE" => some do
    advance
    return .delete { ← delete with named }
  | "SELECT" | "VALUES" => some do return .select (← plainSelect named)
  | _ => none

def parsed : Parse Parsed := do
  let begun ← isKeyword "WITH"
  let named ← namedQueries
  match ← keywordHere with
  | none => fail
  | some k =>
    match queryOrChange? named k, reader? k with
    | some r, _ => r
    | none, some r =>
      if begun then fail
      advance
      r
    | none, none => fail

/-- The end of a statement: a semicolon, or nothing more. -/
def finish : Parse Unit := do
  match ← peek with
  | none | some .ending => return
  | some _ => symbol ";"

/-- A statement up to its end. A definition that breaks off has none. -/
def statement : Parse Parsed := do
  let p ← parsed
  match p with
  | .createTable c =>
    if c.broken.isNone then
      try
        finish
        return p
      catch f => return .createTable { c with parts := ← partsBefore, broken := some f }
    else return p
  | _ =>
    finish
    return p

end Grammar

/-- A statement that was read, how many parameters it has, and the lexemes after it. -/
structure ReadStatement where
  parsed : Parsed
  parameters : Nat
  rest : List Lexeme

/-- Drops the semicolons before a statement. -/
def skipSemicolons : List Lexeme → List Lexeme
  | [] => []
  | l :: rest => if l.token = .symbol ";" then skipSemicolons rest else l :: rest

/-- There is no statement left. -/
def isOver : List Lexeme → Bool
  | [] => true
  | l :: _ => l.token == .ending

/-- The first statement of a text; none when there is nothing but blanks and semicolons. -/
def readStatement (ls : List Lexeme) (limits : Grammar.Limits := .engine) :
    Except Grammar.Fault (Option ReadStatement) :=
  let ls := skipSemicolons ls
  if isOver ls then .ok none
  else
    let nested : Grammar.Nested := { select := Grammar.selectWithin limits ls.length, limits }
    match (Grammar.statement.run nested).run { rest := ls, size := ls.length } with
    | (.error f, _) => .error f
    | (.ok p, c) => .ok (some ⟨p, c.parameters, c.rest⟩)

end TableKeeper.Sql
