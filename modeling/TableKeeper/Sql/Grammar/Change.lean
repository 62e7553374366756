import TableKeeper.Sql.Grammar.Query

/-!
  TableKeeper.Sql.Grammar.Change — INSERT, UPDATE and DELETE.

  Several columns may be set to the values of one row.
-/

namespace TableKeeper.Sql.Grammar

def subject : Parse Subject := do
  let table ← tableName
  return { table, label := ← alias? }

def resolution : Parse Resolution := do
  match ← oneOf? ["ABORT", "ROLLBACK", "FAIL", "IGNORE", "REPLACE"] with
  | some "ABORT" => return .abort
  | some "ROLLBACK" => return .rollback
  | some "FAIL" => return .fail
  | some "IGNORE" => return .ignore
  | some _ => return .replace
  | none => fail

/-- OR and a resolution. -/
def orResolution? : Parse (Option Resolution) := do
  if ← keyword? "OR" then return some (← resolution) else return none

/-- A column and its value, or columns and a row. -/
def assignment : Parse (List (String × Expr)) := do
  let columns ← if ← isSymbol "(" then bracketed name else pure [← name]
  symbol "="
  let e ← expr
  match columns, e with
  | [column], e => return [(column, e)]
  | columns, .row items =>
    if columns.length = items.length then return columns.zip items
    else throw (.unevenAssignment columns.length items.length)
  | columns, .query _ => return columns.map (·, e)
  | columns, _ => throw (.unevenAssignment columns.length 1)

def assignments : Parse (List (String × Expr)) := return (← list assignment).flatten

def returning : Parse (List ResultColumn) := do
  if ← keyword? "RETURNING" then list resultColumn else return []

/-- After ON CONFLICT. -/
def upsert : Parse Upsert := do
  let target ← if ← isSymbol "(" then some <$> bracketed orderTerm else pure none
  let partly ← if target.isSome then where? else pure none
  keyword "DO"
  if ← keyword? "NOTHING" then return { target, partly, action := .nothing }
  keyword "UPDATE"
  keyword "SET"
  let assignments ← assignments
  return { target, partly, action := .update assignments (← where?) }

/-- The clauses for clashes; one that catches every clash is the last. -/
def upserts : Nat → Parse (List Upsert)
  | 0 => return []
  | fuel + 1 => do
    if ← keyword? "ON" then
      keyword "CONFLICT"
      let u ← upsert
      if u.target.isNone then return [u] else return u :: (← upserts fuel)
    else return []

/-- After INSERT or REPLACE and its resolution. -/
def insert (resolution : Option Resolution) : Parse Insert := do
  keyword "INTO"
  let subject ← subject
  let columns ← if ← isSymbol "(" then some <$> bracketed name else pure none
  if ← keyword? "DEFAULT" then
    keyword "VALUES"
    return { subject, resolution, columns, source := none, returning := ← returning }
  let source ← select
  let upserts ← upserts (← get).size
  return { subject, resolution, columns, source := some source, upserts, returning := ← returning }

def update : Parse Update := do
  let resolution ← orResolution?
  let subject ← subject
  let index ← indexHint?
  keyword "SET"
  let assignments ← assignments
  let sources ← sources
  let condition ← where?
  return { subject, index, resolution, assignments, sources, condition, returning := ← returning }

def delete : Parse Delete := do
  keyword "FROM"
  let subject ← subject
  let index ← indexHint?
  let condition ← where?
  return { subject, index, condition, returning := ← returning }

end TableKeeper.Sql.Grammar
