import TableKeeper.Sql.Grammar.Change

/-!
  TableKeeper.Sql.Grammar.Definition — tables, indexes, views and transactions.

  1. A column's type ends at the first reserved word.
  2. The parts of a table's definition are kept even if it breaks off, since what is wrong
     with one of them is wrong before that.
-/

namespace TableKeeper.Sql.Grammar

/-! ## Constraints -/

/-- ON CONFLICT and a resolution. -/
def onConflict? : Parse (Option Resolution) := do
  if ← keyword? "ON" then
    keyword "CONFLICT"
    return some (← resolution)
  else return none

/-- A default that is written without brackets. -/
def defaultTerm : Parse Expr := do
  match ← peek with
  | some (.number n) => advance; return literalOf n
  | some .lowest => advance; return .literal lowestReal
  | some (.text s) => advance; return .literal (.text s)
  | some (.blob bytes) => advance; return .literal (.blob bytes)
  | _ => if ← keyword? "NULL" then return .literal .null else fail

/-- A word stands for its own text, except for the two truths. -/
def wordOrTruth (t : Token) (s : String) : Expr :=
  match t, upper s with
  | .word _, "TRUE" => .constant true
  | .word _, "FALSE" => .constant false
  | _, _ => .literal (.text s)

def defaultValue : Parse Expr := do
  if ← symbol? "(" then
    let e ← expr
    symbol ")"
    return e
  else if ← symbol? "+" then defaultTerm
  else if ← symbol? "-" then
    if (← peek) = some .lowest then
      advance
      return .literal lowestInteger
    else return .signed .minus (← defaultTerm)
  else
    let here := ((← get).rest.head?.map (·.token)).getD .ending
    match here with
    | .text _ => defaultTerm
    | _ =>
      match ← taking labelOf? with
      | some s => return wordOrTruth here s
      | none => defaultTerm

/-- A label or a type in quotes stands for what is between them. -/
def unquoted (s : String) : String :=
  match Token.next s.toList with
  | (.name _ t, _) => t
  | (.text t, _) => t
  | _ => s

/-- After CHECK. -/
def check (label : Option String) : Parse CheckClause := do
  let before := (← get).rest.drop 1
  symbol "("
  let condition ← expr
  let text := textBetween before (← get).rest
  symbol ")"
  return ⟨condition, label.getD (unquoted text)⟩

def referenceAction : Parse ReferenceAction := do
  match ← oneOf? ["CASCADE", "RESTRICT", "SET", "NO"] with
  | some "CASCADE" => return .cascade
  | some "RESTRICT" => return .restrict
  | some "SET" =>
    match ← oneOf? ["NULL", "DEFAULT"] with
    | some k => return if k == "NULL" then .setNull else .setDefault
    | none => fail
  | some _ =>
    keyword "ACTION"
    return .nothing
  | none => fail

/-- What a reference may go on with. -/
def referenceTail : Nat → Reference → Parse Reference
  | 0, r => return r
  | fuel + 1, r => do
    if ← keyword? "ON" then
      match ← oneOf? ["DELETE", "UPDATE", "INSERT"] with
      | some "DELETE" => referenceTail fuel { r with onDelete := ← referenceAction }
      | some "UPDATE" => referenceTail fuel { r with onUpdate := ← referenceAction }
      | some _ =>
        let _ ← referenceAction
        referenceTail fuel r
      | none => fail
    else if ← keyword? "MATCH" then
      let _ ← name
      referenceTail fuel r
    else return r

/-- After REFERENCES. -/
def reference : Parse Reference := do
  let before := (← get).rest
  let offset ← offsetHere
  let table ← name
  let text := textOf before (← get).rest
  let columns ← if ← isSymbol "(" then some <$> bracketed name else pure none
  referenceTail (← get).size { table, text, offset, columns }

/-- After DEFERRABLE: the check is put off. -/
def deferral : Parse Bool := do
  if ← keyword? "INITIALLY" then
    match ← oneOf? ["DEFERRED", "IMMEDIATE"] with
    | some k => return k == "DEFERRED"
    | none => fail
  else return false

/-- How a reference of a table is deferred, which may be left out. -/
def deferral? : Parse Bool := do
  if ← keyword? "NOT" then
    keyword "DEFERRABLE"
    let _ ← deferral
    return false
  else if ← keyword? "DEFERRABLE" then deferral
  else return false

/-- After AS: how a column is computed, and how it is kept. -/
def generated : Parse ColumnConstraint := do
  symbol "("
  let e ← expr
  symbol ")"
  match ← keywordHere with
  | none | some "GENERATED" => return .generated e none
  | some _ => return .generated e (← taking nameOf?)

def autoincrement? : Parse Bool := keyword? "AUTOINCREMENT"

/-- After PRIMARY KEY of a column. -/
def columnKey : Parse KeyClause := do
  let descending := (← oneOf? ["ASC", "DESC"]) == some "DESC"
  let resolution ← onConflict?
  return { descending, resolution, autoincrement := ← autoincrement? }

/-- Takes down a part of a definition. -/
def part (p : TablePart) : Parse Unit := modify fun c => { c with parts := c.parts ++ [p], mark := c.rest.length }

def columnConstraints : Nat → Option String → Parse Unit
  | 0, _ => return
  | fuel + 1, label => do
    match ← oneOf? words with
    | none => return
    | some "CONSTRAINT" => columnConstraints fuel (some (← name))
    | some k =>
      constraint label k
      columnConstraints fuel none
where
  words : List String :=
    ["CONSTRAINT", "PRIMARY", "UNIQUE", "NOT", "NULL", "DEFAULT", "CHECK", "COLLATE", "REFERENCES", "DEFERRABLE",
      "GENERATED", "AS"]
  /-- The constraint that a word begins. -/
  constraint (label : Option String) : String → Parse Unit
    | "PRIMARY" => do
      keyword "KEY"
      part (.ofColumn (.primaryKey (← columnKey)))
    | "UNIQUE" => do part (.ofColumn (.unique (← onConflict?)))
    | "NOT" => do
      if ← keyword? "DEFERRABLE" then
        let _ ← deferral
        part (.ofColumn (.deferral false))
      else
        keyword "NULL"
        part (.ofColumn (.notNull (← onConflict?)))
    | "DEFERRABLE" => do part (.ofColumn (.deferral (← deferral)))
    | "GENERATED" => do
      keywords ["ALWAYS", "AS"]
      part (.ofColumn (← generated))
    | "AS" => do part (.ofColumn (← generated))
    | "NULL" => do
      let _ ← onConflict?
    | "DEFAULT" => do part (.ofColumn (.default (← defaultValue)))
    | "CHECK" => do part (.ofColumn (.check (← check label)))
    | "COLLATE" => do
      match ← taking labelOf? with
      | some c => part (.ofColumn (.collate c))
      | none => fail
    | _ => do part (.ofColumn (.reference (← reference)))

/-- A declared type without GENERATED ALWAYS behind it. -/
def withoutGenerated (declared : String) : String :=
  let blank := Number.Numeric.isSpace
  let ends (word : String) (cs : List Char) : Option (List Char) :=
    if (cs.take word.length).map Text.upperChar == word.toList.reverse then some ((cs.drop word.length).dropWhile blank)
    else none
  if declared.utf8ByteSize < 16 then declared
  else
    match ends "ALWAYS" declared.toList.reverse with
    | none => declared
    | some cs => .ofList ((ends "GENERATED" cs).getD cs).reverse

def columnDefinition : Parse Unit := do
  let name ← name
  part (.column name (withoutGenerated (← declaredType)))
  columnConstraints (← get).size none

def tableConstraints : Nat → Option String → Parse Unit
  | 0, _ => return
  | fuel + 1, label => do
    match ← oneOf? ["CONSTRAINT", "PRIMARY", "UNIQUE", "CHECK", "FOREIGN"] with
    | some "CONSTRAINT" => tableConstraints fuel (some (← name))
    | some k =>
      constraint label k
      -- A comma between constraints may be left out.
      let divided ← symbol? ","
      if divided || !(← isSymbol ")") then tableConstraints fuel none
    | none => if label.isNone then fail
where
  constraint (label : Option String) : String → Parse Unit
    | "PRIMARY" => do
      keyword "KEY"
      symbol "("
      let columns ← list orderTerm
      let autoincrement ← autoincrement?
      symbol ")"
      part (.ofTable (.primaryKey columns { resolution := ← onConflict?, autoincrement }))
    | "UNIQUE" => do
      let columns ← bracketed orderTerm
      part (.ofTable (.unique columns (← onConflict?)))
    | "CHECK" => do
      let c ← check label
      let _ ← onConflict?
      part (.ofTable (.check c))
    | _ => do
      keyword "KEY"
      let columns ← bracketed name
      keyword "REFERENCES"
      let r ← reference
      part (.ofTable (.reference columns { r with deferred := ← deferral? }))

def beginsConstraint : Parse Bool := do
  match ← keywordHere with
  | some k => return ["CONSTRAINT", "PRIMARY", "UNIQUE", "CHECK", "FOREIGN"].contains k
  | none => return false

/-- The columns of a table and the constraints behind them. -/
def tableParts : Nat → Parse Unit
  | 0 => fail
  | fuel + 1 => do
    columnDefinition
    if ← symbol? "," then
      if ← beginsConstraint then tableConstraints (← get).size none else tableParts fuel

/-! ## CREATE and DROP -/

def newName : Parse NewName := do
  let before := (← get).rest
  let offset ← offsetHere
  let name ← tableName
  let rest := (← get).rest
  match name.schema with
  | none => return { name, text := textOf before rest, offset }
  | some _ =>
    let own := before.drop 2
    return { name, text := textOf own rest, offset := (own.head?.map (·.offset)).getD 0, schemaOffset := offset }

def ifNotExists : Parse Bool := do
  let ifMissing ← keyword? "IF"
  if ifMissing then keywords ["NOT", "EXISTS"]
  return ifMissing

/-- The lexemes of a new thing's own name and what follows it. -/
def fromName (before : List Lexeme) (n : NewName) : List Lexeme :=
  if n.name.schema.isSome then before.drop 2 else before

/-- The parts in front of a fault. A part behind which nothing could be read does not count. -/
def partsBefore : Parse (List TablePart) := do
  let c ← get
  return if c.rest.length = c.mark then c.parts.dropLast else c.parts

/-- An option of a table, by its name as it is written. -/
def tableOption : Parse Unit := do
  let negative ← keyword? "WITHOUT"
  let raw := ((← get).rest.head?.map fun l => String.ofList l.raw).getD ""
  let word ← name
  match negative, upper word with
  | true, "ROWID" => part (.option .withoutRowid)
  | false, "STRICT" => part (.option .strict)
  | _, _ => throw (.unknownOption raw)

/-- The options of a table behind its parts. -/
def tableOptions : Parse Unit := do
  if ((← peek).bind nameOf?).isSome then
    let _ ← list tableOption

/-- The columns, constraints and options of a table. A definition with options ends where the
text after it begins. -/
def tableBody (temporary ifMissing : Bool) (before : List Lexeme) (name : NewName) : Parse CreateTable := do
  let finished ← try
      tableParts (← get).size
      symbol ")"
      pure none
    catch f => pure (some f)
  match finished with
  | some f => return { name, temporary, body := "", ifMissing, parts := ← partsBefore, broken := some f }
  | none =>
    let closed := (← get).rest
    try
      tableOptions
      let rest := (← get).rest
      let whole := fromName before name
      let body := if rest.length = closed.length then textOf whole rest else textUpTo whole rest
      return { name, temporary, body, ifMissing, parts := (← get).parts }
    catch f => return { name, temporary, body := "", ifMissing, parts := (← get).parts, broken := some f }

def createTable (temporary : Bool) : Parse CreateTable := do
  let ifMissing ← ifNotExists
  let before := (← get).rest
  let name ← newName
  if ← keyword? "AS" then return { name, temporary, body := "", ifMissing, parts := [], source := some (← nestedSelect) }
  symbol "("
  tableBody temporary ifMissing before name

def createIndex (unique : Bool) : Parse CreateIndex := do
  let ifMissing ← ifNotExists
  let before := (← get).rest
  let name ← newName
  keyword "ON"
  let table ← Grammar.name
  let columns ← bracketed orderTerm
  let condition ← where?
  return { name, unique, body := textUpTo (fromName before name) (← get).rest, ifMissing, table, columns, condition }

def createView (temporary : Bool) : Parse CreateView := do
  let ifMissing ← ifNotExists
  let before := (← get).rest
  let name ← newName
  let columns ← if ← isSymbol "(" then some <$> bracketed Grammar.name else pure none
  keyword "AS"
  let query ← nestedSelect
  let c ← get
  let body := textBetween (fromName before name) c.rest
  return { name, temporary, body, ifMissing, columns, query, parametric := c.parameters ≠ 0 }

/-- What is created, by the word that says so. -/
def created (temporary : Bool) : String → Parse Parsed
  | "TABLE" => do return .createTable (← createTable temporary)
  | _ => do return .createView (← createView temporary)

def create : Parse Parsed := do
  match ← oneOf? ["TEMP", "TEMPORARY", "TABLE", "VIEW", "UNIQUE", "INDEX"] with
  | some "TABLE" => created false "TABLE"
  | some "VIEW" => created false "VIEW"
  | some "INDEX" => return .createIndex (← createIndex false)
  | some "UNIQUE" =>
    keyword "INDEX"
    return .createIndex (← createIndex true)
  | some _ =>
    match ← oneOf? ["TABLE", "VIEW"] with
    | some k => created true k
    | none => fail
  | none => fail

def drop : Parse Parsed := do
  match ← oneOf? ["TABLE", "VIEW", "INDEX"] with
  | none => fail
  | some kind =>
    let ifPresent ← keyword? "IF"
    if ifPresent then keyword "EXISTS"
    let d : Drop := ⟨← tableName, ifPresent⟩
    return match kind with
      | "TABLE" => .dropTable d
      | "VIEW" => .dropView d
      | _ => .dropIndex d

/-! ## Transactions and settings -/

/-- TRANSACTION, with a name that nothing uses. -/
def transactionWord : Parse Unit := do
  if ← keyword? "TRANSACTION" then
    let _ ← taking nameOf?

def begin : Parse TransactionCommand := do
  let mode ← oneOf? ["DEFERRED", "IMMEDIATE", "EXCLUSIVE"]
  transactionWord
  return .begin (match mode with
    | some "IMMEDIATE" => .immediate
    | some "EXCLUSIVE" => .exclusive
    | _ => .deferred)

def commit : Parse TransactionCommand := do
  transactionWord
  return .commit

def rollback : Parse TransactionCommand := do
  transactionWord
  if ← keyword? "TO" then
    let _ ← keyword? "SAVEPOINT"
    return .rollbackTo (← name)
  else return .rollback

def release : Parse TransactionCommand := do
  let _ ← keyword? "SAVEPOINT"
  return .release (← name)

/-- What a setting is set to: a number with or without a sign, or a word. -/
def settingValue : Parse Unit := do
  let signed := (← symbol? "+") || (← symbol? "-")
  match ← peek with
  | some (.number _) | some .lowest => advance
  | some (.word w) =>
    if signed then fail
    else if ["ON", "DELETE", "DEFAULT"].contains (upper w) then advance
    else
      let _ ← name
  | _ =>
    if signed then fail
    let _ ← name

def pragma : Parse String := do
  let setting := (← tableName).name
  if ← symbol? "=" then settingValue
  else if ← symbol? "(" then
    settingValue
    symbol ")"
  return setting

end TableKeeper.Sql.Grammar
