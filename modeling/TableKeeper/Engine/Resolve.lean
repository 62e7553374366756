import TableKeeper.Engine.Conversion
import TableKeeper.Engine.Fault
import TableKeeper.Engine.Schema

/-!
  TableKeeper.Engine.Resolve — names to places.

  1. An expression over tables becomes a term, in which a column is its place and carries
     its affinity and collation. A name that more than one of the tables has is ambiguous.
  2. Where no column has a name, it may be the rowid, then a result column's label. What a
     query does not know may be known to the queries around it, the nearest first. Then a
     name in double quotes is text, and the bare words TRUE and FALSE are truths.
  3. Inside the action of an upsert, `excluded` is the row that was to be inserted.
  4. A function is known by its name and the count of its arguments.
  5. Rows are compared value by value, from the left.
-/

namespace TableKeeper.Engine

open Sql

/-! ## Functions -/

/-- What a call stands for. -/
inductive Callee where
  | value (f : Function)
  | aggregate (g : Aggregate)
  /-- Conditions, each with a value behind it, and a last value. -/
  | choice
  /-- The first argument. -/
  | first

structure Signature where
  name : String
  callee : Callee
  least : Nat
  /-- None is no bound. -/
  most : Option Nat

def signatures : List Signature :=
  [⟨"abs", .value .abs, 1, some 1⟩, ⟨"avg", .aggregate .avg, 1, some 1⟩, ⟨"changes", .value .changes, 0, some 0⟩,
    ⟨"char", .value .char, 0, none⟩, ⟨"coalesce", .value .coalesce, 2, none⟩, ⟨"concat", .value .concat, 1, none⟩,
    ⟨"concat_ws", .value .concatBy, 2, none⟩, ⟨"count", .aggregate .count, 0, some 1⟩,
    ⟨"glob", .value .glob, 2, some 2⟩, ⟨"group_concat", .aggregate .concat, 1, some 2⟩,
    ⟨"hex", .value .hex, 1, some 1⟩, ⟨"if", .choice, 2, none⟩, ⟨"ifnull", .value .coalesce, 2, some 2⟩,
    ⟨"iif", .choice, 2, none⟩, ⟨"instr", .value .instr, 2, some 2⟩,
    ⟨"last_insert_rowid", .value .lastInsert, 0, some 0⟩, ⟨"length", .value .length, 1, some 1⟩,
    ⟨"like", .value .like, 2, some 3⟩, ⟨"likelihood", .first, 2, some 2⟩, ⟨"likely", .first, 1, some 1⟩,
    ⟨"lower", .value .lower, 1, some 1⟩, ⟨"ltrim", .value (.trim true false), 1, some 2⟩,
    ⟨"max", .aggregate .max, 1, some 1⟩, ⟨"max", .value .most, 2, none⟩, ⟨"min", .aggregate .min, 1, some 1⟩,
    ⟨"min", .value .least, 2, none⟩, ⟨"nullif", .value .nullif, 2, some 2⟩,
    ⟨"octet_length", .value .octets, 1, some 1⟩, ⟨"quote", .value .quote, 1, some 1⟩,
    ⟨"replace", .value .replace, 3, some 3⟩, ⟨"round", .value .round, 1, some 2⟩,
    ⟨"rtrim", .value (.trim false true), 1, some 2⟩, ⟨"sign", .value .sign, 1, some 1⟩,
    ⟨"sqlite_version", .value .version, 0, some 0⟩, ⟨"string_agg", .aggregate .concat, 2, some 2⟩,
    ⟨"substr", .value .substr, 2, some 3⟩, ⟨"substring", .value .substr, 2, some 3⟩,
    ⟨"sum", .aggregate .sum, 1, some 1⟩, ⟨"total", .aggregate .total, 1, some 1⟩,
    ⟨"trim", .value (.trim true true), 1, some 2⟩, ⟨"typeof", .value .typeof, 1, some 1⟩,
    ⟨"unicode", .value .unicode, 1, some 1⟩, ⟨"unlikely", .first, 1, some 1⟩, ⟨"upper", .value .upper, 1, some 1⟩]

def Signature.takes (s : Signature) (count : Nat) : Bool :=
  s.least ≤ count && s.most.all (count ≤ ·)

def callee (name : String) (offset count : Nat) : Except Fault Callee :=
  match signatures.filter (sameName ·.name name) with
  | [] => .error (.noSuchFunction name offset)
  | ss =>
    match ss.find? (·.takes count) with
    | some s => .ok s.callee
    | none => .error (.argumentCount name offset)

/-! ## Scopes -/

/-- A table and the name it goes by. -/
structure Known where
  table : Table
  label : Option String := none
  /-- The query that gives the rows, if they are not the table's own. -/
  query : Option Subquery := none
  /-- A schema may stand in front of its name. -/
  inSchema : Bool := true
  /-- How it is joined with the sources before. -/
  join : JoinKind := {}
  /-- The columns that are one with columns of the sources before. -/
  common : List String := []

/-- What names may mean in one query. -/
structure Level where
  sources : List Known := []
  /-- `excluded` names the row that was to be inserted into the first table. -/
  upserting : Bool := false
  /-- Result columns by their labels. -/
  labels : List (String × Term) := []

/-- Where an expression stands in which little is allowed. -/
inductive Confinement where
  | check
  | generated
  | index
  | part
  deriving DecidableEq

namespace Confinement

/-- The place as messages have it. -/
def text : Confinement → String
  | check => "CHECK constraints"
  | generated => "generated columns"
  | index => "index expressions"
  | part => "partial index WHERE clauses"

end Confinement

/-- A query where none can be prepared. -/
def noSubquery (_ : List Level) (_ : Select) : Except Fault Subquery := .error (.grammar .tooDeep)

/-- What names may mean. -/
structure Scope extends Level where
  /-- The queries around, the nearest first. -/
  outer : List Level := []
  /-- Aggregates may be computed. -/
  aggregating : Bool := false
  confinement : Option Confinement := none
  /-- What a query inside is, with the queries around it. -/
  subquery : List Level → Select → Except Fault Subquery := noSubquery

namespace Known

/-- The table goes by this name. -/
def isCalled (k : Known) (name : String) : Bool :=
  match k.label with
  | some l => sameName l name
  | none =>
    sameName k.table.name name || k.table.readOnly && (sameName name (schemaTableAlias k.table.temporary)
      || sameName name (schemaTableName false) || sameName name (schemaTableAlias false))

/-- The table is the one that stands in front of a column. -/
def isMeant (k : Known) (c : ColumnName) : Bool :=
  c.table.all k.isCalled &&
    c.schema.all fun s => k.inSchema && Database.schemaOf? s == some k.table.temporary

/-- The `i`th column as a term, when the table is the `n`th. -/
def columnTerm (k : Known) (n i : Nat) : Term :=
  if k.table.key = some i then .rowid n else .column n i (k.table.affinityOf i) (k.table.collationOf i)

/-- The column of a name as a term. -/
def term? (k : Known) (n : Nat) (name : String) : Option Term := (k.table.columnIndex? name).map (k.columnTerm n)

/-- The column is one with a column before. -/
def isCommon (k : Known) (name : String) : Bool := k.common.any (sameName · name)

end Known

namespace Level

/-- The tables that a column may be of, with their numbers. -/
def meant (s : Level) (c : ColumnName) : List (Known × Nat) := s.sources.zipIdx.filter fun (k, _) => k.isMeant c

/-- What a name may be with one more table. A column that is one with a column before is that
one, or the one here if the join keeps the rows here, or the first of both that is not null
if it keeps the rows of both sides. -/
def merge (name : String) (found : List Term) (k : Known) (t : Term) : List Term :=
  match found, k.isCommon name, k.join.right, k.join.left with
  | [], _, _, _ => [t]
  | _, false, _, _ => found ++ [t]
  | _, true, false, _ => found
  | _, true, true, false => [t]
  | _, true, true, true => [.call .coalesce (found ++ [t])]

/-- The columns that a name may be. -/
def columns (s : Level) (c : ColumnName) : List Term :=
  (s.meant c).foldl (fun found (k, n) => ((k.term? n c.name).map (merge c.name found k)).getD found) []

/-- The columns that a name may be, or the rowids. -/
def candidates (s : Level) (c : ColumnName) (rowids : Bool) : List Term :=
  match s.columns c with
  | [] =>
    if rowids && Table.isRowidName c.name then
      (s.meant c).filterMap fun (k, n) => if k.table.hasRowid then some (.rowid n) else none
    else []
  | ts => ts

/-- A cell of the row that was to be inserted. -/
def excluded? (s : Level) (c : ColumnName) : Option Term :=
  match s.upserting && c.schema.isNone && c.table.any (sameName "excluded"), s.sources with
  | true, [k] =>
    match k.table.columnIndex? c.name with
    | some i =>
      some (if k.table.key = some i then .excludedRowid
        else .excluded i (k.table.affinityOf i) (k.table.collationOf i))
    | none => if k.table.hasRowid && Table.isRowidName c.name then some .excludedRowid else none
  | _, _ => none

/-- The result column of a name. -/
def labelled? (s : Level) (c : ColumnName) : Option (String × Term) :=
  if c.table.isNone then s.labels.find? fun l => sameName l.1 c.name else none

end Level

/-- A column as it is written. -/
def written (c : ColumnName) : String :=
  (c.schema.elim "" (· ++ ".")) ++ (c.table.elim "" (· ++ ".")) ++ c.name

def truthWord? (c : ColumnName) : Option Bool :=
  match c.quoting, c.table with
  | .bare, none => if sameName c.name "TRUE" then some true else if sameName c.name "FALSE" then some false else none
  | _, _ => none

namespace Level

/-- What a name means in one query, if it is known there. -/
def column? (s : Level) (c : ColumnName) (rowids aggregating : Bool) : Except Fault (Option Term) :=
  match s.candidates c rowids, s.excluded? c, s.labelled? c with
  | [t], _, _ => .ok (some t)
  | _ :: _, _, _ => .error (.ambiguousColumn (written c) c.offset)
  | [], some t, _ => .ok (some t)
  | [], none, some (label, t) =>
    if t.hasAggregate && !aggregating then .error (.misusedAlias label) else .ok (some t)
  | [], none, none => .ok none

end Level

namespace Scope

/-- The scope of one table. -/
def ofTable (t : Table) (label : Option String) : Scope := { sources := [{ table := t, label }] }

/-- The levels as a query inside sees them. -/
def levels (s : Scope) : List Level := s.toLevel :: s.outer

/-- Rowids can be asked for. -/
def rowids (s : Scope) : Bool := s.confinement.all fun p => p == .check || p == .part

/-- What a name means to the queries around. -/
def outerColumn? (c : ColumnName) : List (Level × Nat) → Except Fault (Option Term)
  | [] => .ok none
  | (l, depth) :: rest => do
    match ← l.column? c true true with
    | some t => return some (.outer depth t)
    | none => outerColumn? c rest

def column (s : Scope) (c : ColumnName) : Except Fault Term := do
  if let some t := ← s.toLevel.column? c s.rowids s.aggregating then return t
  if let some t := ← outerColumn? c s.outer.zipIdx then return t
  match c.quoting, c.table, truthWord? c with
  | .doubleQuoted, none, _ => return .literal (.text c.name)
  | _, _, some b => return .literal (.ofBool b)
  | _, _, none => throw (.noSuchColumn (written c) (some c.offset))

/-- The truth that an expression is as it is written. -/
def truth? (s : Scope) : Expr → Option Bool
  | .constant b => some b
  | .column c =>
    if s.levels.any fun l => !(l.candidates c s.rowids).isEmpty || (l.labelled? c).isSome then none
    else truthWord? c
  | _ => none

/-- Nothing but terms of the same row may stand in a confined place. -/
def allows (s : Scope) (what : String) (offset : Option Nat) : Except Fault Unit :=
  match s.confinement with
  | none => .ok ()
  | some p => .error (.prohibited what p.text offset)

end Scope

/-! ## Expressions -/

/-- Conditions and values in turn, and a last value, which is null if it is not given. -/
def choiceOf : List Term → Term
  | c :: a :: rest => .choose c a (choiceOf rest)
  | [t] => t
  | [] => .literal .null

/-- A literal with a minus is a literal. -/
def signedTerm : Sign → Term → Term
  | .minus, .literal (.integer n) => .literal (.integer (-n))
  | .minus, .literal (.real x) => .literal (.real x.neg)
  | s, t => .signed s t

def callTerm (callee : Callee) (name : String) (offset : Nat) (distinct : Bool) (args : List Term)
    (filter : Option Term) : Except Fault Term :=
  match callee, filter with
  | .aggregate kind, filter =>
    if distinct ∧ args.length ≠ 1 then .error .distinctArguments
    else .ok (.aggregate { kind, distinct, name, offset, filtered := filter.isSome } (args ++ filter.toList))
  | _, some _ => .error (.misplacedFilter name offset)
  | .value f, none => .ok (.call f args)
  | .choice, none => .ok (choiceOf args)
  | .first, none => .ok (args.headD (.literal .null))

def Callee.isAggregate : Callee → Bool
  | .aggregate _ => true
  | _ => false

/-! ## Rows -/

/-- Rows are equal when all their values are. -/
def equalTerms (op : Comparison) : List (Term × Term) → Term
  | [] => .literal (.ofBool true)
  | [(a, b)] => .compare op a b
  | (a, b) :: rest => .and (.compare op a b) (equalTerms op rest)

/-- Of two rows, one comes before the other by their first values that differ. -/
def orderedTerms (strict op : Comparison) : List (Term × Term) → Term
  | [] => .literal (.ofBool true)
  | [(a, b)] => .compare op a b
  | (a, b) :: rest => .or (.compare strict a b) (.and (.compare .eq a b) (orderedTerms strict op rest))

def comparedTerms (op : Comparison) (ps : List (Term × Term)) : Term :=
  match op with
  | .eq | .same => equalTerms op ps
  | .ne => .not (equalTerms .eq ps)
  | .differs => .not (equalTerms .same ps)
  | .lt | .le => orderedTerms .lt op ps
  | .gt | .ge => orderedTerms .gt op ps

/-- The columns of the first row of a query. -/
def resolveQuery (s : Scope) (q : Select) : Except Fault (List Term) := do
  s.allows "subqueries" none
  let q ← s.subquery s.levels q
  return (List.range q.columns.length).map (.query q)

mutual

def resolve (s : Scope) : Expr → Except Fault Term
  | .literal v => .ok (.literal v)
  | .constant b => .ok (.literal (.ofBool b))
  | .parameter i offset => do
    s.allows "parameters" (some offset)
    return .parameter i
  | .column c => s.column c
  | .call name offset distinct args filter => do
    let f ← callee name offset args.length
    if f.isAggregate && !s.aggregating then throw (.misusedAggregate name offset)
    let inside := { s with aggregating := s.aggregating && !f.isAggregate }
    let terms ← resolveList inside args
    callTerm f name offset distinct terms (← resolve? inside filter)
  | .signed sign e => return signedTerm sign (← resolve s e)
  | .not e => return .not (← resolve s e)
  | .and a b => return .and (← resolve s a) (← resolve s b)
  | .or a b => return .or (← resolve s a) (← resolve s b)
  | .compare op a b => do
    let left ← match a with
      | .row items => resolveList s items
      | .query q => resolveQuery s q
      | a => List.singleton <$> resolve s a
    match op, left, s.truth? b with
    | .same, [t], some b => return .isTruth t b
    | .differs, [t], some b => return .not (.isTruth t b)
    | _, _, _ =>
      let right ← match b with
        | .row items => resolveList s items
        | .query q => resolveQuery s q
        | b => List.singleton <$> resolve s b
      if left.length ≠ right.length then throw .misusedRow
      return comparedTerms op (left.zip right)
  | .combine op a b => return .combine op (← resolve s a) (← resolve s b)
  | .isIn a items => return .isIn (← resolve s a) (← resolveList s items)
  | .isNull e => return .isNull (← resolve s e)
  | .choose c a b => return .choose (← resolve s c) (← resolve s a) (← resolve s b)
  | .cast e declared => return .cast (← resolve s e) (.ofDeclared declared)
  | .collate e name => do
    let t ← resolve s e
    match Collation.ofName? name with
    | some c => return .collate t c
    | none => throw (.noSuchCollation name)
  | .row _ => throw .misusedRow
  | .query q => do
    match ← resolveQuery s q with
    | [t] => return t
    | ts => throw (.queryWidth ts.length 1)
  | .hasRows q => do
    s.allows "subqueries" none
    return .hasRows (← s.subquery s.levels q)
  | .isAmong a q => do
    let row ← match a with
      | .row items => resolveList s items
      | .query q => resolveQuery s q
      | a => List.singleton <$> resolve s a
    s.allows "subqueries" a.offset?
    let q ← s.subquery s.levels q
    if row.length ≠ q.columns.length then throw (.queryWidth q.columns.length row.length)
    return .isAmong row q

def resolveList (s : Scope) : List Expr → Except Fault (List Term)
  | [] => .ok []
  | e :: es => return (← resolve s e) :: (← resolveList s es)

def resolve? (s : Scope) : Option Expr → Except Fault (Option Term)
  | none => .ok none
  | some e => return some (← resolve s e)

end

end TableKeeper.Engine
