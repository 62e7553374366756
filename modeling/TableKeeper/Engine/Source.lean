import TableKeeper.Engine.Resolve
import TableKeeper.Engine.Selection

/-!
  TableKeeper.Engine.Source — what a query reads from.

  1. A name of a source is that of a query of WITH, and else that of a table or a view. A
     query of WITH sees those beside it and those further out, but not itself.
  2. The last parts of a query of WITH may name it, under UNION or UNION ALL; it then goes on
     from its own rows.
  3. A view is prepared anew where it is read, and sees its own schema alone.
  4. The columns that a join has in common stand in both sides.
-/

namespace TableKeeper.Engine

open Sql

/-! ## Settings -/

/-- What a name of WITH stands for at the moment. -/
inductive Standing where
  | ready
  /-- It is being prepared, and to name it is a fault. -/
  | underway
  /-- The row that the query goes on from. -/
  | going (columns : List GivenColumn)

structure Nameable where
  query : NamedQuery
  standing : Standing := .ready

/-- What names of sources may mean. -/
structure Setting where
  database : Database
  /-- Why no table can be looked up, if none can. -/
  obstacle : Option Fault := none
  /-- The queries of WITH, those of the innermost first. -/
  named : List (List Nameable) := []
  /-- The schema that names without one are of. -/
  home : Option Bool := none
  /-- The views that are being prepared. -/
  views : List String := []

/-- How a query is prepared in a setting, with the queries around it. -/
abbrev Preparer := Setting → List Level → Select → Except Fault PreparedSelect

/-- Where a query or a change is prepared. -/
structure Context extends Setting where
  outer : List Level := []
  prepare : Preparer

namespace Context

def subquery (cx : Context) (outer : List Level) (q : Select) : Except Fault Subquery :=
  (cx.prepare cx.toSetting outer q).map (·.subquery)

/-- The scope of a query. -/
def scope (cx : Context) (sources : List Known) : Scope := { sources, outer := cx.outer, subquery := cx.subquery }

/-- The scope of a bound, which sees no names. -/
def bare (cx : Context) : Scope := { subquery := cx.subquery }

/-- The scope of one table. -/
def ofTable (cx : Context) (t : Table) (label : Option String) : Scope := cx.scope [{ table := t, label }]

/-- The context inside a WITH. -/
def withNamed (cx : Context) (qs : List NamedQuery) : Context :=
  if qs.isEmpty then cx else { cx with named := qs.map ({ query := · }) :: cx.named }

end Context

/-! ## Queries as tables -/

/-- Names for columns; a name that is taken already gets a number. -/
def distinctNames : List String → List String → List String
  | [], _ => []
  | n :: rest, taken =>
    let isFree (s : String) : Bool := !taken.any (sameName · s)
    let numbered := (List.range taken.length).map fun i => n ++ ":" ++ toString (i + 1)
    let name := ((n :: numbered).find? isFree).getD n
    name :: distinctNames rest (name :: taken)

/-- The columns of a query under the names that are given for them. -/
def renamed (q : Subquery) (names : List String) : Subquery :=
  { q with columns := (q.columns.zip (distinctNames names [])).map fun (c, name) => { c with name } }

def ownNames (q : Subquery) : List String := q.columns.map (·.name)

/-- A query as a table. -/
def derivedTable (name : String) (q : Subquery) : Table where
  name := name
  sql := ""
  columns := q.columns.map fun c => { name := c.name, affinity := c.affinity, collation := c.collation.getD .binary }
  key := none
  indexes := []
  rows := []
  hasRowid := false

def derived (name : String) (label : Option String) (q : Subquery) : Known :=
  { table := derivedTable name q, label, query := some q, inSchema := false }

/-! ## Queries of WITH -/

/-- The query of WITH that a name is, and the queries that it sees. -/
def nameable? (name : String) : List (List Nameable) → Option (Nameable × List (List Nameable))
  | [] => none
  | clause :: further =>
    match clause.find? fun n => sameName n.query.name name with
    | some n => some (n, clause :: further)
    | none => nameable? name further

/-- The queries with one of the first clause in another standing. -/
def withStanding (name : String) (standing : Standing) : List (List Nameable) → List (List Nameable)
  | [] => []
  | clause :: further => (clause.map fun n => if sameName n.query.name name then { n with standing } else n) :: further

/-- How often a part reads the table of a name. -/
def mentions (name : String) : QueryPart → Nat
  | .values _ => 0
  | .select c => (c.sources.filter fun s =>
    match s.relation with
    | .table { schema := none, name := n } => sameName n name
    | _ => false).length

/-- The parts of a query in front, and the last ones, which name it and stand behind one
operation. -/
def recursiveParts (name : String) (others : List (SetOperation × QueryPart)) :
    List (SetOperation × QueryPart) × List (SetOperation × QueryPart) :=
  match others.getLast? with
  | some (op, _) =>
    if op = .union ∨ op = .unionAll then
      let last := others.reverse.takeWhile fun (o, p) => o = op ∧ mentions name p ≠ 0
      (others.take (others.length - last.length), last.reverse)
    else (others, [])
  | none => (others, [])

/-- The columns of a query by the names that WITH gives them. -/
def columnsNamed (n : NamedQuery) (q : Subquery) : Except Fault Subquery :=
  match n.columns with
  | none => .ok (renamed q (ownNames q))
  | some names =>
    if names.length = q.columns.length then .ok (renamed q names)
    else .error (.namedWidth n.name q.columns.length names.length)

/-- The whole number that an expression is as it is written, if it is a small one. -/
def place? : Expr → Option Int
  | .literal (.integer n) => if n.toInt.natAbs < 2 ^ 31 then some n.toInt else none
  | .signed .plus e => place? e
  | .signed .minus e => (place? e).map (-·)
  | _ => none

/-- The name that an expression is, if it is a lone one. -/
def loneName? : Expr → Option String
  | .column { schema := none, table := none, name, .. } => some name
  | _ => none

/-- An order term of a recursive query is a column by its place or its name. -/
def recursionTerm (columns : List GivenColumn) (o : OrderTerm) (number : Nat) : Except Fault SortTerm :=
  let byName := (loneName? o.expr).bind fun name => columns.findIdx? fun c => sameName c.name name
  match (place? o.expr).map (fun n => n.toNat - 1) |>.orElse fun _ => byName with
  | none => .error (.orderMissing (number + 1))
  | some i =>
    match columns[i]? with
    | none => .error (.orderRange (number + 1) "ORDER" columns.length (some o.offset))
    | some c =>
      .ok { term := .column 0 i .blob (c.collation.getD .binary), descending := o.descending, nullsLast := o.nullsLast }

/-- A query that goes on from its own rows. -/
def openRecursion (cx : Context) (n : NamedQuery) (clauses : List (List Nameable))
    (first steps : List (SetOperation × QueryPart)) : Except Fault Subquery := do
  if steps.any fun (_, p) => 1 < mentions n.name p then throw (.severalMentions n.name)
  let standing (s : Standing) : Setting := { cx.toSetting with named := withStanding n.name s clauses }
  let q := n.query
  let before : Select := { named := q.named, first := q.first, others := first }
  let start ← cx.prepare (standing .underway) cx.outer before
  let given ← columnsNamed n start.subquery
  let parts ← steps.mapM fun (_, p) =>
    cx.prepare (standing (.going given.columns)) cx.outer { named := q.named, first := p }
  let op := ((steps.head?).map (·.1)).getD .unionAll
  if parts.any (·.columns.length ≠ start.columns.length) then throw (.unevenParts op.text)
  if parts.any (·.first.isGrouping) then throw .recursiveAggregate
  let r : Recursion := {
    first := start
    steps := parts.map (·.first)
    distinct := op = .union
    order := ← q.order.zipIdx.mapM fun (o, i) => recursionTerm given.columns o i
    limit := ← resolve? cx.bare q.limit
    offset := ← resolve? cx.bare q.offset }
  return { r.subquery with columns := given.columns }

def openNamed (cx : Context) (n : Nameable) (clauses : List (List Nameable)) : Except Fault Subquery :=
  let q := n.query
  match n.standing with
  | .underway => .error (.circularReference q.name)
  | .going columns => .ok { columns, reads := [], rows := fun f => [.ok f.current] }
  | .ready =>
    match recursiveParts q.name q.query.others with
    | (_, []) => do
      let setting := { cx.toSetting with named := withStanding q.name .underway clauses }
      columnsNamed q (← cx.prepare setting cx.outer q.query).subquery
    | (first, steps) => openRecursion cx q clauses first steps

/-! ## Tables and views -/

def openView (cx : Context) (v : View) : Except Fault Subquery := do
  if cx.views.any (sameName · v.name) then throw (.circularView v.name)
  let home := if v.temporary then none else some false
  let setting : Setting := { database := cx.database, home, views := v.name :: cx.views }
  let q ← (cx.prepare setting [] v.query).mapError .inView
  let names := v.columns.getD q.columns
  if names.length ≠ q.columns.length then throw (.viewWidth names.length v.name q.columns.length)
  return renamed q.subquery names

/-- The table or the view of a name. -/
def openStored (cx : Context) (n : TableName) (label index : Option String) : Except Fault Known := do
  if let some f := cx.obstacle then throw f
  let n := { n with schema := n.schema.orElse fun _ => cx.home.map schemaName }
  match cx.database.relation? n with
  | none => throw (.noSuchTable n.text)
  | some (.view v) => return { derived v.name label (← openView cx v) with inSchema := true }
  | some (.table t) =>
    match index.filter fun name => !t.indexes.any (sameName ·.name name) with
    | some name => throw (.noSuchIndex name)
    | none => return { table := t, label }

def openRelation (cx : Context) (s : Source) : Except Fault Known :=
  match s.relation with
  | .query q => return derived "" s.label (renamed' (← cx.subquery cx.outer q))
  | .table n =>
    match if n.schema.isNone then nameable? n.name cx.named else none with
    | some (q, clauses) => return derived n.name s.label (← openNamed cx q clauses)
    | none => openStored cx n s.label s.index
where
  renamed' (q : Subquery) : Subquery := renamed q (ownNames q)

/-! ## Joins -/

/-- The columns that a source has in common with those before it. -/
def commonNames (before : List Known) (s : Source) (k : Known) : Except Fault (List String) :=
  let isBefore (name : String) : Bool := before.any fun b => (b.table.columnIndex? name).isSome
  if s.join.natural then
    if s.common.isSome || s.condition.isSome then .error .conditionedNatural
    else .ok ((k.table.columns.map (·.name)).filter isBefore)
  else
    match (s.common.getD []).find? fun name => !isBefore name || (k.table.columnIndex? name).isNone with
    | some name => .error (.notCommon name)
    | none => .ok (s.common.getD [])

/-- The columns that are in common, source by source. -/
def joinedSources (before : List Known) : List (Source × Known) → Except Fault (List Known)
  | [] => .ok before
  | (s, k) :: rest => do
    let k := { k with join := s.join, common := ← commonNames before s k }
    joinedSources (before ++ [k]) rest

/-- How many sources a query has at most. -/
def sourceLimit : Nat := 64

def openSources (cx : Context) (ss : List Source) : Except Fault (List Known) := do
  let known ← ss.mapM (openRelation cx)
  if sourceLimit < known.length then throw .tooManySources
  joinedSources [] (ss.zip known)

end TableKeeper.Engine
