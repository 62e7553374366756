import TableKeeper.Engine.Plan
import TableKeeper.Engine.Source

/-!
  TableKeeper.Engine.Query — queries whose names are resolved.

  1. A query is prepared in a setting: the sources and the stars first, then the bounds,
     which see no names, the result columns, HAVING, the conditions, the order and the
     groups. The first name that is unknown is the fault. Of several parts the last is
     prepared first.
  2. A result column has its label, else the declared name of the column it is, else its
     own text.
  3. A term of an order or a group that is a whole number is a result column by its place;
     an order term that is a label is that column. In a query of several parts every order
     term must be a column of some part.
-/

namespace TableKeeper.Engine

open Sql

/-! ## Stars -/

/-- A result column, with its name if it is resolved. -/
inductive Projected where
  | resolved (c : OutputColumn)
  | written (e : Expr) (label : Option String) (text : String)

structure OpenedCore where
  core : Core
  known : List Known
  columns : List Projected

def columnsOf (k : Known) (n : Nat) : List Projected :=
  k.table.columns.zipIdx.map fun (c, i) => .resolved ⟨c.name, k.columnTerm n i⟩

/-- All columns, each that sources have in common once. -/
def allColumns (known : List Known) : List Projected :=
  let level : Level := { sources := known }
  known.zipIdx.flatMap fun (k, n) => k.table.columns.zipIdx.filterMap fun (c, i) =>
    if k.isCommon c.name then none
    else
      let merged := if (known.drop (n + 1)).any (·.isCommon c.name)
        then (level.columns { name := c.name, offset := 0 }).head? else none
      some (.resolved ⟨c.name, merged.getD (k.columnTerm n i)⟩)

def projected (known : List Known) : ResultColumn → Except Fault (List Projected)
  | .all => if known.isEmpty then .error .noTables else .ok (allColumns known)
  | .allOf name =>
    match known.zipIdx.filter fun (k, _) => sameName (k.label.getD k.table.name) name with
    | [] => .error (.noSuchTable name)
    | ks => .ok (ks.flatMap fun (k, n) => columnsOf k n)
  | .expr e label text => .ok [.written e label text]

/-- How many columns a query or a table has at most. -/
def columnLimit : Nat := 2000

def openCore (cx : Context) (c : Core) : Except Fault OpenedCore := do
  let known ← openSources cx c.sources
  let columns ← c.columns.mapM (projected known)
  if columnLimit < columns.flatten.length then throw .tooManyColumns
  return ⟨c, known, columns.flatten⟩

/-! ## Result columns -/

/-- The declared name of a column, if the term is one. -/
def declaredName? (known : List Known) : Term → Option String
  | .column n i _ _ => (known[n]?).bind fun k => (k.table.columns[i]?).map (·.name)
  | .rowid n => (known[n]?).map fun k => (k.table.key.map k.table.columnName).getD "rowid"
  | _ => none

def outputColumn (s : Scope) : Projected → Except Fault OutputColumn
  | .resolved c => .ok c
  | .written e label text => do
    let term ← resolve s e
    return ⟨(label.orElse fun _ => declaredName? s.sources term).getD text, term⟩

/-- The label of a result column and its place, from zero. -/
def labels (ps : List Projected) : List (String × Nat) :=
  ps.zipIdx.filterMap fun (p, i) =>
    match p with
    | .resolved c => some (c.name, i)
    | .written _ label _ => label.map (·, i)

/-- The rows of the result columns of an expression list. -/
def outputColumns (s : Scope) (rs : List ResultColumn) : Except Fault (List OutputColumn) := do
  let ps ← rs.mapM (projected s.sources)
  ps.flatten.mapM (outputColumn s)

/-! ## Places -/

/-- An expression without the collations around it, and the outermost of them. -/
def uncollated : Expr → Expr × Option String
  | .collate e name => ((uncollated e).1, some name)
  | e => (e, none)

def labelled? (names : List (String × Nat)) (e : Expr) : Option Nat :=
  (loneName? e).bind fun name => (names.find? fun l => sameName l.1 name).map (·.2)

/-- A term under the collation that is written around it. -/
def collated (name : Option String) (t : Term) : Except Fault Term :=
  match name with
  | none => .ok t
  | some name =>
    match Collation.ofName? name with
    | some c => .ok (.collate t c)
    | none => .error (.noSuchCollation name)

/-- A clause whose terms may be places, and what a term means that is no place. -/
structure Placing where
  clause : String
  columns : List Term
  names : List (String × Nat)
  scope : Scope

/-- The term by its number, from zero. -/
def Placing.term (p : Placing) (o : OrderTerm) (number : Nat) : Except Fault Term :=
  let (e, collation) := uncollated o.expr
  let fault (offset : Option Nat) : Fault := .orderRange (number + 1) p.clause p.columns.length offset
  match labelled? p.names e, place? e with
  | some i, _ => do
    collated collation ((p.columns[i]?).getD (.literal .null))
  | none, some n =>
    if n < 1 ∨ 65535 < n then .error (fault (some o.offset))
    else
      match p.columns[n.toNat - 1]? with
      | some t => collated collation t
      | none => .error (fault none)
  | none, none => resolve p.scope o.expr

def Placing.terms (p : Placing) (os : List OrderTerm) : Except Fault (List Term) :=
  os.zipIdx.mapM fun (o, n) => p.term o n

/-! ## One SELECT -/

/-- An aggregate where there is no group. -/
def misplaced (ts : List Term) : Except Fault Unit :=
  match (ts.flatMap Term.aggregates).head? with
  | some (g, _) => .error (.misplacedAggregate g.name g.offset)
  | none => .ok ()

def sortTerm (o : OrderTerm) (term : Term) : SortTerm := { term, descending := o.descending, nullsLast := o.nullsLast }

/-- The columns of a source that are one with columns before are equal to them. -/
def commonTerms (known : List Known) (k : Known) (n : Nat) : List Term :=
  k.common.filterMap fun name => do
    let before : Level := { sources := known.take n }
    return .compare .eq (← (before.columns { name, offset := 0 }).head?) (← k.term? n name)

/-- What a row of a source must meet to go with the rows before. -/
def joinTerms (s : Scope) (source : Source) (k : Known) (n : Nat) : Except Fault (List Term) :=
  return commonTerms s.sources k n ++ (← resolve? s source.condition).toList

/-- A source that is alone is scanned in the way that is best. -/
def planned (sources : List PreparedSource) (conditions : List Term) (order : List SortTerm) (terms : List Term) :
    List PreparedSource :=
  match sources with
  | [s] =>
    if s.query.isSome then sources
    else
      let order := order.head?.map fun o => (o.term, o.descending)
      [{ s with scan := s.table.scan? (conditions.flatMap Term.conjuncts) order (Term.columnsReadAmong terms) }]
  | _ => sources

/-- The conjunction of terms, if there are any. -/
def conjunction? : List Term → Option Term
  | [] => none
  | t :: ts => some (ts.foldl .and t)

/-- The sources with what is asked of their rows one by one, and what is asked of all rows:
without a join that keeps rows of its right side, inner joins are conditions like any other. -/
def joinedConditions (known : List Known) (joins : List (List Term)) : List PreparedSource × List Term :=
  let keepsRight := known.any (·.join.right)
  let isOwn (k : Known) : Bool := keepsRight || k.join.left
  let sources := (known.zip joins).map fun (k, ts) =>
    { table := k.table, query := k.query, join := k.join
      condition := if isOwn k then conjunction? ts else none : PreparedSource }
  (sources, ((known.zip joins).filter fun (k, _) => !isOwn k).flatMap (·.2))

def prepareCore (cx : Context) (o : OpenedCore) (order : List OrderTerm) :
    Except Fault (PreparedCore × List SortTerm) := do
  let c := o.core
  let scope := { cx.scope o.known with aggregating := true }
  let columns ← o.columns.mapM (outputColumn scope)
  let grouping := !c.groups.isEmpty || columns.any (·.term.hasAggregate)
  let names := labels o.columns
  let scope := { scope with labels := names.map fun (l, i) => (l, ((columns[i]?).map (·.term)).getD (.literal .null)) }
  let limited := { scope with aggregating := grouping }
  if c.having.isSome && !grouping then throw .havingWithoutGroups
  let having ← resolve? limited c.having
  let condition ← resolve? limited c.condition
  let joins ← ((c.sources.zip o.known).zipIdx).mapM fun ((s, k), n) => joinTerms limited s k n
  let (sources, inner) := joinedConditions o.known joins
  let terms := columns.map (·.term)
  let order' ← { clause := "ORDER", columns := terms, names, scope : Placing }.terms order
  let groups ← { clause := "GROUP", columns := terms, names := [], scope : Placing }.terms c.groups
  if groups.any Term.hasAggregate then throw .aggregateInGroups
  let conditions := condition.toList ++ inner
  misplaced (conditions ++ sources.filterMap (·.condition))
  if !grouping then misplaced order'
  let sorting := (order.zip order').map fun (o, t) => sortTerm o t
  let sources := planned sources conditions sorting (terms ++ conditions ++ order' ++ groups ++ having.toList)
  return ({ distinct := c.distinct, columns, reading := .ofCondition sources conditions, grouping, groups, having },
    sorting)

/-! ## Queries of several parts -/

inductive OpenedPart where
  | core (o : OpenedCore)
  | values (rows : List (List Expr))

def openPart (cx : Context) : QueryPart → Except Fault OpenedPart
  | .select c => .core <$> openCore cx c
  | .values rows =>
    if columnLimit < (rows.headD []).length then .error .tooManyColumns else .ok (.values rows)

def preparePart (cx : Context) : OpenedPart → Except Fault PreparedPart
  | .core o => return .core (← prepareCore cx o []).1
  | .values rows => .values <$> rows.mapM (resolveList (cx.scope []))

/-- The parts, of which the last is opened and prepared first. -/
def backward {α β : Type} (f : α → Except Fault β) : List α → Except Fault (List β)
  | [] => .ok []
  | a :: rest => do
    let bs ← backward f rest
    return (← f a) :: bs

def isValues : QueryPart → Bool
  | .values _ => true
  | .select _ => false

/-- Parts that stand side by side have the same number of columns. -/
def checkWidths : List (SetOperation × QueryPart) → List PreparedPart → Except Fault Unit
  | (op, q) :: others, p :: p' :: rest => do
    checkWidths others (p' :: rest)
    if p.terms.length ≠ p'.terms.length then
      throw (if isValues q then .grammar .unevenValues else .unevenParts op.text)
  | _, _ => .ok ()

/-- The place of the column that an order term is in a part. -/
def columnPlace? (o : OpenedPart) (p : PreparedPart) (e : Expr) : Option Nat :=
  match o with
  | .values _ => none
  | .core o =>
    (labelled? (labels o.columns) e).orElse fun _ =>
      match resolve { sources := o.known } e with
      | .ok (.column n i _ _) => p.terms.findIdx? fun
        | .column m j _ _ => m = n ∧ j = i
        | _ => false
      | .ok (.rowid n) => p.terms.findIdx? fun
        | .rowid m => m = n
        | _ => false
      | _ => none

def compoundTerm (parts : List (OpenedPart × PreparedPart)) (width : Nat) (o : OrderTerm) (number : Nat) :
    Except Fault SortTerm := do
  let (e, collation) := uncollated o.expr
  let place ← match place? e with
    | some n =>
      if 1 ≤ n ∧ n ≤ width then pure (some (n.toNat - 1))
      else throw (.orderRange (number + 1) "ORDER" width (some o.offset))
    | none => pure (parts.findSome? fun (opened, p) => columnPlace? opened p e)
  match place with
  | none => throw (.orderMissing (number + 1))
  | some i =>
    let column : Term := .column 0 i .blob (partsCollation (parts.map (·.2)) i)
    return sortTerm o (← collated collation column)

/-- No column limit holds for the rows of a set operation that are put in order. -/
def prepareSelect (cx : Context) (q : Select) : Except Fault PreparedSelect := do
  let cx := cx.withNamed q.named
  let opened ← backward (openPart cx) (q.first :: q.others.map (·.2))
  let limit ← resolve? cx.bare q.limit
  let offset ← resolve? cx.bare q.offset
  match opened, q.others with
  | [.core o], [] =>
    let (core, order) ← prepareCore cx o q.order
    let first := PreparedPart.core core
    return { columns := first.names, first, others := [], order, limit, offset }
  | _, _ =>
    let parts ← backward (preparePart cx) opened
    checkWidths q.others parts
    let first := parts.headD (.values [])
    let order ← q.order.zipIdx.mapM fun (o, n) => compoundTerm (opened.zip parts) first.terms.length o n
    return { columns := first.names, first, others := (q.others.map (·.1)).zip (parts.drop 1), order, limit, offset }

/-! ## Queries in queries -/

/-- How deep queries stand in one another at most. -/
def nestingLimit : Nat := 1000

def prepareWithin : Nat → Preparer
  | 0, _, _, _ => .error (.grammar .tooDeep)
  | depth + 1, s, outer, q => prepareSelect { toSetting := s, outer, prepare := prepareWithin depth } q

/-- Where a statement is prepared. -/
def Database.context (db : Database) : Context := { database := db, prepare := prepareWithin nestingLimit }

end TableKeeper.Engine
