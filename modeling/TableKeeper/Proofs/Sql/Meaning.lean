import TableKeeper.Sql.Clause
import TableKeeper.Sql.Command
import TableKeeper.Sql.Grammar

/-!
  TableKeeper.Proofs.Sql.Meaning — what a query asks for.

  1. What `=` and LIKE say of two values is left open (`Meaning`). A condition is true of a
     row or it is not; what is unknown is not true. The items of a list are values or
     literals, as the binding hands them over (`handed`).
  2. A query names a table, what to show of its rows, which rows to keep, how to order them,
     how many to skip and how many to give back (`Query`). `Query.ofFilter` is the query that
     a filter and options stand for; it does not look at any text.
  3. The text of a statement is read by the grammar without bounds, its values stand for its
     parameters, and what it asks for is none when it is anything but such a query
     (`Statement.query?`).
-/

namespace TableKeeper

/-- A row as the values of its columns. -/
abbrev Tuple := String → Value

/-- What `=` and LIKE say of two values; of LIKE the second is the pattern. -/
structure Meaning where
  equal : Value → Value → Bool
  like : Value → Value → Bool

/-- The constraint holds of a field's value. -/
def Constraint.holds (m : Meaning) : Constraint → Value → Bool
  | .equals w, v => m.equal v w
  | .oneOf ws, v => ws.any (m.equal v)
  | .matches p, v => m.like v (.text p.body)

namespace Sql

/-! ## Lists by their binding -/

/-- The value that a literal is read as: NULL and a blob are what they are, everything else is
its text. -/
def literalValue : Value → Value
  | .null => .null
  | .blob bytes => .blob bytes
  | v => .text v.display

/-- The constraint as the database gets it. Written out, the items of a list are literals. -/
def handed (b : ListBinding) (c : Constraint) : Constraint :=
  match b with
  | .bound => c
  | .inline =>
    match c with
    | .oneOf vs => .oneOf (vs.map literalValue)
    | c => c

/-- The items that are handed over by the binding. -/
def listed : Constraint → List Value
  | .oneOf vs => vs
  | _ => []

/-- Only the items of a list are handed over by the binding. -/
theorem handed_same (b : ListBinding) {c : Constraint} (hc : ∀ vs, c ≠ .oneOf vs) : handed b c = c := by
  cases b with
  | bound => rfl
  | inline =>
    cases c with
    | oneOf vs => exact absurd rfl (hc vs)
    | equals v => rfl
    | «matches» p => rfl

/-- All but numbers are what their literals are read as. -/
theorem literalValue_same {v : Value} (h : v.number? = none) : literalValue v = v := by
  cases v with
  | null => rfl
  | blob bytes => rfl
  | text s => rfl
  | integer n => cases h
  | real x => cases h

/-- A list without numbers is the same list however it is handed over. -/
theorem handed_unnumbered (b : ListBinding) {c : Constraint} (h : ∀ v ∈ listed c, v.number? = none) :
    handed b c = c := by
  cases b with
  | bound => rfl
  | inline =>
    cases c with
    | oneOf vs =>
      have hsame : vs.map literalValue = vs := (List.map_congr_left fun v hv => literalValue_same (h v hv)).trans vs.map_id
      exact congrArg Constraint.oneOf hsame
    | equals v => rfl
    | «matches» p => rfl

/-- The entries of a filter hold of a row. -/
def accepts (m : Meaning) (b : ListBinding) (es : List (String × Constraint)) (row : Tuple) : Bool :=
  es.all fun e => (handed b e.2).holds m (row e.1)

theorem accepts_unnumbered (m : Meaning) (b : ListBinding) {es : List (String × Constraint)}
    (h : ∀ e ∈ es, ∀ v ∈ listed e.2, v.number? = none) : accepts m b es = accepts m .bound es := by
  funext row
  unfold accepts
  rw [Bool.eq_iff_iff, List.all_eq_true, List.all_eq_true]
  refine forall₂_congr fun e he => ?_
  rw [handed_unnumbered b (h e he), handed_unnumbered .bound (h e he)]

theorem accepts_byId (m : Meaning) (b : ListBinding) (key : Value) :
    accepts m b (Filter.byId key).entries = fun row => m.equal (row Record.idColumn) key := by
  have hentries : (Filter.byId key).entries = [(Record.idColumn, .equals key)] := rfl
  funext row
  rw [accepts, hentries, List.all_cons, List.all_nil, Bool.and_true, handed_same b (by simp)]
  rfl

/-! ## Queries -/

inductive Projection where
  | all
  | columns (names : List String)

structure Query where
  table : String
  projection : Projection
  keep : Tuple → Bool
  order : List (String × Direction)
  skip : Nat
  /-- Unset, there is no bound. -/
  bound : Option Nat

/-- What a filter and options ask of a table. -/
def Query.ofFilter (m : Meaning) (table : String) (f : Filter) (o : QueryOptions) : Query where
  table := table
  projection :=
    match o.fields with
    | none => .all
    | some ns => .columns ns
  keep row := f.entries.all fun e => e.2.holds m (row e.1)
  order := o.order.filterMap fun t =>
    if t.2 = 1 then some (t.1, .ascending) else if t.2 = -1 then some (t.1, .descending) else none
  skip :=
    match o.offset with
    | none => 0
    | some n => n.toNat
  bound :=
    match o.limit with
    | none => none
    | some n => if n = 0 then none else some n.toNat

/-- What they ask for once the binding has handed over the lists; bound, that is all the same. -/
def Query.handed (m : Meaning) (b : ListBinding) (table : String) (f : Filter) (o : QueryOptions) : Query :=
  { Query.ofFilter m table f o with keep := accepts m b f.entries }

/-! ## What an expression says of a row -/

/-- The name of a column that stands alone, in back-ticks or brackets. -/
def Expr.column? : Expr → Option String
  | .column ⟨none, none, name, .quoted, _⟩ => some name
  | _ => none

/-- The value that an expression has in a row. -/
def Expr.scalar? (params : List Value) : Expr → Option (Tuple → Value)
  | .literal v => some fun _ => v
  | .parameter i _ => params[i]?.map fun v _ => v
  | .column c => (Expr.column? (.column c)).map fun name row => row name
  | .signed .plus e => Expr.scalar? params e
  | _ => none

/-- Whether a condition is true of a row. -/
def Expr.holds? (m : Meaning) (params : List Value) : Expr → Option (Tuple → Bool)
  | .literal (.integer n) => some fun _ => n != 0
  | .constant b => some fun _ => b
  | .compare .eq a b => do
    let a ← a.scalar? params
    let b ← b.scalar? params
    return fun row => m.equal (a row) (b row)
  | .isIn a items => do
    let a ← a.scalar? params
    let items ← items.mapM (Expr.scalar? params)
    return fun row => items.any fun b => m.equal (a row) (b row)
  | .call name _ false [pattern, a] none => do
    if Grammar.upper name ≠ "LIKE" then none
    let a ← a.scalar? params
    let pattern ← pattern.scalar? params
    return fun row => m.like (a row) (pattern row)
  | .and a b => do
    let a ← Expr.holds? m params a
    let b ← Expr.holds? m params b
    return fun row => a row && b row
  | _ => none

/-- A condition that may be missing. -/
def condition? (m : Meaning) (params : List Value) : Option Expr → Option (Tuple → Bool)
  | none => some fun _ => true
  | some e => e.holds? m params

/-! ## What a query says -/

/-- An integer that is written out, with a minus or without. -/
def Expr.integer? : Expr → Option Int
  | .literal (.integer n) => some n.toInt
  | .signed .minus e => (Expr.integer? e).map (-·)
  | _ => none

/-- A negative number bounds nothing. -/
def bound? : Option Expr → Option (Option Nat)
  | none => some none
  | some e => e.integer?.map fun n => if n < 0 then none else some n.toNat

def skip? : Option Expr → Option Nat
  | none => some 0
  | some e => e.integer?.map Int.toNat

def ResultColumn.name? : ResultColumn → Option String
  | .expr e none _ => e.column?
  | _ => none

def projection? : List ResultColumn → Option Projection
  | [.all] => some .all
  | columns => (columns.mapM ResultColumn.name?).map .columns

def OrderTerm.term? (t : OrderTerm) : Option (String × Direction) :=
  match t.nullsLast with
  | none => t.expr.column?.map fun name => (name, if t.descending then .descending else .ascending)
  | some _ => none

/-- The table that a source is, without a label and without a join. -/
def Source.table? : Source → Option String
  | ⟨.table ⟨none, name⟩, none, ⟨false, false, false⟩, none, none, none⟩ => some name
  | _ => none

def Select.query? (m : Meaning) (params : List Value) : Select → Option Query
  | ⟨[], .select ⟨false, columns, [source], condition, [], none⟩, [], order, limit, offset⟩ => do
    return { table := ← source.table?, projection := ← projection? columns, keep := ← condition? m params condition,
             order := ← order.mapM OrderTerm.term?, skip := ← skip? offset, bound := ← bound? limit }
  | _ => none

/-- The one statement that a text is, if its values are as many as its parameters. -/
def Statement.parsed? (s : Statement) : Option Parsed :=
  match readStatement (lexemes s.sql.toList) {} with
  | .ok (some r) => if isOver r.rest && r.parameters == s.params.length then some r.parsed else none
  | _ => none

/-- What a statement asks for. -/
def Statement.query? (m : Meaning) (s : Statement) : Option Query :=
  match s.parsed? with
  | some (.select q) => q.query? m s.params
  | _ => none

/-! ## Conditions -/

variable {m : Meaning} {params : List Value}

/-- What is false as it is written is true of no row. -/
theorem holds?_of_isFalse {e : Expr} {keep : Tuple → Bool} (h : e.holds? m params = some keep)
    (hf : e.isFalse = true) :
    keep = fun _ => false := by
  unfold Expr.isFalse at hf
  split at hf
  · simp only [Expr.holds?, Option.some.injEq] at h
    rw [← h, eq_of_beq hf]
    rfl
  · simp only [Expr.holds?, Option.some.injEq] at h
    simp only [Bool.not_eq_true'] at hf
    rw [← h, hf]
  · cases hf

/-- A conjunction holds where both sides do, also where it has been folded. -/
theorem holds?_conjoin {a b : Expr} {keepA keepB : Tuple → Bool} (ha : a.holds? m params = some keepA)
    (hb : b.holds? m params = some keepB) :
      (Expr.conjoin a b).holds? m params = some fun row => keepA row && keepB row := by
  unfold Expr.conjoin
  split
  · rename_i hfold
    simp only [Bool.and_eq_true, Bool.or_eq_true] at hfold
    rcases hfold.1.1 with hf | hf
    · rw [holds?_of_isFalse ha hf]
      rfl
    · rw [holds?_of_isFalse hb hf]
      simp [Expr.holds?]
  · simp [Expr.holds?, ha, hb]

/-- Membership in a list holds where the value equals an item, also of a list with no item or one. -/
theorem holds?_among {a : Expr} {items : List Expr} {value : Tuple → Value} {vs : List Value}
    (ha : a.scalar? params = some value) (hconstant : ∀ e ∈ items, e.isConstant = true)
    (hitems : items.mapM (Expr.scalar? params) = some (vs.map fun v _ => v)) :
    (Expr.among a items).holds? m params = some fun row => vs.any (m.equal (value row)) := by
  match items with
  | [] =>
    cases vs with
    | nil => rfl
    | cons v vs => simp at hitems
  | [e] =>
    have he : e.isConstant = true := hconstant e (List.mem_singleton_self e)
    cases hscalar : e.scalar? params with
    | none => simp [hscalar] at hitems
    | some item =>
      simp only [List.mapM_cons, List.mapM_nil, hscalar, Option.pure_def, Option.bind_eq_bind, Option.bind_some,
        Option.some.injEq] at hitems
      obtain ⟨v, vs, rfl⟩ := List.exists_cons_of_ne_nil (l := vs) (by rintro rfl; simp at hitems)
      simp only [List.map_cons, List.cons.injEq, List.nil_eq, List.map_eq_nil_iff] at hitems
      obtain ⟨rfl, rfl⟩ := hitems
      simp [Expr.among, he, Expr.holds?, ha, Expr.scalar?, hscalar]
  | e :: e' :: rest =>
    simp only [Expr.among, Expr.holds?, ha, hitems]
    simp [Function.comp_def]

end Sql
end TableKeeper
