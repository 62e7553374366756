import TableKeeper.Engine.Query
import TableKeeper.Proofs.Engine.Literals
import TableKeeper.Proofs.Sql.Queries

/-!
  TableKeeper.Proofs.Engine.Substitutes — conditions that may stand for one another.

  1. Two runs that each end in a fault are not told apart, since a fault may quote the text of
     its statement. Where both succeed, their results go together (`Both`).
  2. An item of a list is a parameter or a literal. It has its value on every row and brings
     nothing of its own to a comparison (`HasValue`), so all that counts is what the column
     beside it makes of that value (`Alike`).
  3. Conditions that may stand for one another hold of the same rows, and rows are looked for
     in the same way (`SameCondition`). Those of a filter under two bindings do, if the items
     of its lists are alike (`both_condition`).
-/

namespace TableKeeper.Engine

open Sql Sql.Grammar

/-! ## Two runs side by side -/

/-- Both runs succeed, with results that go together, or neither does. -/
def Both {α β : Type} (r : α → β → Prop) : Except Fault α → Except Fault β → Prop
  | .ok a, .ok b => r a b
  | .error _, .error _ => True
  | _, _ => False

namespace Both

variable {α β γ δ : Type} {r : α → β → Prop} {q : γ → δ → Prop} {x : Except Fault α} {y : Except Fault β}

theorem bind {f : α → Except Fault γ} {g : β → Except Fault δ} (h : Both r x y)
    (hf : ∀ a b, r a b → Both q (f a) (g b)) : Both q (x >>= f) (y >>= g) := by
  cases x with
  | error e =>
    cases y with
    | error e' => trivial
    | ok b => exact h.elim
  | ok a =>
    cases y with
    | error e' => exact h.elim
    | ok b => exact hf a b h

theorem left {a : α} (h : Both r (.ok a) y) : ∃ b, y = .ok b ∧ r a b := by
  cases y with
  | error e => exact h.elim
  | ok b => exact ⟨b, rfl, h⟩

theorem right {b : β} (h : Both r x (.ok b)) : ∃ a, x = .ok a ∧ r a b := by
  cases x with
  | error e => exact h.elim
  | ok a => exact ⟨a, rfl, h⟩

theorem weaken {r' : α → β → Prop} (h : Both r x y) (hr : ∀ a b, r a b → r' a b) : Both r' x y := by
  cases x with
  | error e =>
    cases y with
    | error e' => trivial
    | ok b => exact h.elim
  | ok a =>
    cases y with
    | error e' => exact h.elim
    | ok b => exact hr a b h

theorem mapM {ι κ : Type} {p : ι → κ → Prop} {f : ι → Except Fault α} {g : κ → Except Fault β} {xs : List ι}
    {ys : List κ} (h : List.Forall₂ p xs ys) (hf : ∀ x y, p x y → Both r (f x) (g y)) :
    Both (List.Forall₂ r) (xs.mapM f) (ys.mapM g) := by
  induction h with
  | nil => exact .nil
  | cons hxy _ ih =>
    rw [List.mapM_cons, List.mapM_cons]
    exact (hf _ _ hxy).bind fun a b hab => ih.bind fun as bs has => .cons hab has

end Both

/-! ## Names of one table -/

variable {t : Table} {s : Scope}

/-- Names are those of one table. -/
structure IsLone (t : Table) (s : Scope) : Prop where
  sources : s.sources = [{ table := t }]
  upserting : s.upserting = false
  labels : ∀ l ∈ s.labels, ∃ c ∈ t.columns, l.1 = c.name
  outer : s.outer = []
  confinement : s.confinement = none

/-- What a name stands for in a table. -/
def Table.placeOf? (t : Table) (name : String) : Option Term :=
  match t.columnIndex? name with
  | some i => some (Known.columnTerm { table := t } 0 i)
  | none => if Table.isRowidName name && t.hasRowid then some (.rowid 0) else none

/-- A name in back-ticks is a column or the rowid, or nothing. -/
theorem column_lone (hs : IsLone t s) (name : String) (offset : Nat) :
    s.column { name, offset } =
      match t.placeOf? name with
      | some a => .ok a
      | none => .error (.noSuchColumn (written { name, offset }) (some offset)) := by
  have hmeant : s.meant { name, offset } = [({ table := t }, 0)] := by
    simp [Level.meant, hs.sources, Known.isMeant]
  have hcolumns : s.columns { name, offset } = ((t.columnIndex? name).map (Known.columnTerm { table := t } 0)).toList := by
    rw [Level.columns, hmeant]
    simp only [List.foldl_cons, List.foldl_nil, Known.term?]
    cases t.columnIndex? name <;> rfl
  have hrowids : s.rowids = true := by simp [Scope.rowids, hs.confinement]
  have hexcluded : s.excluded? { name, offset } = none := by
    simp [Level.excluded?, hs.upserting]
  unfold Scope.column Level.column? Level.candidates Table.placeOf?
  rw [hcolumns, hrowids, hexcluded, hmeant, hs.outer]
  cases hi : t.columnIndex? name with
  | some i => rfl
  | none =>
    have hlabel : s.labelled? { name, offset } = none := by
      simp only [Level.labelled?, Option.isNone_none, if_true, List.find?_eq_none]
      intro l hl
      obtain ⟨c, hc, hname⟩ := hs.labels l hl
      rw [hname]
      simpa using List.findIdx?_eq_none_iff.mp hi c hc
    cases hrowid : Table.isRowidName name with
    | false =>
      simp only [hlabel, Option.map_none, Option.toList_none, Bool.true_and, Bool.false_and, Bool.false_eq_true, if_false]
      rfl
    | true =>
      cases ht : t.hasRowid with
      | false =>
        simp [hlabel, ht]
        rfl
      | true =>
        simp [hlabel, ht]
        rfl

/-! ## Columns and values -/

/-- The term is a column of the one table there is, or its rowid. -/
inductive IsPlace : Term → Prop
  | rowid : IsPlace (.rowid 0)
  | column (i : Nat) (a : Affinity) (c : Collation) : IsPlace (.column 0 i a c)

theorem isPlace_of_placeOf? {name : String} {a : Term} (h : t.placeOf? name = some a) : IsPlace a := by
  unfold Table.placeOf? at h
  split at h
  · obtain rfl := Option.some.inj h
    unfold Known.columnTerm
    split
    · exact .rowid
    · exact .column ..
  · split at h
    · exact Option.some.inj h ▸ .rowid
    · cases h

variable {p p' : Array Value} {a x x' : Term} {w w' : Value}

/-- A column has its value whatever the parameters are. -/
theorem IsPlace.value (h : IsPlace a) (f : Frame) :
    ∃ v, ∀ p, evaluate { f with params := p } a = .ok v := by
  cases h with
  | rowid => exact ⟨(f.row? 0).elim .null fun r => .integer r.rowid, fun _ => by rw [evaluate]; rfl⟩
  | column i a c => exact ⟨(f.row? 0).elim .null (·.cell i), fun _ => by rw [evaluate]; rfl⟩

/-- What the column converts the other side of a comparison to. -/
def conversion (a : Term) : Affinity := a.affinity?.getD .blob

/-- The term has the value on every row, and brings nothing to a comparison. -/
structure IsGiven (p : Array Value) (w : Value) (x : Term) : Prop where
  value : ∀ f : Frame, evaluate { f with params := p } x = .ok w
  constant : x.isConstant = true
  affinity : x.affinity? = none
  named : x.named? = none
  brought : x.brought? = none
  aggregates : x.aggregates = []
  read : x.columnsRead = []

theorem isGiven_parameter {i : Nat} {v : Value} (h : p[i]? = some v) : IsGiven p (bindValue v) (.parameter i) where
  value f := by simp [evaluate, h]
  constant := rfl
  affinity := rfl
  named := rfl
  brought := rfl
  aggregates := rfl
  read := rfl

theorem isGiven_literal (v : Value) : IsGiven p v (.literal v) where
  value f := by rw [evaluate]
  constant := rfl
  affinity := rfl
  named := rfl
  brought := rfl
  aggregates := rfl
  read := rfl

theorem IsGiven.plus (h : IsGiven p w x) : IsGiven p w (.signed .plus x) where
  value f := by
    rw [evaluate, h.value]
    rfl
  constant := h.constant
  affinity := rfl
  named := h.named
  brought := h.brought
  aggregates := h.aggregates
  read := h.read

/-! ## Conditions that hold of the same rows -/

/-- The row meets the condition. -/
def meets (f : Frame) (t : Term) : Except Fault Bool := (evaluate f t).map fun v => truth? v == some true

theorem truth?_truthOf (b : Bool) : truth? (truthOf b) = some b := by cases b <;> rfl

theorem truth?_compareBy (c : Collation) (v w : Value) : (truth? (compareBy .eq c v w) == some true) = sameValue c v w := by
  unfold compareBy sameValue
  cases hv : v.isNull with
  | true => rfl
  | false =>
    cases hw : w.isNull with
    | true => rfl
    | false =>
      show (truth? (truthOf (compareValues c v w == .eq)) == some true) = _
      rw [truth?_truthOf]
      simp

theorem truth?_member (c : Collation) (v : Value) (items : List Value) :
    (truth? (member c v items) == some true) = items.any (sameValue c v) := by
  unfold member
  cases items with
  | nil => rfl
  | cons w ws =>
    rw [if_neg (by simp)]
    cases hv : v.isNull with
    | true =>
      simp only [if_true]
      symm
      refine List.any_eq_false.mpr fun u _ => ?_
      simp [sameValue, hv]
    | false =>
      cases hany : (w :: ws).any (sameValue c v) with
      | true => rfl
      | false =>
        simp only [Bool.false_eq_true, if_false]
        split <;> rfl

theorem commonCollation_given (hx : IsGiven p w x) (ha : IsPlace a) : Term.commonCollation a x = a.collation := by
  cases ha <;> simp [Term.commonCollation, Term.collation, Term.collation?, hx.named, hx.brought]

theorem meets_compare (ha : IsPlace a) (hx : IsGiven p w x) {f : Frame} {v : Value}
    (hv : evaluate { f with params := p } a = .ok v) :
    meets { f with params := p } (.compare .eq a x) = .ok (sameValue a.collation v ((conversion a).compared w)) := by
  have halike : alike a.affinity? x.affinity? v w = (v, (conversion a).compared w) := by
    unfold conversion
    rw [hx.affinity]
    cases a.affinity? <;> rfl
  rw [meets, evaluate, hv, hx.value]
  show Except.ok (truth? (compareBy .eq (Term.commonCollation a x) (alike a.affinity? x.affinity? v w).1
    (alike a.affinity? x.affinity? v w).2) == some true) = _
  rw [halike, commonCollation_given hx ha, truth?_compareBy]

theorem evaluateList_given {ws : List Value} {xs : List Term} (h : List.Forall₂ (IsGiven p) ws xs) (f : Frame) :
    evaluateList { f with params := p } xs = .ok ws := by
  induction h with
  | nil => rw [evaluateList]
  | cons hx _ ih =>
    rw [evaluateList, hx.value, ih]
    rfl

theorem meets_isIn {ws : List Value} {xs : List Term} (h : List.Forall₂ (IsGiven p) ws xs) {f : Frame} {v : Value}
    (hv : evaluate { f with params := p } a = .ok v) :
    meets { f with params := p } (.isIn a xs) =
      .ok ((ws.map (conversion a).compared).any (sameValue a.collation v)) := by
  rw [meets, evaluate, hv, evaluateList_given h]
  show Except.ok (truth? (member a.collation v (ws.map fun w => (conversion a).compared w)) == some true) = _
  rw [truth?_member]

theorem areConstant_given {ws : List Value} {xs : List Term} (h : List.Forall₂ (IsGiven p) ws xs) :
    Term.areConstant xs = true := by
  induction h with
  | nil => rfl
  | cons hx _ ih => rw [Term.areConstant, hx.constant, ih, Bool.true_and]

theorem aggregatesAmong_given {ws : List Value} {xs : List Term} (h : List.Forall₂ (IsGiven p) ws xs) :
    Term.aggregatesAmong xs = [] := by
  induction h with
  | nil => rfl
  | cons hx _ ih => rw [Term.aggregatesAmong, hx.aggregates, ih, List.append_nil]

theorem columnsReadAmong_given {ws : List Value} {xs : List Term} (h : List.Forall₂ (IsGiven p) ws xs) :
    Term.columnsReadAmong xs = [] := by
  induction h with
  | nil => rfl
  | cons hx _ ih => rw [Term.columnsReadAmong, hx.read, ih, List.append_nil]

/-! ## Terms that stand for one another -/

/-- Each condition, with its parameters, may stand for the other: whether a row is met, and how it is looked for. -/
structure SameCondition (p p' : Array Value) (a a' : Term) : Prop where
  constant : a.isConstant = a'.isConstant
  bound : Plan.boundOf? a = Plan.boundOf? a'
  index : ∀ tables, Reading.usesIndex tables a = Reading.usesIndex tables a'
  meets : ∀ f : Frame, meets { f with params := p } a = meets { f with params := p' } a'

structure SameTerm (p p' : Array Value) (a a' : Term) : Prop where
  aggregates : a.aggregates = [] ∧ a'.aggregates = []
  read : a.columnsRead = a'.columnsRead
  conjuncts : List.Forall₂ (SameCondition p p') a.conjuncts a'.conjuncts

theorem SameTerm.and {b b' : Term} (ha : SameTerm p p' a a') (hb : SameTerm p p' b b') :
    SameTerm p p' (.and a b) (.and a' b') where
  aggregates := by simp [Term.aggregates, ha.aggregates, hb.aggregates]
  read := by rw [Term.columnsRead, Term.columnsRead, ha.read, hb.read]
  conjuncts := by
    rw [Term.conjuncts, Term.conjuncts]
    exact List.rel_append ha.conjuncts hb.conjuncts

theorem IsPlace.not_constant (h : IsPlace a) : a.isConstant = false := by cases h <;> rfl

theorem IsPlace.aggregates (h : IsPlace a) : a.aggregates = [] := by cases h <;> rfl

theorem sameTerm_literal (v : Value) : SameTerm p p' (.literal v) (.literal v) where
  aggregates := ⟨rfl, rfl⟩
  read := rfl
  conjuncts := .cons ⟨rfl, rfl, fun _ => rfl, fun f => by simp only [meets, evaluate]⟩ .nil

theorem sameTerm_compare (ha : IsPlace a) (hx : IsGiven p w x) (hx' : IsGiven p' w' x')
    (hsame : ∀ v, sameValue a.collation v ((conversion a).compared w) = sameValue a.collation v ((conversion a).compared w')) :
    SameTerm p p' (.compare .eq a x) (.compare .eq a x') where
  aggregates := by simp [Term.aggregates, ha.aggregates, hx.aggregates, hx'.aggregates]
  read := by simp [Term.columnsRead, hx.read, hx'.read]
  conjuncts := by
    refine .cons ⟨?_, ?_, fun _ => rfl, fun f => ?_⟩ .nil
    · simp [Term.isConstant, ha.not_constant]
    · simp [Plan.boundOf?, commonCollation_given hx ha, commonCollation_given hx' ha, hx.constant, hx'.constant]
    · obtain ⟨v, hv⟩ := ha.value f
      rw [meets_compare ha hx (hv p), meets_compare ha hx' (hv p'), hsame]

theorem sameTerm_isIn (ha : IsPlace a) {ws ws' : List Value} {xs xs' : List Term} (hx : List.Forall₂ (IsGiven p) ws xs)
    (hx' : List.Forall₂ (IsGiven p') ws' xs')
    (hsame : List.Forall₂ (fun w w' => ∀ v, sameValue a.collation v ((conversion a).compared w) =
      sameValue a.collation v ((conversion a).compared w')) ws ws') :
    SameTerm p p' (.isIn a xs) (.isIn a xs') where
  aggregates := by simp [Term.aggregates, ha.aggregates, aggregatesAmong_given hx, aggregatesAmong_given hx']
  read := by simp [Term.columnsRead, columnsReadAmong_given hx, columnsReadAmong_given hx']
  conjuncts := by
    have hlength : xs.length = xs'.length := by rw [← hx.length_eq, ← hx'.length_eq, hsame.length_eq]
    refine .cons ⟨?_, ?_, fun _ => rfl, fun f => ?_⟩ .nil
    · simp [Term.isConstant, ha.not_constant]
    · simp [Plan.boundOf?, areConstant_given hx, areConstant_given hx', hlength]
    · obtain ⟨v, hv⟩ := ha.value f
      rw [meets_isIn hx (hv p), meets_isIn hx' (hv p')]
      congr 1
      clear hlength hx hx'
      induction hsame with
      | nil => rfl
      | cons hw _ ih => rw [List.map_cons, List.map_cons, List.any_cons, List.any_cons, hw, ih]

theorem sameTerm_like (ha : IsPlace a) (hx : IsGiven p w x) (hx' : IsGiven p' w x') :
    SameTerm p p' (.call .like [x, a]) (.call .like [x', a]) where
  aggregates := by simp [Term.aggregates, Term.aggregatesAmong, ha.aggregates, hx.aggregates, hx'.aggregates]
  read := by simp [Term.columnsRead, Term.columnsReadAmong, hx.read, hx'.read]
  conjuncts := by
    refine .cons ⟨?_, rfl, fun _ => rfl, fun f => ?_⟩ .nil
    · simp [Term.isConstant, Term.areConstant, ha.not_constant]
    · obtain ⟨v, hv⟩ := ha.value f
      have hcollation : Term.collationOf [x, a] = Term.collationOf [x', a] := by
        simp [Term.collationOf, Term.collation?, hx.named, hx.brought, hx'.named, hx'.brought]
      simp only [meets, evaluate, evaluateList, hx.value, hx'.value, hv, hcollation]

/-! ## Expressions that stand for one another -/

/-- Each expression, with its parameters, may stand for the other where names are those of the table. -/
def SameExpr (t : Table) (p p' : Array Value) (e e' : Expr) : Prop :=
  ∀ s, IsLone t s → Both (SameTerm p p') (resolve s e) (resolve s e')

theorem sameExpr_false : SameExpr t p p' (.constant false) (.constant false) := fun s _ => by
  rw [resolve]
  exact sameTerm_literal _

theorem SameExpr.conjoin {a a' b b' : Expr} (ha : SameExpr t p p' a a') (hb : SameExpr t p p' b b')
    (hsa : SameShape a a') (hsb : SameShape b b') : SameExpr t p p' (.conjoin a b) (.conjoin a' b') := by
  intro s hs
  unfold Expr.conjoin
  rw [hsa.isFalse, hsa.calls, hsb.isFalse, hsb.calls]
  split
  · rw [resolve]
    exact sameTerm_literal _
  · rw [resolve, resolve]
    exact (ha s hs).bind fun x x' hx => (hb s hs).bind fun y y' hy => hx.and hy

/-! ### Values as they arrive -/

/-- A value of a list as a comparison sees it. -/
def arriving : ListBinding → Value → Value
  | .bound, v => bindValue v
  | .inline, v => literalValue v

/-- The expression has the value on every row of the table. -/
structure HasValue (t : Table) (p : Array Value) (w : Value) (e : Expr) : Prop where
  row : ∀ es, e ≠ .row es
  query : ∀ q, e ≠ .query q
  constant : e.isConstant = true
  resolves : ∀ s, IsLone t s → ∃ x, resolve s e = .ok x ∧ IsGiven p w x

variable {params params' : List Value} {k k' : Nat} {b b' : ListBinding} {v : Value} {e e' : Expr}

theorem hasValue_parameter (h : IsParameter k e) (hv : params[k]? = some v) :
    HasValue t params.toArray (bindValue v) e := by
  obtain ⟨offset, rfl⟩ := h
  refine ⟨nofun, nofun, rfl, fun s hs => ⟨.parameter k, ?_, isGiven_parameter (by simpa using hv)⟩⟩
  rw [resolve, Scope.allows, hs.confinement]
  rfl

theorem hasValue_item (h : IsItem b k v e) (hv : b = .bound → params[k]? = some v) :
    HasValue t params.toArray (arriving b v) e := by
  cases b with
  | bound => exact hasValue_parameter h (hv rfl)
  | inline =>
    obtain rfl : e = .literal (literalValue v) := h
    exact ⟨nofun, nofun, rfl, fun s _ => ⟨_, by rw [resolve]; rfl, isGiven_literal _⟩⟩

theorem hasValue_items {field : String} {vs : List Value} {es : List Expr}
    (h : Listed (itemParameters b) (IsItem b) k vs es) (hv : SentFrom params k (parametersOf b (field, .oneOf vs))) :
    List.Forall₂ (HasValue t params.toArray) (vs.map (arriving b)) es := by
  induction h with
  | nil => exact .nil
  | cons he _ ih =>
    cases b with
    | bound =>
      obtain ⟨hhead, htail⟩ := SentFrom.head hv
      exact .cons (hasValue_item he fun _ => hhead) (ih htail)
    | inline => exact .cons (hasValue_item he nofun) (ih hv)

theorem HasValue.plus (h : HasValue t p w e) : HasValue t p w (.signed .plus e) where
  row := nofun
  query := nofun
  constant := h.constant
  resolves s hs := by
    obtain ⟨x, hx, hgiven⟩ := h.resolves s hs
    exact ⟨.signed .plus x, by rw [resolve, hx]; rfl, hgiven.plus⟩

theorem resolveList_values (hs : IsLone t s) {ws : List Value} {es : List Expr} (h : List.Forall₂ (HasValue t p) ws es) :
    ∃ xs, resolveList s es = .ok xs ∧ List.Forall₂ (IsGiven p) ws xs := by
  induction h with
  | nil => exact ⟨[], by rw [resolveList], .nil⟩
  | cons he _ ih =>
    obtain ⟨x, hx, hgiven⟩ := he.resolves s hs
    obtain ⟨xs, hxs, hmore⟩ := ih
    exact ⟨x :: xs, by rw [resolveList, hx, hxs]; rfl, .cons hgiven hmore⟩

/-! ### Conditions of filters -/

/-- What a column converts the other side of a comparison to; none is no column. -/
def Table.affinity? (t : Table) (name : String) : Option Affinity := (t.placeOf? name).map conversion

/-- Beside the column of a name, the values are equal to the same. -/
def Alike (t : Table) (name : String) (w w' : Value) : Prop :=
  ∀ a ∈ t.affinity? name, ∀ c v, sameValue c v (a.compared w) = sameValue c v (a.compared w')

/-- A column beside one value. -/
theorem resolve_equals (column : ColumnName) (he : HasValue t p w e) :
    resolve s (.compare .eq (.column column) e) =
      s.column column >>= fun a => resolve s e >>= fun x => .ok (.compare .eq a x) := by
  have hrow := he.row
  have hquery := he.query
  rw [resolve]
  · simp only [resolve]
    cases s.column column with
    | error fault => rfl
    | ok a =>
      cases resolve s e with
      | error fault => rfl
      | ok x => rfl
  · exact nofun
  · exact nofun

theorem both_column (hs : IsLone t s) {field : String} (he : IsColumn field e) (he' : IsColumn field e') :
    Both (fun a a' => a' = a ∧ t.placeOf? field = some a) (resolve s e) (resolve s e') := by
  obtain ⟨offset, rfl⟩ := he
  obtain ⟨offset', rfl⟩ := he'
  rw [resolve, resolve, column_lone hs, column_lone hs]
  cases t.placeOf? field with
  | some a => exact ⟨rfl, rfl⟩
  | none => trivial

variable {field : String} {a a' : Expr}

theorem sameExpr_equals (ha : IsColumn field a) (ha' : IsColumn field a') (he : HasValue t p w e)
    (he' : HasValue t p' w' e') (hw : Alike t field w w') :
    SameExpr t p p' (.compare .eq a e) (.compare .eq a' e') := by
  intro s hs
  have hcolumn := both_column hs ha ha'
  obtain ⟨offset, rfl⟩ := ha
  obtain ⟨offset', rfl⟩ := ha'
  obtain ⟨x, hx, hgiven⟩ := he.resolves s hs
  obtain ⟨x', hx', hgiven'⟩ := he'.resolves s hs
  rw [resolve_equals _ he, resolve_equals _ he', hx, hx']
  rw [resolve, resolve] at hcolumn
  refine hcolumn.bind fun a a' ha => ?_
  obtain ⟨rfl, hplace⟩ := ha
  exact sameTerm_compare (isPlace_of_placeOf? hplace) hgiven hgiven' (hw _ (by simp [Table.affinity?, hplace]) _)

theorem sameExpr_isIn (ha : IsColumn field a) (ha' : IsColumn field a') {ws ws' : List Value} {es es' : List Expr}
    (he : List.Forall₂ (HasValue t p) ws es) (he' : List.Forall₂ (HasValue t p') ws' es')
    (hw : List.Forall₂ (Alike t field) ws ws') :
    SameExpr t p p' (.isIn a es) (.isIn a' es') := by
  intro s hs
  obtain ⟨xs, hxs, hgiven⟩ := resolveList_values hs he
  obtain ⟨xs', hxs', hgiven'⟩ := resolveList_values hs he'
  rw [resolve, resolve, hxs, hxs']
  refine (both_column hs ha ha').bind fun a a' ha => ?_
  obtain ⟨rfl, hplace⟩ := ha
  refine sameTerm_isIn (isPlace_of_placeOf? hplace) hgiven hgiven' (hw.imp fun w w' h => ?_)
  exact h _ (by simp [Table.affinity?, hplace]) _

/-- LIKE with its pattern in front. -/
theorem resolve_like (offset : Nat) (e a : Expr) :
    resolve s (.call "LIKE" offset false [e, a] none) =
      resolve s e >>= fun x => resolve s a >>= fun y => .ok (.call .like [x, y]) := by
  have hcallee : callee "LIKE" offset 2 = .ok (.value .like) := rfl
  -- No aggregate is called, so the names inside mean what they mean outside.
  have hinside : { s with aggregating := s.aggregating && !(Callee.value .like).isAggregate } = s := by
    simp [Callee.isAggregate]
  rw [resolve]
  show callee "LIKE" offset 2 >>= _ = _
  rw [hcallee]
  show resolveList { s with aggregating := s.aggregating && !(Callee.value .like).isAggregate } [e, a] >>= _ = _
  rw [hinside, resolveList, resolveList, resolveList]
  cases resolve s e with
  | error fault => rfl
  | ok x =>
    cases resolve s a with
    | error fault => rfl
    | ok y =>
      rw [resolve?]
      rfl

theorem sameExpr_like (ha : IsColumn field a) (ha' : IsColumn field a') (he : HasValue t p w e)
    (he' : HasValue t p' w e') (offset offset' : Nat) :
    SameExpr t p p' (.call "LIKE" offset false [e, a] none) (.call "LIKE" offset' false [e', a'] none) := by
  intro s hs
  obtain ⟨x, hx, hgiven⟩ := he.resolves s hs
  obtain ⟨x', hx', hgiven'⟩ := he'.resolves s hs
  rw [resolve_like, resolve_like, hx, hx']
  refine (both_column hs ha ha').bind fun a a' ha => ?_
  obtain ⟨rfl, hplace⟩ := ha
  exact sameTerm_like (isPlace_of_placeOf? hplace) hgiven hgiven'

/-- A list of one item is an equality, and one of none is false. -/
theorem sameExpr_among (ha : IsColumn field a) (ha' : IsColumn field a') {ws ws' : List Value} {es es' : List Expr}
    (he : List.Forall₂ (HasValue t p) ws es) (he' : List.Forall₂ (HasValue t p') ws' es')
    (hw : List.Forall₂ (Alike t field) ws ws') : SameExpr t p p' (.among a es) (.among a' es') := by
  match ws, ws', es, es', he, he', hw with
  | [], [], [], [], _, _, _ => exact sameExpr_false
  | [w], [w'], [e], [e'], he, he', hw =>
    have hone := (List.forall₂_cons.mp he).1
    have hone' := (List.forall₂_cons.mp he').1
    rw [Expr.among, Expr.among, if_pos hone.constant, if_pos hone'.constant]
    exact sameExpr_equals ha ha' hone.plus hone'.plus (List.forall₂_cons.mp hw).1
  | _ :: _ :: _, _ :: _ :: _, _ :: _ :: _, _ :: _ :: _, he, he', hw => exact sameExpr_isIn ha ha' he he' hw

/-- The predicate of an entry, handed over in two ways. -/
theorem sameExpr_predicate {entry : String × Constraint} {c c' : Expr} (h : IsPredicate b k entry c)
    (h' : IsPredicate b' k' entry c') (hv : SentFrom params k (parametersOf b entry))
    (hv' : SentFrom params' k' (parametersOf b' entry))
    (hw : ∀ v ∈ listed entry.2, Alike t entry.1 (arriving b v) (arriving b' v)) :
    SameExpr t params.toArray params'.toArray c c' := by
  cases h with
  | equals ha hp =>
    cases h' with
    | equals ha' hp' =>
      exact sameExpr_equals ha ha' (hasValue_parameter hp hv.head.1) (hasValue_parameter hp' hv'.head.1)
        fun _ _ _ _ => rfl
  | «matches» ha hp =>
    cases h' with
    | «matches» ha' hp' =>
      exact sameExpr_like ha ha' (hasValue_parameter hp hv.head.1) (hasValue_parameter hp' hv'.head.1) _ _
  | oneOf ha hitems =>
    cases h' with
    | oneOf ha' hitems' =>
      refine sameExpr_among ha ha' (hasValue_items hitems hv) (hasValue_items hitems' hv') ?_
      exact List.forall₂_map_left_iff.mpr (List.forall₂_map_right_iff.mpr (List.forall₂_same.mpr hw))

/-- Beside their columns, the two bindings hand over values that are equal to the same. -/
def HandedAlike (t : Table) (b b' : ListBinding) (es : List (String × Constraint)) : Prop :=
  ∀ e ∈ es, ∀ v ∈ listed e.2, Alike t e.1 (arriving b v) (arriving b' v)

theorem sameExpr_joined {es : List (String × Constraint)} {a a' c c' : Expr} (h : Joined b k es a c)
    (h' : Joined b' k' es a' c') (hs : SameShape a a') (ha : SameExpr t params.toArray params'.toArray a a')
    (hv : SentFrom params k (valuesFor b es)) (hv' : SentFrom params' k' (valuesFor b' es))
    (hw : HandedAlike t b b' es) : SameExpr t params.toArray params'.toArray c c' := by
  induction h generalizing a' k' with
  | nil =>
    cases h'
    exact ha
  | @cons k e es a p c hp _ ih =>
    cases h' with
    | cons hp' hjoined' =>
      obtain ⟨hfirst, hrest⟩ := SentFrom.append (parametersOf b e) (valuesFor b es) (by simpa using hv)
      obtain ⟨hfirst', hrest'⟩ := SentFrom.append (parametersOf b' e) (valuesFor b' es) (by simpa using hv')
      have hpredicate := sameExpr_predicate hp hp' hfirst hfirst' (hw e List.mem_cons_self)
      exact ih hjoined' (hs.conjoin (hp.shape hp')) (ha.conjoin hpredicate hs (hp.shape hp')) hrest hrest'
        fun e' he' => hw e' (List.mem_cons_of_mem _ he')

/-- The conditions of a filter under two bindings may stand for one another. -/
theorem both_condition {es : List (String × Constraint)} {c c' : Option Expr} (h : IsCondition b k es c)
    (h' : IsCondition b' k' es c') (hv : SentFrom params k (valuesFor b es))
    (hv' : SentFrom params' k' (valuesFor b' es)) (hw : HandedAlike t b b' es) (hs : IsLone t s) :
    Both (fun x x' => Option.Rel (SameTerm params.toArray params'.toArray) x x') (resolve? s c) (resolve? s c') := by
  cases es with
  | nil =>
    obtain rfl : c = none := h
    obtain rfl : c' = none := h'
    rw [resolve?]
    exact .none
  | cons e es =>
    obtain ⟨p, a, hp, hjoined, rfl⟩ := h
    obtain ⟨p', a', hp', hjoined', rfl⟩ := h'
    obtain ⟨hfirst, hrest⟩ := SentFrom.append (parametersOf b e) (valuesFor b es) (by simpa using hv)
    obtain ⟨hfirst', hrest'⟩ := SentFrom.append (parametersOf b' e) (valuesFor b' es) (by simpa using hv')
    have hpredicate := sameExpr_predicate hp hp' hfirst hfirst' (hw e List.mem_cons_self)
    have hsame := sameExpr_joined hjoined hjoined' (hp.shape hp') hpredicate hrest hrest'
      fun e' he' => hw e' (List.mem_cons_of_mem _ he')
    rw [resolve?, resolve?]
    exact (hsame s hs).bind fun x x' hx => .some hx

end TableKeeper.Engine
