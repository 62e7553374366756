import TableKeeper.Proofs.Sql.Expressions
import TableKeeper.Proofs.Sql.Meaning
import TableKeeper.Proofs.Sql.Spelling

/-!
  TableKeeper.Proofs.Sql.Conditions — the condition of a filter as it is read.

  1. The tokens of a filter are read as one condition, with a parameter for each value that is
     sent, and with the values in their places it is true of the rows that the filter accepts.
  2. The items of a list are parameters or literals, as the binding says; one rule reads
     either (`takes_item`).
  3. The predicates are joined to the left. What has been read holds of a row where the
     entries so far do, and that is what each AND keeps (`takes_conjuncts`).
  4. How deep a condition is depends on its entries and not on how their values are handed
     over (`IsCondition.height`). A condition within the bounds of the reader is read
     (`Fits`, `takes_where`), and one that is too deep is refused (`breaks_where`).
-/

namespace TableKeeper.Sql.Grammar

variable {n : Nested} {m : Meaning} {params : List Value} {t : Token} {ts : List Token} {k : Nat} {a : Expr}
  {b : ListBinding}

/-! ## Values of operands -/

theorem scalar?_column {s : String} (h : IsColumn s a) : a.scalar? params = some fun row => row s := by
  obtain ⟨offset, rfl⟩ := h
  rfl

theorem scalar?_parameter {v : Value} (h : IsParameter k a) (hv : params[k]? = some v) :
    a.scalar? params = some fun _ => v := by
  obtain ⟨offset, rfl⟩ := h
  simp [Expr.scalar?, hv]

/-- The values are sent from the number `k` on. -/
abbrev SentFrom (params : List Value) (k : Nat) (vs : List Value) : Prop := vs <+: params.drop k

theorem SentFrom.head {v : Value} {vs : List Value} (h : SentFrom params k (v :: vs)) :
    params[k]? = some v ∧ SentFrom params (k + 1) vs := by
  obtain ⟨rest, hrest⟩ := h
  have hk : params.drop k = v :: (vs ++ rest) := by rw [← hrest, List.cons_append]
  refine ⟨?_, rest, ?_⟩
  · rw [← List.head?_drop, hk, List.head?_cons]
  · rw [← List.drop_drop, hk, List.drop_one, List.tail_cons]

theorem SentFrom.append (vs ws : List Value) (h : SentFrom params k (vs ++ ws)) :
    SentFrom params k vs ∧ SentFrom params (k + vs.length) ws := by
  obtain ⟨rest, hrest⟩ := h
  refine ⟨⟨ws ++ rest, by rw [← hrest, List.append_assoc]⟩, rest, ?_⟩
  rw [← List.drop_drop, ← hrest, List.append_assoc, List.drop_left]

/-! ## Items of lists -/

/-- The token of an item. -/
def itemToken (b : ListBinding) (v : Value) : Token := (itemSlot b v).token

/-- How many parameters an item has. -/
def itemParameters : ListBinding → Nat
  | .bound => 1
  | .inline => 0

/-- The expression is the item: the parameter with the number, or the literal. -/
def IsItem (b : ListBinding) (k : Nat) (v : Value) (e : Expr) : Prop :=
  match b with
  | .bound => IsParameter k e
  | .inline => e = .literal (literalValue v)

theorem takes_operand_literal (hd : t ≠ .symbol ".") (fuel : Nat) (v : Value) :
    Takes n (operand (fuel + 1)) ⟨literalToken v :: t :: ts, k⟩ ⟨t :: ts, k⟩ (· = .literal (literalValue v)) := by
  have htext : ∀ s : String, Takes n (operand (fuel + 1)) ⟨.text s :: t :: ts, k⟩ ⟨t :: ts, k⟩
      (· = .literal (.text s)) := by
    intro s
    rw [operand]
    refine takes_offsetHere.bind fun offset _ => takes_peek.step ?_
    refine Takes.step (takes_second.step (.done rfl)) (takes_advance.bind fun _ _ => ?_)
    exact .neg (by simpa using hd) (.done rfl)
  cases v with
  | null =>
    have hword : upper "NULL" = "NULL" := by decide
    rw [operand]
    refine takes_offsetHere.bind fun offset _ => takes_peek.step ?_
    simp only [literalToken, hword]
    exact takes_advance.bind fun _ _ => .done rfl
  | blob bytes =>
    rw [operand]
    exact takes_offsetHere.bind fun offset _ => takes_peek.step (takes_advance.bind fun _ _ => .done rfl)
  | integer x => exact htext _
  | real x => exact htext _
  | text s => exact htext _

theorem takes_item {most : Nat} (hn : Numbers n most) (v : Value) :
    TakesItem n most (itemParameters b) (IsItem b) (itemToken b) v := by
  intro fuel t ts k ht hk
  have hends : Ends 1 t ∧ t ≠ .symbol "." := by rcases ht with rfl | rfl <;> decide
  cases b with
  | bound => exact takes_parameter (hn.mono hk) hends.1 fuel
  | inline =>
    have hfirst : keywordOf (literalToken v) ≠ some "NOT" ∧ signOf? (literalToken v) = none := by
      cases v <;> exact ⟨by simp [literalToken, keywordOf, upper, Text.upperChar], rfl⟩
    exact takes_alone (takes_prefixed hfirst.1 hfirst.2 (takes_operand_literal hends.2 fuel v)) hends.1

/-- An item neither closes its list nor begins a query. -/
theorem itemToken_first (v : Value) :
    itemToken b v ≠ .symbol ")" ∧ ∀ w ∈ keywordOf (itemToken b v), w ∉ ["SELECT", "VALUES", "WITH"] := by
  cases b with
  | bound => exact ⟨by simp [itemToken, itemSlot, Slot.token], by simp [itemToken, itemSlot, Slot.token, keywordOf]⟩
  | inline =>
    have hnull : ∀ w ∈ some (upper "NULL"), w ∉ ["SELECT", "VALUES", "WITH"] := by decide
    cases v with
    | null => exact ⟨by simp [itemToken, itemSlot, Slot.token, literalToken], hnull⟩
    | _ =>
      exact ⟨by simp [itemToken, itemSlot, Slot.token, literalToken],
        by simp [itemToken, itemSlot, Slot.token, literalToken, keywordOf]⟩

theorem mapM_parameters {vs : List Value} {es : List Expr} (h : AreParameters k vs es) (hv : SentFrom params k vs) :
    es.mapM (Expr.scalar? params) = some (vs.map fun v _ => v) ∧ ∀ e ∈ es, e.isConstant = true := by
  induction h with
  | nil => exact ⟨rfl, by simp⟩
  | cons he _ ih =>
    obtain ⟨hhead, htail⟩ := hv.head
    obtain ⟨hes, hconstant⟩ := ih htail
    refine ⟨by simp [List.mapM_cons, scalar?_parameter he hhead, hes], ?_⟩
    obtain ⟨offset, rfl⟩ := he
    simpa [Expr.isConstant] using hconstant

theorem mapM_literals {vs : List Value} {es : List Expr} (h : Listed 0 (IsItem .inline) k vs es) :
    es.mapM (Expr.scalar? params) = some ((vs.map literalValue).map fun v _ => v) ∧
      ∀ e ∈ es, e.isConstant = true := by
  induction h with
  | nil => exact ⟨rfl, by simp⟩
  | cons he _ ih =>
    obtain ⟨hes, hconstant⟩ := ih
    cases he
    exact ⟨by simp [List.mapM_cons, Expr.scalar?, hes], by simpa [Expr.isConstant] using hconstant⟩

/-- Membership in a list of items, whatever the binding made of them. -/
theorem holds?_items {field : String} {vs : List Value} {es : List Expr} (ha : IsColumn field a)
    (h : Listed (itemParameters b) (IsItem b) k vs es) (hv : SentFrom params k (parametersOf b (field, .oneOf vs))) :
    (Expr.among a es).holds? m params = some fun row => (handed b (.oneOf vs)).holds m (row field) := by
  cases b with
  | bound =>
    obtain ⟨hmap, hconstant⟩ := mapM_parameters h hv
    exact holds?_among (scalar?_column ha) hconstant hmap
  | inline =>
    obtain ⟨hmap, hconstant⟩ := mapM_literals h
    exact holds?_among (scalar?_column ha) hconstant hmap

theorem length_items (b : ListBinding) (field : String) (vs : List Value) :
    itemParameters b * vs.length = (parametersOf b (field, .oneOf vs)).length := by
  cases b <;> simp [itemParameters, parametersOf]

/-! ## Predicates -/

/-- The expression is the predicate of an entry, with parameters from the number `k` on. -/
inductive IsPredicate (b : ListBinding) (k : Nat) : String × Constraint → Expr → Prop
  | equals {field : String} {v : Value} {a p : Expr} :
      IsColumn field a → IsParameter k p → IsPredicate b k (field, .equals v) (.compare .eq a p)
  | «matches» {field : String} {pattern : Pattern} {a p : Expr} {offset : Nat} :
      IsColumn field a → IsParameter k p →
        IsPredicate b k (field, .matches pattern) (.call "LIKE" offset false [p, a] none)
  | oneOf {field : String} {vs : List Value} {a : Expr} {items : List Expr} :
      IsColumn field a → Listed (itemParameters b) (IsItem b) k vs items →
        IsPredicate b k (field, .oneOf vs) (.among a items)

/-- The condition is true where the entry holds. -/
def Predicts (m : Meaning) (params : List Value) (b : ListBinding) (e : String × Constraint) (a : Expr) : Prop :=
  a.holds? m params = some fun row => (handed b e.2).holds m (row e.1)

theorem IsPredicate.predicts {e : String × Constraint} {c : Expr} (h : IsPredicate b k e c)
    (hv : SentFrom params k (parametersOf b e)) : Predicts m params b e c := by
  cases h with
  | equals ha hp =>
    rw [Predicts, handed_same b (by simp)]
    simp only [Expr.holds?, scalar?_column ha, scalar?_parameter hp hv.head.1]
    rfl
  | «matches» ha hp =>
    have hword : upper "LIKE" = "LIKE" := by decide
    rw [Predicts, handed_same b (by simp)]
    simp only [Expr.holds?, scalar?_column ha, scalar?_parameter hp hv.head.1, hword]
    rfl
  | oneOf ha hitems => exact holds?_items ha hitems hv

def predicateTokens (b : ListBinding) (e : String × Constraint) : List Token := (predicateSlots b e).map Slot.token

theorem predicateTokens_oneOf (field : String) (vs : List Value) :
    predicateTokens b (field, .oneOf vs) =
      .name '`' field :: .word "IN" :: .symbol "(" :: (itemTokens (itemToken b) vs ++ [.symbol ")"]) := by
  have hitems : (commaSlots (vs.map fun v => [itemSlot b v])).map Slot.token = itemTokens (itemToken b) vs :=
    tokens_commas _ vs
  simp [predicateTokens, predicateSlots, Slot.token, hitems]

/-- An entry, and what goes on behind it. -/
theorem takes_predicate {e : String × Constraint} (hn : Numbers n (k + (parametersOf b e).length)) {least : Nat}
    (hl : least ≤ 4) (ht : Ends 5 t) (he : keywordOf t ≠ some "ESCAPE") {fuel : Nat}
    (hf : (predicateTokens b e).length + 4 ≤ fuel) {w : View} {q : Expr → Prop}
    (hrest : ∀ c, IsPredicate b k e c →
      Takes n (continued fuel least c) ⟨t :: ts, k + (parametersOf b e).length⟩ w q) :
    Takes n (expressionOf (fuel + 2) least) ⟨predicateTokens b e ++ t :: ts, k⟩ w q := by
  obtain ⟨field, c⟩ := e
  obtain ⟨fuel, rfl⟩ : ∃ f, fuel = f + 5 :=
    ⟨fuel - 5, by cases c <;> simp [predicateTokens, predicateSlots] at hf <;> omega⟩
  cases c with
  | equals v =>
    refine takes_expressionOf (takes_prefixed_name (by decide) (by decide) _ field) fun a ha => ?_
    refine takes_continued (.compare .eq) rfl hl (takes_equals hn ht _ a) fun c hc => ?_
    obtain ⟨p, hp, rfl⟩ := hc
    exact hrest _ (.equals ha hp)
  | «matches» p =>
    refine takes_expressionOf (takes_prefixed_name (by decide) (by decide) _ field) fun a ha => ?_
    refine takes_continued .pattern (by decide) hl (takes_like hn ht he _ a) fun c hc => ?_
    obtain ⟨p, offset, hp, rfl⟩ := hc
    exact hrest _ (.matches ha hp)
  | oneOf vs =>
    have hlength : (itemTokens (itemToken b) vs).length + 8 ≤ fuel + 5 := by
      rw [predicateTokens_oneOf] at hf
      simp at hf ⊢
      omega
    have hitems : vs.length ≤ (itemTokens (itemToken b) vs).length := by
      have h := length_le_intercalate (fun v : Value => [itemToken b v]) (by simp) vs []
      rwa [List.append_nil] at h
    rw [predicateTokens_oneOf]
    simp only [List.cons_append, List.append_assoc, List.nil_append]
    refine takes_expressionOf (takes_prefixed_name (by decide) (by decide) _ field) fun a ha => ?_
    have hin : Takes n (applied (fuel + 5) .isIn a) _ ⟨t :: ts, _⟩ _ :=
      takes_in (k := k) vs (fun v _ => takes_item (b := b) hn v) (fun v _ => itemToken_first v) (fuel + 5) (by omega)
        (by rw [length_items b field]) ha
    rw [length_items b field] at hin
    refine takes_continued .isIn (by decide) hl hin fun c hc => ?_
    obtain ⟨es, hes, rfl⟩ := hc
    exact hrest _ (.oneOf ha hes)

/-! ## Conjunctions -/

/-- The values that are sent for some entries. -/
abbrev valuesFor (b : ListBinding) (es : List (String × Constraint)) : List Value := es.flatMap (parametersOf b)

theorem length_values (b : ListBinding) (k : Nat) (e : String × Constraint) (es : List (String × Constraint)) :
    k + (valuesFor b (e :: es)).length = k + (parametersOf b e).length + (valuesFor b es).length := by
  simp [valuesFor]
  omega

/-- The tokens of entries that go on a condition. -/
def conjunctTokens (b : ListBinding) (es : List (String × Constraint)) : List Token :=
  es.flatMap fun e => .word "AND" :: predicateTokens b e

/-- The second expression is the first with the predicates of entries joined to it. -/
inductive Joined (b : ListBinding) : Nat → List (String × Constraint) → Expr → Expr → Prop
  | nil {k : Nat} {a : Expr} : Joined b k [] a a
  | cons {k : Nat} {e : String × Constraint} {es : List (String × Constraint)} {a p c : Expr} :
      IsPredicate b k e p → Joined b (k + (parametersOf b e).length) es (.conjoin a p) c → Joined b k (e :: es) a c

/-- The expression, if any, is the condition of the entries. -/
def IsCondition (b : ListBinding) (k : Nat) : List (String × Constraint) → Option Expr → Prop
  | [], c => c = none
  | e :: es, c =>
    ∃ p a, IsPredicate b k e p ∧ Joined b (k + (parametersOf b e).length) es p a ∧ c = some a

/-- The condition is true of the rows that `keep` accepts and all entries hold of. -/
def Accepts (m : Meaning) (params : List Value) (b : ListBinding) (keep : Tuple → Bool)
    (es : List (String × Constraint)) (a : Expr) : Prop :=
  a.holds? m params = some fun row => keep row && accepts m b es row

theorem Joined.accepts {es : List (String × Constraint)} {keep : Tuple → Bool} {c : Expr} (h : Joined b k es a c)
    (ha : a.holds? m params = some keep) (hv : SentFrom params k (valuesFor b es)) : Accepts m params b keep es c := by
  induction h generalizing keep with
  | nil => simp [Accepts, Sql.accepts, ha]
  | @cons k e es a p c hp _ ih =>
    obtain ⟨hfirst, hrest⟩ := SentFrom.append (parametersOf b e) (valuesFor b es) (by simpa using hv)
    have h := ih (holds?_conjoin ha (hp.predicts hfirst)) hrest
    simpa only [Accepts, Sql.accepts, List.all_cons, Bool.and_assoc] using h

/-- The condition of entries accepts what they hold of. -/
theorem IsCondition.accepts {es : List (String × Constraint)} {c : Option Expr} (h : IsCondition b k es c)
    (hv : SentFrom params k (valuesFor b es)) : condition? m params c = some (Sql.accepts m b es) := by
  cases es with
  | nil => exact (show c = none from h) ▸ rfl
  | cons e es =>
    obtain ⟨p, a, hp, hjoined, rfl⟩ := h
    obtain ⟨hfirst, hrest⟩ := SentFrom.append (parametersOf b e) (valuesFor b es) (by simpa using hv)
    exact hjoined.accepts (hp.predicts hfirst) hrest

/-! ### Shapes -/

/-- As far as they are looked at before their names are, the expressions are the same. -/
structure SameShape (a a' : Expr) : Prop where
  height : a.height = a'.height
  isFalse : a.isFalse = a'.isFalse
  calls : a.calls = a'.calls

theorem SameShape.conjoin {a a' c c' : Expr} (ha : SameShape a a') (hc : SameShape c c') :
    SameShape (.conjoin a c) (.conjoin a' c') := by
  unfold Expr.conjoin
  rw [ha.isFalse, ha.calls, hc.isFalse, hc.calls]
  split
  · exact ⟨rfl, rfl, rfl⟩
  · exact ⟨by rw [Expr.height, Expr.height, ha.height, hc.height], rfl, by rw [Expr.calls, Expr.calls, ha.calls, hc.calls]⟩

/-- A parameter or a literal. -/
structure IsLeaf (e : Expr) : Prop where
  height : e.height = 1
  calls : e.calls = false
  constant : e.isConstant = true

theorem isLeaf_item {v : Value} {e : Expr} (h : IsItem b k v e) : IsLeaf e := by
  cases b with
  | bound =>
    obtain ⟨offset, rfl⟩ := h
    exact ⟨rfl, rfl, rfl⟩
  | inline =>
    obtain rfl : e = .literal (literalValue v) := h
    exact ⟨rfl, rfl, rfl⟩

/-- Items are leaves, one for each value. -/
theorem leaves_items {vs : List Value} {es : List Expr} (h : Listed (itemParameters b) (IsItem b) k vs es) :
    es.length = vs.length ∧ (∀ e ∈ es, IsLeaf e) := by
  induction h with
  | nil => exact ⟨rfl, by simp⟩
  | cons he _ ih => exact ⟨by simp [ih.1], by simpa using ⟨isLeaf_item he, ih.2⟩⟩

theorem shape_leaves {es : List Expr} (h : ∀ e ∈ es, IsLeaf e) :
    heights es = min 1 es.length ∧ Expr.callsAny es = false := by
  induction es with
  | nil => exact ⟨rfl, rfl⟩
  | cons e es ih =>
    obtain ⟨hheights, hcalls⟩ := ih fun e he => h e (List.mem_cons_of_mem _ he)
    have he := h e List.mem_cons_self
    constructor
    · rw [heights, he.height, hheights, List.length_cons]
      omega
    · rw [Expr.callsAny, he.calls, hcalls, Bool.or_false]

theorem shape_among {field : String} {a a' : Expr} {es es' : List Expr} (ha : IsColumn field a) (ha' : IsColumn field a')
    (h : ∀ e ∈ es, IsLeaf e) (h' : ∀ e ∈ es', IsLeaf e) (hlength : es.length = es'.length) :
    SameShape (.among a es) (.among a' es') := by
  obtain ⟨offset, rfl⟩ := ha
  obtain ⟨offset', rfl⟩ := ha'
  match es, es', hlength with
  | [], [], _ => exact ⟨rfl, rfl, rfl⟩
  | [e], [e'], _ =>
    have he := h e (List.mem_singleton_self e)
    have he' := h' e' (List.mem_singleton_self e')
    rw [Expr.among, Expr.among, if_pos he.constant, if_pos he'.constant]
    exact ⟨by simp [Expr.height, he.height, he'.height], rfl, by simp [Expr.calls, he.calls, he'.calls]⟩
  | e :: d :: es, e' :: d' :: es', hlength =>
    obtain ⟨hheights, hcalls⟩ := shape_leaves h
    obtain ⟨hheights', hcalls'⟩ := shape_leaves h'
    refine ⟨?_, rfl, ?_⟩
    · simp only [Expr.among, Expr.height, hheights, hheights', hlength]
    · simp only [Expr.among, Expr.calls, hcalls, hcalls']

variable {b' : ListBinding} {k' : Nat}

/-- The shape of a predicate does not depend on the binding. -/
theorem IsPredicate.shape {e : String × Constraint} {c c' : Expr} (h : IsPredicate b k e c)
    (h' : IsPredicate b' k' e c') : SameShape c c' := by
  cases h with
  | equals ha hp =>
    cases h' with
    | equals ha' hp' =>
      obtain ⟨⟨_, rfl⟩, ⟨_, rfl⟩⟩ := And.intro ha hp
      obtain ⟨⟨_, rfl⟩, ⟨_, rfl⟩⟩ := And.intro ha' hp'
      exact ⟨rfl, rfl, rfl⟩
  | «matches» ha hp =>
    cases h' with
    | «matches» ha' hp' =>
      obtain ⟨⟨_, rfl⟩, ⟨_, rfl⟩⟩ := And.intro ha hp
      obtain ⟨⟨_, rfl⟩, ⟨_, rfl⟩⟩ := And.intro ha' hp'
      exact ⟨rfl, rfl, rfl⟩
  | oneOf ha hitems =>
    cases h' with
    | oneOf ha' hitems' =>
      obtain ⟨hlength, hleaves⟩ := leaves_items hitems
      obtain ⟨hlength', hleaves'⟩ := leaves_items hitems'
      exact shape_among ha ha' hleaves hleaves' (hlength.trans hlength'.symm)

theorem Joined.shape {es : List (String × Constraint)} {a a' c c' : Expr} (h : Joined b k es a c)
    (h' : Joined b' k' es a' c') (ha : SameShape a a') : SameShape c c' := by
  induction h generalizing a' k' with
  | nil =>
    cases h'
    exact ha
  | cons hp _ ih =>
    cases h' with
    | cons hp' hjoined' => exact ih hjoined' (ha.conjoin (hp.shape hp'))

/-- The condition of entries is as deep under one binding as under the other. -/
theorem IsCondition.height {es : List (String × Constraint)} {c c' : Expr} (h : IsCondition b k es (some c))
    (h' : IsCondition b' k' es (some c')) : c.height = c'.height := by
  cases es with
  | nil => cases h
  | cons e es =>
    obtain ⟨p, a, hp, hjoined, hc⟩ := h
    obtain ⟨p', a', hp', hjoined', hc'⟩ := h'
    cases hc
    cases hc'
    exact (hjoined.shape hjoined' (hp.shape hp')).height

/-! ### Reading -/

/-- What follows an entry is AND or the end of the filter, and neither goes on a predicate. -/
theorem conjunctTokens_next (ts : List Token) (ht : Infix.ofToken? t = none) (he : keywordOf t ≠ some "ESCAPE")
    (es : List (String × Constraint)) :
    ∃ t' ts', conjunctTokens b es ++ t :: ts = t' :: ts' ∧ Ends 3 t' ∧ keywordOf t' ≠ some "ESCAPE" := by
  cases es with
  | nil => exact ⟨t, ts, rfl, fun op hop => by simp [ht] at hop, he⟩
  | cons e' es => exact ⟨.word "AND", _, rfl, by decide, by decide⟩

theorem takes_conjuncts {es : List (String × Constraint)} (hn : Numbers n (k + (valuesFor b es).length))
    (ht : Infix.ofToken? t = none) (he : keywordOf t ≠ some "ESCAPE") {fuel : Nat}
    (hf : (conjunctTokens b es).length + 7 ≤ fuel) :
    Takes n (continued fuel 1 a) ⟨conjunctTokens b es ++ t :: ts, k⟩ ⟨t :: ts, k + (valuesFor b es).length⟩
      (Joined b k es a) := by
  induction es generalizing a fuel k with
  | nil =>
    obtain ⟨fuel, rfl⟩ : ∃ f, fuel = f + 1 := ⟨fuel - 1, by omega⟩
    refine (leaves_continued (fun op hop => by simp [ht] at hop) fuel a).weaken fun c hc => ?_
    exact hc ▸ .nil
  | cons e es ih =>
    have hlength : (conjunctTokens b (e :: es)).length =
        (predicateTokens b e).length + 1 + (conjunctTokens b es).length := by
      simp [conjunctTokens]
      omega
    have hpredicate : 3 ≤ (predicateTokens b e).length := by
      obtain ⟨field, c⟩ := e
      cases c <;> simp [predicateTokens, predicateSlots]
    obtain ⟨fuel, rfl⟩ : ∃ f, fuel = f + 5 := ⟨fuel - 5, by omega⟩
    have htokens : conjunctTokens b (e :: es) ++ t :: ts =
        .word "AND" :: (predicateTokens b e ++ (conjunctTokens b es ++ t :: ts)) := by
      simp [conjunctTokens]
    obtain ⟨t', ts', hnext, hends, hescape⟩ := conjunctTokens_next ts ht he es
    rw [length_values] at hn
    rw [htokens, length_values]
    refine takes_continued .and (by decide) (by decide) (r := fun c => ∃ p, IsPredicate b k e p ∧ c = .conjoin a p)
      (v := ⟨t' :: ts', k + (parametersOf b e).length⟩) ?_ fun d hd => ?_
    · rw [applied, hnext]
      refine takes_advance.bind fun _ _ => ?_
      refine (takes_predicate (hn.mono (by omega)) (by decide) (hends.mono (by decide)) hescape (by omega)
        fun c hc => ?_).bind (q := IsPredicate b k e) fun c hc => .done ⟨c, hc, rfl⟩
      exact (leaves_continued hends _ c).weaken fun d hd => hd ▸ hc
    · rw [← hnext]
      obtain ⟨p, hp, rfl⟩ := hd
      exact (ih hn (by omega)).weaken fun c hc => .cons hp hc

/-- A condition may be of any height and have any number of parameters. -/
def Unbounded (n : Nested) : Prop := n.limits.parameters = none ∧ n.limits.height = none

theorem Unbounded.numbers (hn : Unbounded n) (most : Nat) : Numbers n most := fun i _ => by
  simp [Limits.allowsParameter, hn.1]

theorem Unbounded.height (hn : Unbounded n) (h : Nat) : n.limits.allowsHeight h = true := by
  simp [Limits.allowsHeight, hn.2]

/-- An expression is read, and is then no deeper than may be. -/
theorem takes_expr {v w : View} {q : Expr → Prop} (hh : ∀ e, q e → n.limits.allowsHeight e.height = true)
    (h : ∀ fuel, v.tokens.length + 8 ≤ fuel → Takes n (expressionOf fuel 1) v w q) : Takes n expr v w q := by
  refine takes_get.bind fun c hc => ?_
  have hlength := hc.length_le
  refine (h _ (by omega)).bind fun e he => ?_
  intro c hc
  refine ⟨e, c, ?_, hc, he⟩
  rw [run_bind]
  show ((_ : Parse Expr).run n).run c = _
  rw [hh e he]
  rfl

theorem breaks_expr {v w : View} {q : Expr → Prop} (hh : ∀ e, q e → n.limits.allowsHeight e.height = false)
    (h : ∀ fuel, v.tokens.length + 8 ≤ fuel → Takes n (expressionOf fuel 1) v w q) : Breaks n expr v := by
  refine takes_get.breaks fun c hc => ?_
  have hlength := hc.length_le
  refine (h _ (by omega)).breaks fun e he => ?_
  intro c hc
  refine ⟨.tooDeep, c, ?_⟩
  rw [run_bind]
  show ((_ : Parse Expr).run n).run c = _
  rw [hh e he]
  rfl

theorem filterTokens_cons {f : Filter} {e : String × Constraint} {es : List (String × Constraint)}
    (hes : f.entries = e :: es) :
    (filterSlots b f).map Slot.token = .word "WHERE" :: (predicateTokens b e ++ conjunctTokens b es) := by
  have hslots : filterSlots b f =
      Slot.word "WHERE" :: [Slot.word "AND"].intercalate ((e :: es).map (predicateSlots b)) := by
    simp [filterSlots, listingSlots, hes]
  rw [hslots, List.map_cons, map_intercalate, List.map_map, List.map_cons]
  show _ :: [Token.word "AND"].intercalate (predicateTokens b e :: es.map (predicateTokens b)) = _
  rw [intercalate_cons_flatMap, List.flatMap_map]
  rfl

theorem leaves_where (h : keywordOf t ≠ some "WHERE") : Takes n where? ⟨t :: ts, k⟩ ⟨t :: ts, k⟩ (· = none) :=
  (leaves_keyword? h).step (.neg (by decide) (.done rfl))

/-- Some entries are read as their condition, as long as there is room for their parameters. -/
theorem takes_condition {e : String × Constraint} {es : List (String × Constraint)}
    (hn : Numbers n (k + (valuesFor b (e :: es)).length)) (ht : Infix.ofToken? t = none)
    (he : keywordOf t ≠ some "ESCAPE") {fuel : Nat}
    (hf : (predicateTokens b e ++ (conjunctTokens b es ++ t :: ts)).length + 8 ≤ fuel) :
    Takes n (expressionOf fuel 1) ⟨predicateTokens b e ++ (conjunctTokens b es ++ t :: ts), k⟩
      ⟨t :: ts, k + (valuesFor b (e :: es)).length⟩ fun a => IsCondition b k (e :: es) (some a) := by
  obtain ⟨t', ts', hnext, hends, hescape⟩ := conjunctTokens_next ts ht he es
  obtain ⟨fuel, rfl⟩ : ∃ f, fuel = f + 2 := ⟨fuel - 2, by omega⟩
  simp only [List.length_append, List.length_cons] at hf
  rw [length_values] at hn ⊢
  rw [hnext]
  refine takes_predicate (hn.mono (by omega)) (by decide) (hends.mono (by decide)) hescape (by omega) fun c hc => ?_
  rw [← hnext]
  exact (takes_conjuncts hn ht he (by omega)).weaken fun a ha => ⟨c, a, hc, ha, rfl⟩

/-- Names and numbers may stand in a statement. -/
abbrev Shallow (n : Nested) : Prop := ∀ h ≤ 2, n.limits.allowsHeight h = true

/-- The statement of a filter is not too large: names and numbers may stand in it, there is room
for its parameters, and its condition is not too deep. -/
structure Fits (n : Nested) (b : ListBinding) (k : Nat) (f : Filter) : Prop where
  shallow : Shallow n
  numbers : Numbers n (k + (valuesFor b f.entries).length)
  height : ∀ c, IsCondition b k f.entries (some c) → n.limits.allowsHeight c.height = true

theorem Unbounded.shallow (hn : Unbounded n) : Shallow n := fun h _ => hn.height h

theorem Unbounded.fits (hn : Unbounded n) (b : ListBinding) (k : Nat) (f : Filter) : Fits n b k f :=
  ⟨hn.shallow, hn.numbers _, fun c _ => hn.height c.height⟩

/-- The condition of a filter is that of its entries. -/
theorem takes_where {f : Filter} (hn : Fits n b k f) (ht : Infix.ofToken? t = none) (he : keywordOf t ≠ some "ESCAPE")
    (hw : keywordOf t ≠ some "WHERE") :
    Takes n where? ⟨(filterSlots b f).map Slot.token ++ t :: ts, k⟩ ⟨t :: ts, k + (valuesFor b f.entries).length⟩
      (IsCondition b k f.entries) := by
  obtain ⟨-, hnumbers, hheight⟩ := hn
  cases hes : f.entries with
  | nil =>
    simp only [filterSlots, listingSlots, hes]
    exact (leaves_where hw).weaken fun c hc => hc
  | cons e es =>
    rw [hes] at hnumbers hheight
    rw [filterTokens_cons hes]
    simp only [List.cons_append, List.append_assoc]
    refine (takes_keyword? rfl).step (.pos rfl ?_)
    exact (takes_expr hheight fun fuel hf => takes_condition hnumbers ht he hf).bind fun a ha => .done ha

/-- A condition that is too deep is refused. -/
theorem breaks_where {f : Filter} (hn : Numbers n (k + (valuesFor b f.entries).length)) (hf : f.entries ≠ [])
    (hdeep : ∀ c, IsCondition b k f.entries (some c) → n.limits.allowsHeight c.height = false)
    (ht : Infix.ofToken? t = none) (he : keywordOf t ≠ some "ESCAPE") :
    Breaks n where? ⟨(filterSlots b f).map Slot.token ++ t :: ts, k⟩ := by
  obtain ⟨e, es, hes⟩ := List.exists_cons_of_ne_nil hf
  rw [hes] at hn hdeep
  rw [filterTokens_cons hes]
  simp only [List.cons_append, List.append_assoc]
  refine (takes_keyword? rfl).stepBreaks ?_
  rw [if_pos rfl]
  exact (breaks_expr hdeep fun fuel hf => takes_condition hn ht he hf).bind _

end TableKeeper.Sql.Grammar
