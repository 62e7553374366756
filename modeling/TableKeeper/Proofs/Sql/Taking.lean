import Mathlib.Data.List.Forall2
import TableKeeper.Sql.Grammar

/-!
  TableKeeper.Proofs.Sql.Taking — what a reader takes off a list of tokens.

  1. A view is what a reader has in front of it: the tokens that are left and how many
     parameters were read. The places of tokens are not part of it.
  2. `Takes` says that from one view the reader comes to another without a fault, wherever
     the tokens stand, and what holds of its result. One rule for each small reader, and
     `step` to put readers behind each other.
-/

namespace TableKeeper.Sql.Grammar

variable {α β : Type} {n : Nested}

structure View where
  tokens : List Token
  parameters : Nat

/-- The cursor stands in front of the view. -/
structure Sees (c : Cursor) (v : View) : Prop where
  tokens : c.rest.map (·.token) = v.tokens
  parameters : c.parameters = v.parameters
  sized : c.rest.length ≤ c.size

/-- In front of the first view the reader succeeds, and stands in front of the second. -/
def Takes (n : Nested) (p : Parse α) (v w : View) (q : α → Prop) : Prop :=
  ∀ c, Sees c v → ∃ a c', (p.run n).run c = (.ok a, c') ∧ Sees c' w ∧ q a

/-- In front of the view the reader stops at a fault. -/
def Breaks (n : Nested) (p : Parse α) (v : View) : Prop := ∀ c, Sees c v → ∃ e c', (p.run n).run c = (.error e, c')

/-! ## Readers behind each other -/

theorem run_bind (p : Parse α) (f : α → Parse β) (c : Cursor) :
    ((p >>= f).run n).run c =
      match (p.run n).run c with
      | (.ok a, c) => ((f a).run n).run c
      | (.error e, c) => (.error e, c) := by
  rw [ReaderT.run_bind, ExceptT.run_bind]
  generalize hk : (fun (x : Except Fault α) => _) = k
  show (match (p.run n).run c with | (r, c) => k r c) = _
  rcases (p.run n).run c with ⟨r, c'⟩
  subst hk
  cases r
  · rfl
  · rfl

namespace Takes

variable {p : Parse α} {f : α → Parse β} {u v w : View} {q r : α → Prop} {s : β → Prop} {a : α}

theorem done (h : q a) : Takes n (pure a) v v q := fun c hc => ⟨a, c, rfl, hc, h⟩

theorem bind (hp : Takes n p u v q) (hf : ∀ a, q a → Takes n (f a) v w s) : Takes n (p >>= f) u w s := by
  intro c hc
  obtain ⟨a, c', hrun, hc', ha⟩ := hp c hc
  obtain ⟨b, c'', hrun', hc'', hb⟩ := hf a ha c' hc'
  refine ⟨b, c'', ?_, hc'', hb⟩
  rw [run_bind, hrun]
  exact hrun'

theorem step (hp : Takes n p u v (· = a)) (hf : Takes n (f a) v w s) : Takes n (p >>= f) u w s :=
  hp.bind fun _ ha => ha ▸ hf

theorem weaken (hp : Takes n p v w q) (h : ∀ a, q a → r a) : Takes n p v w r := by
  intro c hc
  obtain ⟨a, c', hrun, hc', ha⟩ := hp c hc
  exact ⟨a, c', hrun, hc', h a ha⟩

/-- The readers so far succeed, and what goes on with them does not. -/
theorem breaks (hp : Takes n p u v q) (hf : ∀ a, q a → Breaks n (f a) v) : Breaks n (p >>= f) u := by
  intro c hc
  obtain ⟨a, c', hrun, hc', ha⟩ := hp c hc
  obtain ⟨e, c'', hfault⟩ := hf a ha c' hc'
  refine ⟨e, c'', ?_⟩
  rw [run_bind, hrun]
  exact hfault

theorem stepBreaks (hp : Takes n p u v (· = a)) (hf : Breaks n (f a) v) : Breaks n (p >>= f) u :=
  hp.breaks fun _ ha => ha ▸ hf

theorem map {g : α → β} (hp : Takes n p v w q) : Takes n (g <$> p) v w fun b => ∃ a, q a ∧ b = g a := by
  rw [map_eq_pure_bind]
  exact hp.bind fun a ha => .done ⟨a, ha, rfl⟩

theorem pos {b : Prop} [Decidable b] {p' : Parse α} (hb : b) (h : Takes n p v w q) :
    Takes n (if b then p else p') v w q := by
  rwa [if_pos hb]

theorem neg {b : Prop} [Decidable b] {p' : Parse α} (hb : ¬b) (h : Takes n p' v w q) :
    Takes n (if b then p else p') v w q := by
  rwa [if_neg hb]

end Takes

theorem Breaks.bind {p : Parse α} {v : View} (hp : Breaks n p v) (f : α → Parse β) : Breaks n (p >>= f) v := by
  intro c hc
  obtain ⟨e, c', hfault⟩ := hp c hc
  refine ⟨e, c', ?_⟩
  rw [run_bind, hfault]

theorem Breaks.neg {c : Prop} [Decidable c] {p p' : Parse α} {v : View} (hc : ¬c) (h : Breaks n p' v) :
    Breaks n (if c then p else p') v := by
  rwa [if_neg hc]

theorem breaks_fail {v : View} : Breaks n (fail : Parse α) v := fun c _ => ⟨_, c, rfl⟩

/-! ## Single tokens -/

variable {t : Token} {ts : List Token} {k : Nat}

theorem Sees.cons {c : Cursor} (h : Sees c ⟨t :: ts, k⟩) :
    ∃ l ls, c.rest = l :: ls ∧ l.token = t ∧ ls.map (·.token) = ts := by
  have ht := h.tokens
  cases hrest : c.rest with
  | nil => simp [hrest] at ht
  | cons l ls =>
    rw [hrest, List.map_cons, List.cons.injEq] at ht
    exact ⟨l, ls, rfl, ht.1, ht.2⟩

theorem Sees.drop {c : Cursor} (h : Sees c ⟨t :: ts, k⟩) : Sees { c with rest := c.rest.drop 1 } ⟨ts, k⟩ := by
  obtain ⟨l, ls, hrest, -, hls⟩ := h.cons
  have hsized := h.sized
  refine ⟨?_, h.parameters, ?_⟩
  · simpa [hrest] using hls
  · simp only [hrest, List.length_cons, List.drop_one, List.tail_cons] at hsized ⊢
    omega

theorem Sees.length_le {c : Cursor} {v : View} (h : Sees c v) : v.tokens.length ≤ c.size := by
  rw [← h.tokens, List.length_map]
  exact h.sized

theorem takes_get {v : View} : Takes n get v v (Sees · v) := fun c hc => ⟨c, c, rfl, hc, hc⟩

theorem takes_peek : Takes n peek ⟨t :: ts, k⟩ ⟨t :: ts, k⟩ (· = some t) := by
  intro c hc
  obtain ⟨l, ls, hrest, ht, -⟩ := hc.cons
  exact ⟨_, c, rfl, hc, by simp [hrest, ht]⟩

theorem takes_advance : Takes n advance ⟨t :: ts, k⟩ ⟨ts, k⟩ fun _ => True := fun c hc =>
  ⟨(), { c with rest := c.rest.drop 1 }, rfl, hc.drop, trivial⟩

theorem takes_offsetHere {v : View} : Takes n offsetHere v v fun _ => True := fun c hc => ⟨_, c, rfl, hc, trivial⟩

theorem takes_second {v : View} : Takes n second v v (· = (v.tokens.drop 1).head?) := by
  intro c hc
  refine ⟨_, c, rfl, hc, ?_⟩
  rw [← hc.tokens, ← List.map_drop, List.head?_map]

theorem takes_isSymbol (s : String) :
    Takes n (isSymbol s) ⟨t :: ts, k⟩ ⟨t :: ts, k⟩ (· = (some t == some (.symbol s))) :=
  takes_peek.step (.done rfl)

theorem takes_symbol? (s : String) : Takes n (symbol? s) ⟨.symbol s :: ts, k⟩ ⟨ts, k⟩ (· = true) :=
  (takes_isSymbol s).step (.pos (by simp) (takes_advance.bind fun _ _ => .done rfl))

theorem leaves_symbol? {s : String} (h : t ≠ .symbol s) : Takes n (symbol? s) ⟨t :: ts, k⟩ ⟨t :: ts, k⟩ (· = false) :=
  (takes_isSymbol s).step (.neg (by simpa using h) (.done rfl))

theorem takes_symbol (s : String) : Takes n (symbol s) ⟨.symbol s :: ts, k⟩ ⟨ts, k⟩ fun _ => True :=
  (takes_symbol? s).step (.neg (by decide) (.done trivial))

/-- The keyword that a token is. -/
def keywordOf : Token → Option String
  | .word w => some (upper w)
  | _ => none

theorem takes_keywordHere : Takes n keywordHere ⟨t :: ts, k⟩ ⟨t :: ts, k⟩ (· = keywordOf t) := by
  refine takes_peek.step ?_
  cases t with
  | word w => exact .done rfl
  | _ => exact .done rfl

theorem takes_isKeyword (w : String) :
    Takes n (isKeyword w) ⟨t :: ts, k⟩ ⟨t :: ts, k⟩ (· = (keywordOf t == some w)) :=
  takes_keywordHere.step (.done rfl)

theorem takes_keyword? {w : String} (h : keywordOf t = some w) :
    Takes n (keyword? w) ⟨t :: ts, k⟩ ⟨ts, k⟩ (· = true) :=
  (takes_isKeyword w).step (.pos (by simpa using h) (takes_advance.bind fun _ _ => .done rfl))

theorem leaves_keyword? {w : String} (h : keywordOf t ≠ some w) :
    Takes n (keyword? w) ⟨t :: ts, k⟩ ⟨t :: ts, k⟩ (· = false) :=
  (takes_isKeyword w).step (.neg (by simpa using h) (.done rfl))

theorem takes_keyword {w : String} (h : keywordOf t = some w) :
    Takes n (keyword w) ⟨t :: ts, k⟩ ⟨ts, k⟩ fun _ => True :=
  (takes_keyword? h).step (.neg (by decide) (.done trivial))

theorem takes_oneOf? {ws : List String} {w : String} (h : keywordOf t = some w) (hw : w ∈ ws) :
    Takes n (oneOf? ws) ⟨t :: ts, k⟩ ⟨ts, k⟩ (· = some w) := by
  refine takes_keywordHere.step ?_
  rw [h]
  exact .pos (by simpa using hw) (takes_advance.bind fun _ _ => .done rfl)

theorem leaves_oneOf? {ws : List String} (h : ∀ w ∈ keywordOf t, w ∉ ws) :
    Takes n (oneOf? ws) ⟨t :: ts, k⟩ ⟨t :: ts, k⟩ (· = none) := by
  refine takes_keywordHere.step ?_
  cases hk : keywordOf t with
  | none => exact .done rfl
  | some w => exact .neg (by simpa using h w hk) (.done rfl)

theorem leaves_beginsQuery (h : ∀ w ∈ keywordOf t, w ∉ ["SELECT", "VALUES", "WITH"]) :
    Takes n beginsQuery ⟨t :: ts, k⟩ ⟨t :: ts, k⟩ (· = false) := by
  refine takes_keywordHere.step ?_
  cases hk : keywordOf t with
  | none => exact .done rfl
  | some w => exact .done (by simpa using h w hk)

/-! ## Names -/

theorem takes_taking {f : Token → Option String} {s : String} (h : f t = some s) :
    Takes n (taking f) ⟨t :: ts, k⟩ ⟨ts, k⟩ (· = some s) := by
  refine takes_peek.step ?_
  rw [Option.bind_some, h]
  exact takes_advance.bind fun _ _ => .done rfl

theorem leaves_taking {f : Token → Option String} (h : f t = none) :
    Takes n (taking f) ⟨t :: ts, k⟩ ⟨t :: ts, k⟩ (· = none) := by
  refine takes_peek.step ?_
  rw [Option.bind_some, h]
  exact .done rfl

theorem takes_name {s : String} (h : nameOf? t = some s) : Takes n name ⟨t :: ts, k⟩ ⟨ts, k⟩ (· = s) :=
  (takes_taking h).step (.done rfl)

theorem leaves_label? (hk : keywordOf t ≠ some "AS") (hl : labelOf? t = none) :
    Takes n label? ⟨t :: ts, k⟩ ⟨t :: ts, k⟩ (· = none) :=
  (leaves_keyword? hk).step (.neg (by decide) (leaves_taking hl))

theorem leaves_alias? (hk : keywordOf t ≠ some "AS") : Takes n alias? ⟨t :: ts, k⟩ ⟨t :: ts, k⟩ (· = none) :=
  (leaves_keyword? hk).step (.neg (by decide) (.done rfl))

theorem takes_tableName {s : String} (ht : t ≠ .symbol ".") :
    Takes n tableName ⟨.name '`' s :: t :: ts, k⟩ ⟨t :: ts, k⟩ (· = { name := s }) :=
  (takes_name rfl).step ((leaves_symbol? ht).step (.neg (by decide) (.done rfl)))

/-! ## Lists -/

/-- Results go with parts one by one; each part has `per` parameters. -/
inductive Listed {ι : Type} (per : Nat) (q : Nat → ι → α → Prop) : Nat → List ι → List α → Prop
  | nil {k : Nat} : Listed per q k [] []
  | cons {k : Nat} {x : ι} {xs : List ι} {a : α} {as : List α} :
      q k x a → Listed per q (k + per) xs as → Listed per q k (x :: xs) (a :: as)

variable {ι : Type} {per : Nat} {q : Nat → ι → α → Prop} {text : ι → List Token}

/-- What a reader must do with each part of a list in front of `t`. -/
abbrev TakesPart (n : Nested) (item : Parse α) (per : Nat) (q : Nat → ι → α → Prop) (text : ι → List Token)
    (t : Token) (x : ι) : Prop :=
  ∀ (t' : Token) (ts : List Token) (k : Nat), t' = .symbol "," ∨ t' = t →
    Takes n item ⟨text x ++ t' :: ts, k⟩ ⟨t' :: ts, k + per⟩ (q k x)

theorem intercalate_comma (x y : ι) (xs : List ι) (rest : List Token) :
    [Token.symbol ","].intercalate ((x :: y :: xs).map text) ++ rest =
      text x ++ .symbol "," :: ([Token.symbol ","].intercalate ((y :: xs).map text) ++ rest) := by
  simp [List.intercalate_cons_cons]

theorem takes_commaList {item : Parse α} (ht : t ≠ .symbol ",") {xs : List ι} (hne : xs ≠ [])
    (hitem : ∀ x ∈ xs, TakesPart n item per q text t x) (fuel : Nat) (hf : xs.length ≤ fuel) (k : Nat) :
    Takes n (commaList item fuel) ⟨[.symbol ","].intercalate (xs.map text) ++ t :: ts, k⟩
      ⟨t :: ts, k + per * xs.length⟩
      (Listed per q k xs) := by
  induction xs generalizing fuel k with
  | nil => exact absurd rfl hne
  | cons x xs ih =>
    obtain ⟨fuel, rfl⟩ : ∃ f, fuel = f + 1 := ⟨fuel - 1, by simp at hf; omega⟩
    have hx := hitem x List.mem_cons_self
    cases xs with
    | nil =>
      rw [List.map_singleton, List.intercalate_singleton, List.length_singleton, Nat.mul_one]
      refine (hx t ts k (.inr rfl)).bind fun a ha => ?_
      exact (leaves_symbol? ht).step (.neg (by decide) (.done (.cons ha .nil)))
    | cons y ys =>
      rw [intercalate_comma, show k + per * (x :: y :: ys).length = k + per + per * (y :: ys).length by
        simp only [List.length_cons, Nat.mul_add]; omega]
      refine (hx (.symbol ",") _ k (.inl rfl)).bind fun a ha => (takes_symbol? _).step (.pos rfl ?_)
      have htail := ih (by simp) (fun z hz => hitem z (List.mem_cons_of_mem _ hz)) fuel (by simpa using hf) (k + per)
      exact htail.bind fun as has => .done (.cons ha has)

theorem length_le_intercalate (text : ι → List Token) (hpart : ∀ x, text x ≠ []) (xs : List ι) (rest : List Token) :
    xs.length ≤ ([Token.symbol ","].intercalate (xs.map text) ++ rest).length := by
  induction xs with
  | nil => simp
  | cons x xs ih =>
    have hx := List.length_pos_iff.mpr (hpart x)
    cases xs with
    | nil => simp; omega
    | cons y ys =>
      rw [intercalate_comma, List.length_append, List.length_cons]
      simp only [List.length_cons] at ih ⊢
      omega

theorem takes_list {item : Parse α} (ht : t ≠ .symbol ",") {xs : List ι} (hne : xs ≠ []) (hpart : ∀ x, text x ≠ [])
    (hitem : ∀ x ∈ xs, TakesPart n item per q text t x) (k : Nat) :
    Takes n (list item) ⟨[.symbol ","].intercalate (xs.map text) ++ t :: ts, k⟩ ⟨t :: ts, k + per * xs.length⟩
      (Listed per q k xs) := by
  refine takes_get.bind fun c hc => ?_
  exact takes_commaList ht hne hitem c.size
    (Nat.le_trans (length_le_intercalate text hpart xs (t :: ts)) hc.length_le) k

theorem takes_bracketed {item : Parse α} {xs : List ι} (hne : xs ≠ []) (hpart : ∀ x, text x ≠ [])
    (hitem : ∀ x ∈ xs, TakesPart n item per q text (.symbol ")") x) (k : Nat) :
    Takes n (bracketed item) ⟨.symbol "(" :: ([.symbol ","].intercalate (xs.map text) ++ .symbol ")" :: ts), k⟩
      ⟨ts, k + per * xs.length⟩ (Listed per q k xs) := by
  refine (takes_symbol _).bind fun _ _ => (takes_list (by decide) hne hpart hitem k).bind fun as has => ?_
  exact (takes_symbol _).bind fun _ _ => .done has

/-! ## Lists without parameters -/

theorem Listed.forall₂ {r : ι → α → Prop} {xs : List ι} {as : List α} (h : Listed 0 (fun _ => r) k xs as) :
    List.Forall₂ r xs as := by
  induction h with
  | nil => exact .nil
  | cons ha _ ih => exact .cons ha ih

/-- What a reader must do with each part of a list in front of `t`, where no part has a parameter. -/
abbrev TakesBare (n : Nested) (item : Parse α) (r : ι → α → Prop) (text : ι → List Token) (t : Token)
    (x : ι) : Prop :=
  ∀ (t' : Token) (ts : List Token) (k : Nat), t' = .symbol "," ∨ t' = t →
    Takes n item ⟨text x ++ t' :: ts, k⟩ ⟨t' :: ts, k⟩ (r x)

theorem takes_bareList {r : ι → α → Prop} {item : Parse α} (ht : t ≠ .symbol ",") {xs : List ι} (hne : xs ≠ [])
    (hpart : ∀ x, text x ≠ []) (hitem : ∀ x ∈ xs, TakesBare n item r text t x) (k : Nat) :
    Takes n (list item) ⟨[.symbol ","].intercalate (xs.map text) ++ t :: ts, k⟩ ⟨t :: ts, k⟩ (List.Forall₂ r xs) := by
  have h : Takes n (list item) ⟨_ ++ t :: ts, k⟩ ⟨t :: ts, k + 0 * xs.length⟩ (Listed 0 (fun _ => r) k xs) :=
    takes_list ht hne hpart hitem k
  rw [Nat.zero_mul, Nat.add_zero] at h
  exact h.weaken fun _ => Listed.forall₂

theorem takes_bareBracketed {r : ι → α → Prop} {item : Parse α} {xs : List ι} (hne : xs ≠ [])
    (hpart : ∀ x, text x ≠ []) (hitem : ∀ x ∈ xs, TakesBare n item r text (.symbol ")") x) (k : Nat) :
    Takes n (bracketed item) ⟨.symbol "(" :: ([.symbol ","].intercalate (xs.map text) ++ .symbol ")" :: ts), k⟩
      ⟨ts, k⟩
      (List.Forall₂ r xs) := by
  have h : Takes n (bracketed item) ⟨_, k⟩ ⟨ts, k + 0 * xs.length⟩ (Listed 0 (fun _ => r) k xs) :=
    takes_bracketed hne hpart hitem k
  rw [Nat.zero_mul, Nat.add_zero] at h
  exact h.weaken fun _ => Listed.forall₂

theorem mapM_eq_some_iff {f : α → Option ι} {xs : List ι} {as : List α} :
    as.mapM f = some xs ↔ List.Forall₂ (fun x a => f a = some x) xs as := by
  constructor
  · intro h
    induction as generalizing xs with
    | nil =>
      obtain rfl : [] = xs := Option.some.inj h
      exact .nil
    | cons a as ih =>
      rw [List.mapM_cons] at h
      obtain ⟨x, hx, h⟩ := Option.bind_eq_some_iff.mp h
      obtain ⟨xs', hxs, h⟩ := Option.bind_eq_some_iff.mp h
      obtain rfl : x :: xs' = xs := Option.some.inj h
      exact .cons hx (ih hxs)
  · intro h
    induction h with
    | nil => rfl
    | cons ha _ ih => simp [List.mapM_cons, ha, ih]

end TableKeeper.Sql.Grammar
