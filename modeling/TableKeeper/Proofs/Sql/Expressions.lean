import TableKeeper.Proofs.Sql.Taking

/-!
  TableKeeper.Proofs.Sql.Expressions — operands, predicates and conditions as they are read.

  1. Fuel only has to be more than the tokens in front of the reader, so no rule says more
     of it.
  2. An operator binds as far as the next token allows: a token that is no operator of the
     level ends what stands left of it (`Ends`).
-/

namespace TableKeeper.Sql.Grammar

variable {n : Nested} {t : Token} {ts : List Token} {k : Nat}

/-- The token goes on no expression of operators of the level. -/
def Ends (least : Nat) (t : Token) : Prop := ∀ op ∈ Infix.ofToken? t, op.level < least

instance (least : Nat) (t : Token) : Decidable (Ends least t) :=
  inferInstanceAs (Decidable (∀ op ∈ Infix.ofToken? t, op.level < least))

/-- The expression is the column, which stands alone. -/
def IsColumn (name : String) (e : Expr) : Prop := ∃ offset, e = .column { name, offset }

/-- The expression is the parameter with the number. -/
def IsParameter (i : Nat) (e : Expr) : Prop := ∃ offset, e = .parameter i offset

/-! ## Operands -/

/-- Parameters may have numbers up to this one. -/
def Numbers (n : Nested) (most : Nat) : Prop := ∀ i ≤ most, n.limits.allowsParameter i = true

theorem Numbers.mono {most less : Nat} (hn : Numbers n most) (h : less ≤ most) : Numbers n less :=
  fun i hi => hn i (Nat.le_trans hi h)

theorem run_nextParameter (offset : Nat) (c : Cursor) (hn : n.limits.allowsParameter (c.parameters + 1) = true) :
    ((nextParameter offset).run n).run c =
      (.ok (.parameter c.parameters offset), { c with parameters := c.parameters + 1 }) := by
  unfold nextParameter
  rw [run_bind]
  show ((_ : Parse Expr).run n).run c = _
  rw [run_bind]
  show ((_ : Parse Expr).run n).run c = _
  rw [hn]
  rfl

theorem takes_nextParameter (hn : Numbers n (k + 1)) (offset : Nat) :
    Takes n (nextParameter offset) ⟨ts, k⟩ ⟨ts, k + 1⟩ (IsParameter k) := fun c hc =>
  ⟨_, _, run_nextParameter offset c (by rw [hc.parameters]; exact hn _ (Nat.le_refl _)),
    ⟨hc.tokens, congrArg (· + 1) hc.parameters, hc.sized⟩, offset, by rw [hc.parameters]⟩

/-- A name that is neither qualified nor called is a column. -/
theorem takes_named (hd : t ≠ .symbol ".") (hp : t ≠ .symbol "(") (fuel : Nat) (s : String) (quoting : Quoting)
    (offset : Nat) :
    Takes n (named (fuel + 1) s quoting offset) ⟨t :: ts, k⟩ ⟨t :: ts, k⟩
      (· = .column { name := s, quoting, offset }) := by
  rw [named]
  refine (leaves_symbol? hp).step (.pos rfl ?_)
  exact (leaves_symbol? hd).step (.neg (by decide) (.done rfl))

theorem takes_operand_name (hd : t ≠ .symbol ".") (hp : t ≠ .symbol "(") (fuel : Nat) (s : String) :
    Takes n (operand (fuel + 2)) ⟨.name '`' s :: t :: ts, k⟩ ⟨t :: ts, k⟩ (IsColumn s) := by
  rw [operand]
  refine takes_offsetHere.bind fun offset _ => takes_peek.step (takes_advance.bind fun _ _ => ?_)
  exact (takes_named hd hp fuel s _ offset).weaken fun e he => ⟨offset, he⟩

theorem takes_operand_parameter (hn : Numbers n (k + 1)) (fuel : Nat) :
    Takes n (operand (fuel + 1)) ⟨.parameter none :: ts, k⟩ ⟨ts, k + 1⟩ (IsParameter k) := by
  rw [operand]
  refine takes_offsetHere.bind fun offset _ => takes_peek.step (takes_advance.bind fun _ _ => ?_)
  exact takes_nextParameter hn offset

theorem takes_operand_number (fuel : Nat) (x : Number.Numeric) :
    Takes n (operand (fuel + 1)) ⟨.number x :: ts, k⟩ ⟨ts, k⟩ (· = literalOf x) := by
  rw [operand]
  exact takes_offsetHere.bind fun offset _ => takes_peek.step (takes_advance.bind fun _ _ => .done rfl)

/-- A word that the grammar does not ask for in front of an operand. -/
def isFreeWord (w : String) : Bool := !reserved.contains (upper w) && !(["CAST", "EXISTS"].contains (upper w))

theorem takes_operand_word {w : String} (hw : isFreeWord w = true) (fuel : Nat) {v : View} {q : Expr → Prop}
    (h : ∀ offset, Takes n (named fuel w .bare offset) ⟨ts, k⟩ v q) :
    Takes n (operand (fuel + 1)) ⟨.word w :: ts, k⟩ v q := by
  rw [operand]
  refine takes_offsetHere.bind fun offset _ => takes_peek.step ?_
  simp only [isFreeWord, Bool.and_eq_true, Bool.not_eq_true'] at hw
  have hne : ∀ u, upper w = u → reserved.contains u = false ∧ ["CAST", "EXISTS"].contains u = false :=
    fun u hu => hu ▸ hw
  dsimp only
  split
  · rename_i hu; exact absurd (hne _ hu).1 (by decide)
  · rename_i hu; exact absurd (hne _ hu).1 (by decide)
  · rename_i hu; exact absurd (hne _ hu).2 (by decide)
  · rename_i hu; exact absurd (hne _ hu).2 (by decide)
  · rw [hw.1]
    exact takes_advance.bind fun _ _ => h offset

/-- A column of the row that was refused. -/
theorem takes_operand_excluded (hd : t ≠ .symbol ".") (fuel : Nat) (s : String) :
    Takes n (operand (fuel + 2)) ⟨.word "excluded" :: .symbol "." :: .name '`' s :: t :: ts, k⟩ ⟨t :: ts, k⟩
      fun e => ∃ offset, e = .column { table := some "excluded", name := s, offset } := by
  refine takes_operand_word (by decide) _ fun offset => ?_
  rw [named]
  refine (leaves_symbol? (by decide)).step (.pos rfl ?_)
  refine (takes_symbol? ".").step (.pos rfl ((takes_name rfl).step ?_))
  exact (leaves_symbol? hd).step (.neg (by decide) (.done ⟨offset, rfl⟩))

theorem takes_prefixed {q : Expr → Prop} {w : View} (hk : keywordOf t ≠ some "NOT") (hs : signOf? t = none)
    {fuel : Nat}
    (h : Takes n (operand fuel) ⟨t :: ts, k⟩ w q) : Takes n (prefixed (fuel + 1)) ⟨t :: ts, k⟩ w q := by
  rw [prefixed]
  refine (leaves_keyword? hk).step (.neg (by decide) (takes_peek.step ?_))
  rw [Option.bind_some, hs]
  exact h

/-! ## Operators -/

variable {least : Nat} {a : Expr} {q r : Expr → Prop} {v w : View}

theorem Ends.mono {m : Nat} (h : Ends least t) (hm : least ≤ m) : Ends m t :=
  fun op hop => Nat.lt_of_lt_of_le (h op hop) hm

theorem leaves_continued (h : Ends least t) (fuel : Nat) (a : Expr) :
    Takes n (continued (fuel + 1) least a) ⟨t :: ts, k⟩ ⟨t :: ts, k⟩ (· = a) := by
  rw [continued]
  refine takes_peek.step ?_
  rw [Option.bind_some]
  cases hop : Infix.ofToken? t with
  | none => exact .done rfl
  | some op => exact .neg (Nat.not_le.mpr (h op hop)) (.done rfl)

theorem takes_continued (op : Infix) (hop : Infix.ofToken? t = some op) (hl : least ≤ op.level) {fuel : Nat}
    (happlied : Takes n (applied fuel op a) ⟨t :: ts, k⟩ v r)
    (hrest : ∀ b, r b → Takes n (continued fuel least b) v w q) :
    Takes n (continued (fuel + 1) least a) ⟨t :: ts, k⟩ w q := by
  rw [continued]
  refine takes_peek.step ?_
  rw [Option.bind_some, hop]
  exact .pos hl (happlied.bind hrest)

theorem takes_expressionOf {u : View} {fuel : Nat} (hp : Takes n (prefixed fuel) u v r)
    (hrest : ∀ b, r b → Takes n (continued fuel least b) v w q) : Takes n (expressionOf (fuel + 1) least) u w q := by
  rw [expressionOf]
  exact hp.bind hrest

/-- An operand that nothing goes on. -/
theorem takes_alone {u : View} {fuel : Nat} (hp : Takes n (prefixed (fuel + 1)) u ⟨t :: ts, k⟩ q) (h : Ends least t) :
    Takes n (expressionOf (fuel + 2) least) u ⟨t :: ts, k⟩ q :=
  takes_expressionOf hp fun b hb => (leaves_continued h fuel b).weaken fun _ hc => hc ▸ hb

theorem takes_prefixed_name (hd : t ≠ .symbol ".") (hp : t ≠ .symbol "(") (fuel : Nat) (s : String) :
    Takes n (prefixed (fuel + 3)) ⟨.name '`' s :: t :: ts, k⟩ ⟨t :: ts, k⟩ (IsColumn s) :=
  takes_prefixed (by simp [keywordOf]) rfl (takes_operand_name hd hp fuel s)

theorem takes_prefixed_parameter (hn : Numbers n (k + 1)) (fuel : Nat) :
    Takes n (prefixed (fuel + 2)) ⟨.parameter none :: ts, k⟩ ⟨ts, k + 1⟩ (IsParameter k) :=
  takes_prefixed (by simp [keywordOf]) rfl (takes_operand_parameter hn fuel)

theorem takes_column (hd : t ≠ .symbol ".") (hp : t ≠ .symbol "(") (h : Ends least t) (fuel : Nat) (s : String) :
    Takes n (expressionOf (fuel + 4) least) ⟨.name '`' s :: t :: ts, k⟩ ⟨t :: ts, k⟩ (IsColumn s) :=
  takes_alone (takes_prefixed_name hd hp fuel s) h

theorem takes_parameter (hn : Numbers n (k + 1)) (h : Ends least t) (fuel : Nat) :
    Takes n (expressionOf (fuel + 3) least) ⟨.parameter none :: t :: ts, k⟩ ⟨t :: ts, k + 1⟩ (IsParameter k) :=
  takes_alone (takes_prefixed_parameter hn fuel) h

/-! ## Predicates -/

theorem takes_equals (hn : Numbers n (k + 1)) (h : Ends 5 t) (fuel : Nat) (a : Expr) :
    Takes n (applied (fuel + 4) (.compare .eq) a) ⟨.symbol "=" :: .parameter none :: t :: ts, k⟩ ⟨t :: ts, k + 1⟩
      fun e => ∃ b, IsParameter k b ∧ e = .compare .eq a b := by
  rw [applied]
  exact takes_advance.bind fun _ _ => (takes_parameter hn h fuel).bind fun b hb => .done ⟨b, hb, rfl⟩

theorem takes_like (hn : Numbers n (k + 1)) (h : Ends 5 t) (he : keywordOf t ≠ some "ESCAPE")
    (fuel : Nat) (a : Expr) :
    Takes n (applied (fuel + 5) .pattern a) ⟨.word "LIKE" :: .parameter none :: t :: ts, k⟩ ⟨t :: ts, k + 1⟩
      fun e => ∃ b offset, IsParameter k b ∧ e = .call "LIKE" offset false [b, a] none := by
  rw [applied, patternTail]
  refine takes_offsetHere.bind fun offset _ => takes_peek.step (takes_advance.bind fun _ _ => ?_)
  refine (takes_parameter hn h fuel).bind fun b hb => (leaves_keyword? he).step (.neg (by decide) ?_)
  exact .done ⟨b, offset, hb, rfl⟩

/-- The tokens of a list of parameters, one for each value. -/
def parameterTokens (vs : List Value) : List Token := [.symbol ","].intercalate (vs.map fun _ => [.parameter none])

/-- The expressions are parameters with numbers from `k` on, one for each value. -/
abbrev AreParameters (k : Nat) (vs : List Value) (es : List Expr) : Prop :=
  Listed 1 (fun k _ e => IsParameter k e) k vs es

/-- What a reader must do with each item of a list, while there is room for its parameters; an
item is one token. -/
abbrev TakesItem (n : Nested) (most per : Nat) (q : Nat → Value → Expr → Prop) (token : Value → Token) (v : Value) :
    Prop :=
  ∀ (fuel : Nat) (t : Token) (ts : List Token) (k : Nat), t = .symbol "," ∨ t = .symbol ")" → k + per ≤ most →
    Takes n (expressionOf (fuel + 3) 1) ⟨token v :: t :: ts, k⟩ ⟨t :: ts, k + per⟩ (q k v)

/-- The tokens of a list of items. -/
def itemTokens (token : Value → Token) (vs : List Value) : List Token :=
  [.symbol ","].intercalate (vs.map fun v => [token v])

variable {most per : Nat} {token : Value → Token} {items : Nat → Value → Expr → Prop}

theorem takes_expressions (ts : List Token) {vs : List Value} (hne : vs ≠ [])
    (hitem : ∀ v ∈ vs, TakesItem n most per items token v) (fuel : Nat) (hf : vs.length + 3 ≤ fuel) (k : Nat)
    (hk : k + per * vs.length ≤ most) :
    Takes n (expressions fuel) ⟨itemTokens token vs ++ .symbol ")" :: ts, k⟩
      ⟨.symbol ")" :: ts, k + per * vs.length⟩ (Listed per items k vs) := by
  induction vs generalizing fuel k with
  | nil => exact absurd rfl hne
  | cons x vs ih =>
    obtain ⟨fuel, rfl⟩ : ∃ f, fuel = f + 4 := ⟨fuel - 4, by simp at hf; omega⟩
    have hx := hitem x List.mem_cons_self
    rw [expressions]
    cases vs with
    | nil =>
      rw [List.length_singleton, Nat.mul_one] at hk ⊢
      refine (hx fuel _ ts k (.inr rfl) hk).bind fun e he => ?_
      exact (leaves_symbol? (by decide)).step (.neg (by decide) (.done (.cons he .nil)))
    | cons y vs =>
      have hlength : k + per * (x :: y :: vs).length = k + per + per * (y :: vs).length := by
        simp only [List.length_cons, Nat.mul_add]
        omega
      rw [hlength] at hk
      rw [itemTokens, intercalate_comma, hlength]
      refine (hx fuel (.symbol ",") _ k (.inl rfl) (by omega)).bind fun e he => (takes_symbol? _).step (.pos rfl ?_)
      have htail := ih (by simp) (fun v hv => hitem v (List.mem_cons_of_mem _ hv)) (fuel + 3)
        (by simp at hf ⊢; omega) (k + per) hk
      exact htail.bind fun es hes => .done (.cons he hes)

/-- A list in brackets, which may be empty. -/
theorem takes_in (vs : List Value) (hitem : ∀ v ∈ vs, TakesItem n most per items token v)
    (hfirst : ∀ v ∈ vs, token v ≠ .symbol ")" ∧ ∀ w ∈ keywordOf (token v), w ∉ ["SELECT", "VALUES", "WITH"])
    (fuel : Nat) (hf : vs.length + 5 ≤ fuel) (hk : k + per * vs.length ≤ most) {s : String} {a : Expr}
    (ha : IsColumn s a) :
    Takes n (applied fuel .isIn a)
      ⟨.word "IN" :: .symbol "(" :: (itemTokens token vs ++ .symbol ")" :: ts), k⟩ ⟨ts, k + per * vs.length⟩
      fun e => ∃ es, Listed per items k vs es ∧ e = .among a es := by
  obtain ⟨fuel, rfl⟩ : ∃ f, fuel = f + 2 := ⟨fuel - 2, by omega⟩
  obtain ⟨offset, rfl⟩ := ha
  rw [applied, membership]
  refine takes_advance.bind fun _ _ => (takes_symbol? _).step (.neg (by decide) ?_)
  cases vs with
  | nil =>
    refine (leaves_beginsQuery (by simp [keywordOf])).step (.neg (by decide) ?_)
    exact (takes_symbol? _).step (.pos rfl (.done ⟨[], .nil, rfl⟩))
  | cons x vs =>
    obtain ⟨ts', hts⟩ : ∃ ts', itemTokens token (x :: vs) ++ .symbol ")" :: ts = token x :: ts' := by
      cases vs with
      | nil => exact ⟨_, rfl⟩
      | cons y vs => exact ⟨_, by rw [itemTokens, intercalate_comma]; rfl⟩
    obtain ⟨hclose, hquery⟩ := hfirst x List.mem_cons_self
    have hitems := takes_expressions ts (List.cons_ne_nil x vs) hitem fuel (by simp at hf ⊢; omega) k hk
    rw [hts] at hitems ⊢
    refine (leaves_beginsQuery hquery).step (.neg (by decide) ?_)
    refine (leaves_symbol? hclose).step (.neg (by decide) (hitems.bind fun es hes => ?_))
    exact (takes_symbol _).bind fun _ _ => .done ⟨es, hes, rfl⟩

end TableKeeper.Sql.Grammar
