import TableKeeper.Proofs.Sql.Spelling

/-!
  TableKeeper.Proofs.Sql.Canonical — a clause and its values tell what they were compiled from.

  1. Tokens with values leave no choice for a part: it can be cut off the front, and what is
     behind it stays (`Cut`). That holds of predicates and order terms, and of lists of parts
     as long as what follows does not go on like a part (`Cut.listing`).
  2. Tokens do not keep a numeral apart from another beyond the range of integers, so the page
     is cut off from the text by its digits (`pageText_injective`).
  3. A clause and its values are the same exactly for the same filter, the same order terms
     with a meaning, and the same page (`compile_bound_iff`).
-/

namespace TableKeeper.Sql

open Slot Text

variable {α β : Type}

/-! ## Parts that can be cut off the front -/

/-- In front of anything, `part x` tells `x` and what is behind it. -/
def Cut (part : α → List β) : Prop := ∀ {x y : α} {r s : List β}, part x ++ r = part y ++ s → x = y ∧ r = s

/-- Parts behind separators are cut off one by one, where what follows them is no separator. -/
theorem Cut.following {part : α → List β} (h : Cut part) {sep : β} {r s : List β} (hr : r.head? ≠ some sep)
    (hs : s.head? ≠ some sep) {xs ys : List α}
    (heq : (xs.map part).flatMap (sep :: ·) ++ r = (ys.map part).flatMap (sep :: ·) ++ s) : xs = ys ∧ r = s := by
  induction xs generalizing ys with
  | nil =>
    cases ys with
    | nil => exact ⟨rfl, heq⟩
    | cons y ys => exact absurd (congrArg List.head? heq) hr
  | cons x xs ih =>
    cases ys with
    | nil => exact absurd (congrArg List.head? heq.symm) hs
    | cons y ys =>
      simp only [List.map_cons, List.flatMap_cons, List.append_assoc, List.cons_append, List.cons.injEq,
        true_and] at heq
      obtain ⟨rfl, hrest⟩ := h heq
      obtain ⟨rfl, rfl⟩ := ih hrest
      exact ⟨rfl, rfl⟩

theorem Cut.intercalate {part : α → List β} (h : Cut part) {sep : β} {r s : List β} (hr : r.head? ≠ some sep)
    (hs : s.head? ≠ some sep) {x y : α} {xs ys : List α}
    (heq : [sep].intercalate ((x :: xs).map part) ++ r = [sep].intercalate ((y :: ys).map part) ++ s) :
    x :: xs = y :: ys ∧ r = s := by
  rw [List.map_cons, List.map_cons, intercalate_cons_flatMap, intercalate_cons_flatMap, List.append_assoc,
    List.append_assoc] at heq
  obtain ⟨rfl, hrest⟩ := h heq
  obtain ⟨rfl, rfl⟩ := h.following hr hs hrest
  exact ⟨rfl, rfl⟩

/-! ## Slots as they are seen -/

/-- What is seen of a slot: its token, and the value that is sent for it. -/
def Slot.seen (s : Slot) : Token × Option Value := (s.token, s.sent?)

theorem sent?_isSome (s : Slot) : s.sent?.isSome ↔ s.token = .parameter none := by
  constructor
  · intro h
    cases s <;> cases h
    rfl
  · exact fun h => (token_eq_parameter h).2

/-- Tokens and values together are what is seen. -/
theorem seen_eq {xs ys : List Slot} (htokens : xs.map token = ys.map token) (hvalues : valuesOf xs = valuesOf ys) :
    xs.map seen = ys.map seen := by
  induction xs generalizing ys with
  | nil => rw [List.map_eq_nil_iff.mp htokens.symm]
  | cons x xs ih =>
    obtain ⟨y, ys, rfl, hxy, hrest⟩ := List.map_eq_cons_iff.mp htokens.symm
    rw [valuesOf_cons, valuesOf_cons] at hvalues
    have hsome : x.sent?.isSome = y.sent?.isSome := by
      rw [Bool.eq_iff_iff, sent?_isSome, sent?_isSome, hxy]
    have hsent : x.sent? = y.sent? ∧ valuesOf xs = valuesOf ys := by
      cases hx : x.sent? with
      | none =>
        have hy : y.sent? = none := by simpa [hx] using hsome.symm
        simpa [hx, hy] using hvalues
      | some v =>
        obtain ⟨w, hy⟩ := Option.isSome_iff_exists.mp (by simpa [hx] using hsome.symm)
        simpa [hx, hy] using hvalues
    simp only [List.map_cons, seen, ih hrest.symm hsent.2, hxy, hsent.1]

theorem seen_intercalate (sep : Slot) (slots : α → List Slot) (xs : List α) :
    ([sep].intercalate (xs.map slots)).map seen = [sep.seen].intercalate (xs.map fun x => (slots x).map seen) := by
  rw [map_intercalate, List.map_map]
  rfl

/-! ## Predicates and order terms -/

theorem cut_parameter : Cut fun v : Value => [parameter v].map seen := by
  intro v w r s h
  simpa [seen, token, sent?] using h

/-- A list in brackets, which may be empty, with the bracket that ends it. -/
theorem cut_items {vs ws : List Value} {r s : List (Token × Option Value)}
    (h : (commaSlots (vs.map fun v => [parameter v])).map seen ++ (mark ")").seen :: r =
      (commaSlots (ws.map fun v => [parameter v])).map seen ++ (mark ")").seen :: s) : vs = ws ∧ r = s := by
  have hclose : ∀ r : List (Token × Option Value), ((mark ")").seen :: r).head? ≠ some (mark ",").seen := by
    intro r
    simp [seen, token]
  simp only [commaSlots, seen_intercalate] at h
  cases vs with
  | nil =>
    cases ws with
    | nil => exact ⟨rfl, (List.cons.inj h).2⟩
    | cons w ws => cases ws <;> simp [seen, token, List.intercalate_cons_cons] at h
  | cons v vs =>
    cases ws with
    | nil => cases vs <;> simp [seen, token, List.intercalate_cons_cons] at h
    | cons w ws =>
      obtain ⟨hitems, hrest⟩ := cut_parameter.intercalate (hclose r) (hclose s) h
      exact ⟨hitems, (List.cons.inj hrest).2⟩

theorem cut_predicate : Cut fun e : String × Constraint => (predicateSlots .bound e).map seen := by
  rintro ⟨field, c⟩ ⟨field', c'⟩ r s h
  cases c with
  | equals v =>
    cases c' with
    | equals v' => simpa [predicateSlots, seen, token, sent?, and_assoc] using h
    | «matches» p' => simp [predicateSlots, seen, token] at h
    | oneOf vs' => simp [predicateSlots, seen, token] at h
  | «matches» p =>
    cases c' with
    | equals v' => simp [predicateSlots, seen, token] at h
    | «matches» p' =>
      obtain ⟨body⟩ := p
      obtain ⟨body'⟩ := p'
      simpa [predicateSlots, seen, token, sent?, and_assoc] using h
    | oneOf vs' => simp [predicateSlots, seen, token] at h
  | oneOf vs =>
    cases c' with
    | equals v' => simp [predicateSlots, seen, token] at h
    | «matches» p' => simp [predicateSlots, seen, token] at h
    | oneOf vs' =>
      simp only [predicateSlots, itemSlot, List.map_append, List.map_cons, List.map_nil, List.append_assoc,
        List.cons_append, List.nil_append, List.cons.injEq, true_and] at h
      obtain ⟨hname, hitems⟩ := h
      obtain ⟨rfl, rfl⟩ := cut_items hitems
      have hfield : field = field' := by simpa [seen, token, sent?] using hname
      exact ⟨by rw [hfield], rfl⟩

/-- What differs for the two directions tells them apart. -/
theorem direction_injective {f : Direction → α} (hne : f .ascending ≠ f .descending) {d e : Direction} (h : f d = f e) :
    d = e := by
  cases d with
  | ascending =>
    cases e with
    | ascending => rfl
    | descending => exact absurd h hne
  | descending =>
    cases e with
    | ascending => exact absurd h.symm hne
    | descending => rfl

theorem cut_orderTerm : Cut fun t : String × Direction => [name t.1, word t.2.text].map seen := by
  rintro ⟨n, d⟩ ⟨n', d'⟩ r s h
  simp only [List.map_cons, List.map_nil, List.cons_append, List.nil_append, List.cons.injEq, seen, token, sent?,
    Prod.mk.injEq, Token.name.injEq, Token.word.injEq, and_true, true_and] at h
  obtain ⟨rfl, hd, rfl⟩ := h
  exact ⟨by rw [direction_injective (by decide) hd], rfl⟩

/-! ## Listings -/

theorem cut_listing {slots : α → List Slot} (h : Cut fun x => (slots x).map seen) {first sep : Slot}
    {lead : List Slot} {r s : List (Token × Option Value)}
    (hr : r.head? ≠ some first.seen ∧ r.head? ≠ some sep.seen) (hs : s.head? ≠ some first.seen ∧ s.head? ≠ some sep.seen)
    {xs ys : List α}
    (heq : (listingSlots (first :: lead) [sep] (xs.map slots)).map seen ++ r =
      (listingSlots (first :: lead) [sep] (ys.map slots)).map seen ++ s) : xs = ys ∧ r = s := by
  cases xs with
  | nil =>
    cases ys with
    | nil => exact ⟨rfl, heq⟩
    | cons y ys => exact absurd (congrArg List.head? heq) hr.1
  | cons x xs =>
    cases ys with
    | nil => exact absurd (congrArg List.head? heq.symm) hs.1
    | cons y ys =>
      have hlisting : ∀ z zs, listingSlots (first :: lead) [sep] ((z :: zs).map slots) =
          (first :: lead) ++ [sep].intercalate ((z :: zs).map slots) := fun _ _ => rfl
      rw [hlisting, hlisting, List.map_append, List.map_append, List.append_assoc, List.append_assoc] at heq
      have hparts := List.append_cancel_left heq
      rw [seen_intercalate, seen_intercalate] at hparts
      exact h.intercalate hr.2 hs.2 hparts

/-- What may begin a page. -/
def pageHeads : List (Option (Token × Option Value)) := [none, some (word "LIMIT").seen]

/-- What may begin an order with the page behind it. -/
def orderHeads : List (Option (Token × Option Value)) := some (word "ORDER").seen :: pageHeads

/-- The slots of the page. -/
def pageSlots (o : QueryOptions) : List Slot := limitSlots o.limit? o.offset? ++ offsetSlots o.offset?

theorem head?_page (o : QueryOptions) : ((pageSlots o).map seen).head? ∈ pageHeads := by
  unfold pageSlots
  cases o.limit? with
  | some n => exact .tail _ (.head _)
  | none =>
    cases o.offset? with
    | some m => exact .tail _ (.head _)
    | none => exact .head _

theorem head?_order (o : QueryOptions) : ((orderSlots o).map seen ++ (pageSlots o).map seen).head? ∈ orderHeads := by
  unfold orderSlots
  cases orderOf o with
  | nil => exact .tail _ (head?_page o)
  | cons t ts => exact .head _

/-- The slots of a bound clause tell the filter and the order. -/
theorem clause_parts {f g : Filter} {o p : QueryOptions}
    (h : (clauseSlots .bound f o).map seen = (clauseSlots .bound g p).map seen) : f = g ∧ orderOf o = orderOf p := by
  have hpage : ∀ q : QueryOptions, ∀ x ∉ pageHeads, ((pageSlots q).map seen).head? ≠ x := fun q x hx hq =>
    hx (hq ▸ head?_page q)
  have horder : ∀ q : QueryOptions, ∀ x ∉ orderHeads,
      ((orderSlots q).map seen ++ (pageSlots q).map seen).head? ≠ x := fun q x hx hq => hx (hq ▸ head?_order q)
  have hclause : ∀ (f : Filter) (o : QueryOptions), (clauseSlots .bound f o).map seen =
      (filterSlots .bound f).map seen ++ ((orderSlots o).map seen ++ (pageSlots o).map seen) := by
    intro f o
    simp only [clauseSlots, pageSlots, List.map_append, List.append_assoc]
  rw [hclause, hclause] at h
  obtain ⟨hentries, hrest⟩ := cut_listing cut_predicate ⟨horder o _ (by decide), horder o _ (by decide)⟩
    ⟨horder p _ (by decide), horder p _ (by decide)⟩ h
  obtain ⟨hterms, -⟩ := cut_listing cut_orderTerm ⟨hpage o _ (by decide), hpage o _ (by decide)⟩
    ⟨hpage p _ (by decide), hpage p _ (by decide)⟩ hrest
  exact ⟨OrderedMap.ext hentries, hterms⟩

/-! ## Pages -/

/-- An offset as it ends a page. -/
def offsetText : Option UInt64 → String
  | some n => " OFFSET " ++ toString n.toNat
  | none => ""

theorem offsetText_head (offset : Option UInt64) :
    ∀ c ∈ (offsetText offset).toList.head?, c.isDigit = false := by
  cases offset with
  | some n =>
    intro c hc
    have hblank : c = ' ' := by simpa [offsetText, eq_comm] using hc
    rw [hblank]
    decide
  | none => simp [offsetText]

theorem numeral_injective {m n : UInt64} (h : (toString m.toNat).toList = (toString n.toNat).toList) : m = n := by
  rw [← List.append_nil (toString m.toNat).toList, ← List.append_nil (toString n.toNat).toList] at h
  exact UInt64.toNat_inj.mp (toString_cut (by simp) (by simp) h).1

theorem offsetText_injective {offset offset' : Option UInt64}
    (h : (offsetText offset).toList = (offsetText offset').toList) : offset = offset' := by
  cases offset with
  | some n =>
    cases offset' with
    | some n' =>
      simp only [offsetText, String.toList_append] at h
      exact congrArg some (numeral_injective (List.append_cancel_left h))
    | none => simp [offsetText] at h
  | none =>
    cases offset' with
    | some n' => simp [offsetText] at h
    | none => rfl

theorem pageText_limit (n : UInt64) (offset : Option UInt64) :
    pageText (some n) offset = " LIMIT " ++ toString n.toNat ++ offsetText offset := by
  cases offset <;> rfl

theorem pageText_unlimited (m : UInt64) : pageText none (some m) = " LIMIT " ++ "-1" ++ offsetText (some m) := by
  have hlimit : " LIMIT -1" = " LIMIT " ++ "-1" := by decide
  rw [← hlimit]
  rfl

/-- No number is spelled like the limit that bounds nothing. -/
theorem pageText_limit_ne (n : UInt64) (offset offset' : Option UInt64) :
    pageText (some n) offset ≠ pageText none offset' := by
  intro h
  have hchars := congrArg String.toList h
  rw [pageText_limit, String.toList_append, String.toList_append, List.append_assoc] at hchars
  cases offset' with
  | none => simp [pageText] at hchars
  | some m =>
    rw [pageText_unlimited, String.toList_append, String.toList_append, List.append_assoc] at hchars
    obtain ⟨c, cs, hdigits⟩ := List.exists_cons_of_ne_nil (show (toString n.toNat).toList ≠ [] by simp)
    have hrest := List.append_cancel_left hchars
    rw [hdigits] at hrest
    have hminus : c = '-' := by simpa using congrArg List.head? hrest
    have hdigit : c.isDigit = true := isDigit_of_mem_toString (hdigits ▸ List.mem_cons_self)
    rw [hminus] at hdigit
    exact absurd hdigit (by decide)

theorem pageText_injective {limit offset limit' offset' : Option UInt64}
    (h : pageText limit offset = pageText limit' offset') : limit = limit' ∧ offset = offset' := by
  cases limit with
  | some n =>
    cases limit' with
    | none => exact absurd h (pageText_limit_ne n offset offset')
    | some n' =>
      have hchars := congrArg String.toList h
      simp only [pageText_limit, String.toList_append, List.append_assoc] at hchars
      obtain ⟨hn, hoffset⟩ := toString_cut (offsetText_head offset) (offsetText_head offset')
        (List.append_cancel_left hchars)
      exact ⟨congrArg some (UInt64.toNat_inj.mp hn), offsetText_injective hoffset⟩
  | none =>
    cases limit' with
    | some n' => exact absurd h.symm (pageText_limit_ne n' offset' offset)
    | none =>
      have hchars := congrArg String.toList h
      cases offset with
      | none =>
        cases offset' with
        | none => exact ⟨rfl, rfl⟩
        | some m' => simp [pageText] at hchars
      | some m =>
        cases offset' with
        | none => simp [pageText] at hchars
        | some m' =>
          simp only [pageText_unlimited, String.toList_append] at hchars
          exact ⟨rfl, offsetText_injective (List.append_cancel_left hchars)⟩

/-! ## Clauses -/

/-- The direction has a meaning. -/
def isDirected (t : String × Int64) : Bool := t.2 == 1 || t.2 == -1

def Direction.sign : Direction → Int64
  | ascending => 1
  | descending => -1

theorem directionOf?_eq_some {x : Int64} {d : Direction} (h : directionOf? x = some d) : d.sign = x := by
  unfold directionOf? at h
  split at h
  next hx => cases h; exact hx.symm
  · split at h
    next hx => cases h; exact hx.symm
    · cases h

theorem directionOf?_isSome (t : String × Int64) : (directionOf? t.2).isSome = isDirected t := by
  unfold directionOf? isDirected
  by_cases hup : t.2 = 1
  · simp [hup, QueryOptions.ascending]
  · by_cases hdown : t.2 = -1
    · simp [hdown, QueryOptions.ascending, QueryOptions.descending]
    · simp [hup, hdown, QueryOptions.ascending, QueryOptions.descending]

/-- The order that is written out and the order entries with a meaning are one and the same. -/
theorem filter_directed (order : List (String × Int64)) :
    order.filter isDirected =
      (order.filterMap fun t => (directionOf? t.2).map (t.1, ·)).map fun t => (t.1, t.2.sign) := by
  induction order with
  | nil => rfl
  | cons t ts ih =>
    cases hd : directionOf? t.2 with
    | none =>
      have hnot : isDirected t = false := by rw [← directionOf?_isSome, hd]; rfl
      simp [hnot, hd, ih]
    | some d =>
      have hdirected : isDirected t = true := by rw [← directionOf?_isSome, hd]; rfl
      simp [hdirected, hd, ih, directionOf?_eq_some hd]

theorem orderOf_eq_iff {o p : QueryOptions} :
    orderOf o = orderOf p ↔ o.order.filter isDirected = p.order.filter isDirected := by
  rw [filter_directed, filter_directed]
  refine (List.map_inj_right fun t u h => ?_).symm
  obtain ⟨hname, hsign⟩ := Prod.mk.inj h
  exact Prod.ext hname (direction_injective (by decide) hsign)

/-- A bound that bounds nothing counts as unset. -/
theorem filter_ne_zero_iff {m n : Option UInt64} : m.filter (· ≠ 0) = n.filter (· ≠ 0) ↔ m.getD 0 = n.getD 0 := by
  have hset : ∀ k : Option UInt64, (k.filter (· ≠ 0)).getD 0 = k.getD 0 := by
    intro k
    cases k with
    | none => rfl
    | some k =>
      by_cases hk : k = 0
      · simp [Option.filter, hk]
      · simp [Option.filter, hk]
  constructor
  · intro h
    rw [← hset m, h, hset n]
  · intro h
    cases m <;> cases n <;> grind

/-- With names that back-ticks keep, a bound clause and its values are the same exactly for the
same filter, the same order entries with a meaning, and the same limit and offset. -/
theorem compile_bound_iff {f g : Filter} {o p : QueryOptions} (hf : PlainNames f) (hg : PlainNames g)
    (ho : ∀ t ∈ o.order, Plain t.1) (hp : ∀ t ∈ p.order, Plain t.1) :
    ((compile .bound f o).text = (compile .bound g p).text ∧ (compile .bound f o).values = (compile .bound g p).values) ↔
      f = g ∧ o.order.filter isDirected = p.order.filter isDirected ∧ o.limit.getD 0 = p.limit.getD 0 ∧
        o.offset.getD 0 = p.offset.getD 0 := by
  have hspelled : ∀ {f : Filter} {o : QueryOptions}, PlainNames f → (∀ t ∈ o.order, Plain t.1) →
      Spells (compile .bound f o).text (clauseSlots .bound f o) := fun {f o} hf ho =>
    spells_clause .bound (o := { o with fields := none }) ⟨hf, ho, nofun⟩
  rw [← orderOf_eq_iff, ← filter_ne_zero_iff, ← filter_ne_zero_iff]
  constructor
  · rintro ⟨htext, hvalues⟩
    have htokens : (clauseSlots .bound f o).map token ++ [.ending] = (clauseSlots .bound g p).map token ++ [.ending] := by
      rw [← (hspelled hf ho).tokens_eq, htext, (hspelled hg hp).tokens_eq]
    rw [← valuesOf_clause, ← valuesOf_clause] at hvalues
    obtain ⟨rfl, horder⟩ := clause_parts (seen_eq (List.append_cancel_right htokens) hvalues)
    -- The texts agree up to the page, so their pages do.
    simp only [Compiled.text, Clause.text, compile, horder] at htext
    have hpage := pageText_injective (String.append_right_inj _ |>.mp htext)
    exact ⟨rfl, horder, hpage⟩
  · rintro ⟨rfl, horder, hlimit, hoffset⟩
    have hclause : compile .bound f o = compile .bound f p := by
      simp only [compile, horder, QueryOptions.limit?, QueryOptions.offset?, hlimit, hoffset]
    exact ⟨by rw [hclause], by rw [hclause]⟩

/-- A name like the text of a condition, and a text that is equal or matches. -/
def namedLikeText : Filter := .ofList [("a=? AND b IN (", .equals (.text "x")), (" ORDER BY c", .oneOf [.null])]

def matchingInstead : Filter := .ofList [("a=? AND b IN (", .matches ⟨"x"⟩), (" ORDER BY c", .oneOf [.null])]

/-- A direction without a meaning and a limit of zero change nothing, but a pattern in the
place of a text does, although the values are the same. -/
theorem text_or_pattern_compiled :
    ((compile .bound namedLikeText { order := [("n", 7), ("LIMIT -1", 1)], limit := some 0 }).text =
        (compile .bound namedLikeText { order := [("LIMIT -1", 1)] }).text ∧
      (compile .bound namedLikeText { order := [("n", 7), ("LIMIT -1", 1)], limit := some 0 }).values =
        (compile .bound namedLikeText { order := [("LIMIT -1", 1)] }).values) ∧
      ¬ ((compile .bound namedLikeText {}).text = (compile .bound matchingInstead {}).text ∧
        (compile .bound namedLikeText {}).values = (compile .bound matchingInstead {}).values) :=
  have hplain : PlainNames namedLikeText := by decide
  ⟨(compile_bound_iff hplain hplain (by decide) (by decide)).mpr ⟨rfl, by decide, by decide, by decide⟩,
    fun h => absurd ((compile_bound_iff hplain (by decide) (by decide) (by decide)).mp h).1 (by decide)⟩

end TableKeeper.Sql
