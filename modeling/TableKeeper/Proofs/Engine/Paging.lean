import TableKeeper.Proofs.Engine.TableQueries
import TableKeeper.Proofs.Number.Rounding
import TableKeeper.Proofs.Pages
import TableKeeper.Proofs.Sql.Canonical

/-!
  TableKeeper.Proofs.Engine.Paging — what a limit and an offset leave of the rows.

  1. A numeral is its integer while it has 63 bits. One of 64 bits is a wide real, which is
     no bound (`boundOf_numeral`).
  2. The text of a limit and an offset is read to its end (`boundsRead?_page`), and there is
     no offset without a limit in front of it (`offset_after_limit`).
  3. So the engine leaves the page that the options ask for, or refuses the query when one
     of the two numbers does not fit 63 bits (`leftBy?_page`).
-/

namespace TableKeeper

namespace Sql.Grammar

open Number Text

/-! ## Numerals -/

theorem integer?_wide {ds : List Char} (h : 2 ^ 63 ≤ decimalValue ds) :
    Numeric.Parts.integer? ⟨false, ds, none, none⟩ = none := by
  have hrange : ¬(-2 ^ 63 ≤ signedValue false ds ∧ signedValue false ds < 2 ^ 63) := by
    rw [signedValue_false]
    omega
  rw [integer?_whole, if_neg hrange]

/-- A numeral of 64 bits that does not fit 63 is a wide real. -/
theorem numeralExpr_wide {j : Nat} (hlow : 2 ^ 63 ≤ j) (hhigh : j < 2 ^ 64) :
    ∃ x : Binary64, x.IsWide ∧ numeralExpr j = .literal (.real x) := by
  have hvalue := decimalValue_toString j
  unfold numeralExpr
  rw [numeral_eq_parts]
  by_cases hlowest : j = 2 ^ 63
  · rw [if_pos hlowest]
    exact ⟨.ofInt (2 ^ 63), ⟨by decide +kernel, by decide +kernel⟩, rfl⟩
  · rw [if_neg hlowest, Numeric.Parts.number, integer?_wide (by rwa [hvalue])]
    exact ⟨_, Numeric.real_wide (by rwa [hvalue]) (by rwa [hvalue]), rfl⟩

end Sql.Grammar

namespace Engine

open Sql Grammar Number Text

/-- A bound is the integer that is written, as long as it fits. -/
theorem boundOf_numeral {j : Nat} (hj : j < 2 ^ 64) :
    ∃ v, numeralExpr j = .literal v ∧ boundOf v = if j < 2 ^ 63 then .ok (j : Int) else .error .mismatch := by
  by_cases hfits : j < 2 ^ 63
  · refine ⟨.integer (.ofInt j), numeralExpr_eq hfits, ?_⟩
    rw [if_pos hfits]
    show Except.ok (Int64.ofInt j).toInt = _
    rw [toInt_ofInt hfits]
  · obtain ⟨x, hx, heq⟩ := numeralExpr_wide (Nat.le_of_not_lt hfits) hj
    refine ⟨.real x, heq, ?_⟩
    rw [if_neg hfits]
    have hstored : Affinity.store .integer (.real x) = .real x := by
      show Affinity.ofNumeric (Numeric.narrowed x) = _
      rw [hx.narrowed]
      rfl
    rw [boundOf, hstored]

/-! ## The text -/

/-- The limit and the offset that a text is read as at the end of a query. -/
def boundsRead? (text : String) : Option (Option Expr × Option Expr) :=
  let ls := lex text
  match (limit?.run { select := selectWithin .engine ls.length }).run { rest := ls, size := ls.length } with
  | (.ok r, c) => if isOver c.rest then some r else none
  | (.error _, _) => none

theorem dark_of_digit {n : Nat} {c : Char} (h : c ∈ (toString n).toList) : c.toNat ≠ 0 := by
  have hdigit := isDigit_of_mem_toString h
  intro hzero
  have hc : c = Char.ofNat 0 := by rw [← hzero, Char.ofNat_toNat]
  rw [hc] at hdigit
  exact absurd hdigit (by decide)

/-- No character ends the text before its end. -/
theorem page_dark (l o : Option UInt64) : ∀ c ∈ (pageText l o).toList, c.toNat ≠ 0 := by
  have hlimit : ∀ c ∈ " LIMIT ".toList, c.toNat ≠ 0 := by simp
  have hunlimited : ∀ c ∈ "-1".toList, c.toNat ≠ 0 := by simp
  have hoffset : ∀ c ∈ (offsetText o).toList, c.toNat ≠ 0 := by
    cases o with
    | some m =>
      intro c hc
      rw [offsetText, String.toList_append, List.mem_append] at hc
      rcases hc with hc | hc
      · revert c
        simp
      · exact dark_of_digit hc
    | none => simp [offsetText]
  intro c hc
  cases l with
  | some n =>
    rw [pageText_limit, String.toList_append, String.toList_append, List.mem_append, List.mem_append] at hc
    rcases hc with (hc | hc) | hc
    · exact hlimit c hc
    · exact dark_of_digit hc
    · exact hoffset c hc
  | none =>
    cases o with
    | some m =>
      rw [pageText_unlimited, String.toList_append, String.toList_append, List.mem_append, List.mem_append] at hc
      rcases hc with (hc | hc) | hc
      · exact hlimit c hc
      · exact hunlimited c hc
      · exact hoffset c hc
    | none => simp [pageText] at hc

theorem boundsRead?_page (l o : Option UInt64) :
    boundsRead? (pageText l o) = some (limitExpr? l o, offsetExpr? o) := by
  have htokens := (spells_page l o).tokens_eq
  obtain ⟨ls, hls⟩ : ∃ ls, lex (pageText l o) = ls := ⟨_, rfl⟩
  have hsees : Sees { rest := ls, size := ls.length }
      ⟨(limitSlots l o ++ offsetSlots o).map Slot.token ++ [.ending], 0⟩ := by
    refine ⟨?_, rfl, Nat.le_refl _⟩
    rw [← hls, lex_eq_lexemes (page_dark l o)]
    exact htokens
  have hshallow : Shallow { select := selectWithin .engine ls.length } := by
    intro h hh
    exact decide_eq_true (Nat.le_trans hh (by decide))
  obtain ⟨r, c, hrun, hc, rfl⟩ :=
    takes_limit hshallow (by decide) (by decide) (by decide) (by decide) _ hsees
  unfold boundsRead?
  rw [hls]
  simp only [hrun]
  rw [if_pos (isOver_ending hc.tokens)]

/-- An offset stands behind a limit. -/
theorem offset_after_limit {l o : Option UInt64} (h : "OFFSET".toList <:+: (pageText l o).toList) :
    " LIMIT ".toList <+: (pageText l o).toList := by
  cases l with
  | some n =>
    rw [pageText_limit, String.append_assoc, String.toList_append]
    exact List.prefix_append _ _
  | none =>
    cases o with
    | some m =>
      rw [pageText_unlimited, String.append_assoc, String.toList_append]
      exact List.prefix_append _ _
    | none => exact absurd h (by decide)

/-! ## Rows -/

variable {α : Type}

/-- What the engine leaves of the rows of a query that ends in a text; none if the text is no
limit and offset. -/
def leftBy? (text : String) (s : Scope) (f : Frame) (rows : List (Except Fault α)) :
    Option (Except Fault (List (Except Fault α))) :=
  (boundsRead? text).map fun r => do
    let limit ← resolve? s r.1
    let offset ← resolve? s r.2
    let (limit, offset) ← bounds limit offset f
    return bounded limit offset rows

theorem skipping_ok (n : Nat) (rows : List α) : skipping n (rows.map Except.ok) = (rows.drop n).map .ok := by
  induction n generalizing rows with
  | zero => rfl
  | succ n ih =>
    cases rows with
    | nil => rfl
    | cons row rows => exact ih rows

/-- A number of 64 bits as a bound. -/
def boundOfWord (x : UInt64) : Except Fault Int :=
  if x.toNat < 2 ^ 63 then .ok x.toNat else .error .mismatch

/-- A limit and the offset behind it, as bounds. -/
def limitBound (l k : Option UInt64) : Except Fault (Option Int) :=
  match l with
  | some x => (boundOfWord x).map some
  | none => .ok (k.map fun _ => -1)

def offsetBound (k : Option UInt64) : Except Fault (Option Int) :=
  match k with
  | some y => (boundOfWord y).map some
  | none => .ok none

theorem numeral_bound (s : Scope) (x : UInt64) :
    ∃ v : Option Value, resolve? s (some (numeralExpr x.toNat)) = .ok (v.map .literal) ∧
      v.mapM boundOf = (boundOfWord x).map some := by
  obtain ⟨v, hv, hbound⟩ := boundOf_numeral x.toNat_lt
  refine ⟨some v, ?_, ?_⟩
  · rw [hv, resolve?, resolve]
    rfl
  · show some <$> boundOf v = _
    rw [hbound]
    rfl

theorem limit_bound (s : Scope) (l k : Option UInt64) :
    ∃ v : Option Value, resolve? s (limitExpr? l k) = .ok (v.map .literal) ∧ v.mapM boundOf = limitBound l k := by
  cases l with
  | some x => exact numeral_bound s x
  | none =>
    cases k with
    | some y =>
      refine ⟨some (.integer (-1)), ?_, rfl⟩
      rw [limitExpr?, resolve?, resolve_minusOne]
      rfl
    | none => exact ⟨none, by rw [limitExpr?, resolve?]; rfl, rfl⟩

theorem offset_bound (s : Scope) (k : Option UInt64) :
    ∃ v : Option Value, resolve? s (offsetExpr? k) = .ok (v.map .literal) ∧ v.mapM boundOf = offsetBound k := by
  cases k with
  | some y => exact numeral_bound s y
  | none => exact ⟨none, by rw [offsetExpr?, Option.map_none, resolve?]; rfl, rfl⟩

theorem bounds_eq (limit offset : Option Value) (f : Frame) :
    bounds (limit.map .literal) (offset.map .literal) f = do
      let limit ← limit.mapM boundOf
      if limit = some 0 then return (limit, 0)
      let offset ← offset.mapM boundOf
      return (limit, offset.getD 0) := by
  cases limit <;> cases offset <;> simp [bounds, evaluate, ok_bind]

/-- What the engine makes of the text of a limit and an offset. -/
theorem leftBy?_eq (l k : Option UInt64) (s : Scope) (f : Frame) (rows : List (Except Fault α)) :
    leftBy? (pageText l k) s f rows = some do
      let limit ← limitBound l k
      if limit = some 0 then return bounded limit 0 rows
      let offset ← offsetBound k
      return bounded limit (offset.getD 0) rows := by
  obtain ⟨v, hv, hlimit⟩ := limit_bound s l k
  obtain ⟨w, hw, hoffset⟩ := offset_bound s k
  rw [leftBy?, boundsRead?_page, Option.map_some, hv, hw, ok_bind, ok_bind, bounds_eq, hlimit, hoffset]
  cases limitBound l k with
  | error e => rfl
  | ok limit =>
    rw [ok_bind, ok_bind]
    by_cases hzero : limit = some 0
    · rw [if_pos hzero, if_pos hzero]
      rfl
    · rw [if_neg hzero, if_neg hzero]
      cases offsetBound k with
      | error e => rfl
      | ok offset => rfl

/-- Numbers that fit leave the page, and others refuse the query. -/
theorem leftBy?_page (o : QueryOptions) (s : Scope) (f : Frame) (rows : List α) :
    leftBy? (pageText o.limit? o.offset?) s f (rows.map .ok) =
      some (if o.fits = true then .ok ((o.page rows).map .ok) else .error .mismatch) := by
  rw [leftBy?_eq, o.fits_eq, o.page_eq]
  have hfitting : ∀ y : UInt64, y.toNat < 2 ^ 63 → boundOfWord y = .ok (y.toNat : Int) := fun y hy => if_pos hy
  have hrefused : ∀ y : UInt64, ¬y.toNat < 2 ^ 63 → boundOfWord y = .error .mismatch := fun y hy => if_neg hy
  cases hlimit : o.limit? with
  | none =>
    cases o.offset? with
    | none => rfl
    | some y =>
      by_cases hy : y.toNat < 2 ^ 63
      · simp [limitBound, offsetBound, hfitting y hy, ok_bind, bounded, skipping_ok, hy, Except.map]
      · simp [limitBound, offsetBound, hrefused y hy, ok_bind, hy, Except.map]
  | some x =>
    have hzero : x.toNat ≠ 0 := by
      have hnonzero := (Option.filter_eq_some_iff.mp hlimit).2
      simpa [← UInt64.toNat_inj] using hnonzero
    by_cases hx : x.toNat < 2 ^ 63
    · cases o.offset? with
      | none => simp [limitBound, offsetBound, hfitting x hx, ok_bind, bounded, skipping_ok, hx, hzero, Except.map]
      | some y =>
        by_cases hy : y.toNat < 2 ^ 63
        · simp [limitBound, offsetBound, hfitting x hx, hfitting y hy, ok_bind, bounded, skipping_ok, hx, hy, hzero,
            Except.map]
        · simp [limitBound, offsetBound, hfitting x hx, hrefused y hy, ok_bind, hx, hy, hzero, Except.map]
    · simp [limitBound, hrefused x hx, hx, Except.map]
      rfl

/-- The clause of a limit and an offset names no offset without a limit. The engine reads all of
it, and leaves the page that is asked for while both numbers fit 64 bits with a sign. -/
theorem clause_leaves_page (o : QueryOptions) (s : Scope) (f : Frame) (rows : List α) :
    ("OFFSET".toList <:+: (pageText o.limit? o.offset?).toList →
      " LIMIT ".toList <+: (pageText o.limit? o.offset?).toList) ∧
    leftBy? (pageText o.limit? o.offset?) s f (rows.map .ok) =
      some (if o.fits = true then .ok ((o.page rows).map .ok) else .error .mismatch) :=
  ⟨offset_after_limit, leftBy?_page o s f rows⟩

/-- An offset alone, behind a limit that bounds nothing. -/
theorem offset_leaves_rest :
    " LIMIT ".toList <+: (pageText none (some 2)).toList ∧
      leftBy? (pageText none (some 2)) {} { params := #[] } [.ok 7, .ok 8, .ok 9] = some (.ok [.ok 9]) := by
  have h := clause_leaves_page { limit := some 0, offset := some 2 } {} { params := #[] } [7, 8, 9]
  have hlimit : QueryOptions.limit? { limit := some 0, offset := some 2 } = none := by decide
  have hoffset : QueryOptions.offset? { limit := some 0, offset := some 2 } = some 2 := by decide
  rw [hlimit, hoffset] at h
  refine ⟨h.1 ⟨" LIMIT -1 ".toList, " 2".toList, by decide⟩, ?_⟩
  exact h.2

/-- A limit of `2 ^ 63` would leave the one row that there is, and is refused. -/
theorem wide_limit_refused :
    leftBy? (pageText (QueryOptions.limit? { limit := some 9223372036854775808 }) none) {} { params := #[] } [.ok 7] ≠
      some (.ok ((QueryOptions.page { limit := some 9223372036854775808 } [7]).map .ok)) := by
  have h := leftBy?_page { limit := some 9223372036854775808 } {} { params := #[] } [7]
  have hfits : QueryOptions.fits { limit := some 9223372036854775808 } = false := by decide
  rw [hfits, if_neg (by decide)] at h
  intro heq
  have hsame := h.symm.trans heq
  cases hsame

end Engine
end TableKeeper
