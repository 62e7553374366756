import TableKeeper.Proofs.Sql.Lexing

/-!
  TableKeeper.Proofs.Sql.Numerals — a numeral of 63 bits is read as its number.
-/

namespace TableKeeper.Sql

open Number Text

/-- Digits behind a sign are an integer where they fit one. -/
theorem integer?_whole (negative : Bool) (ds : List Char) : Numeric.Parts.integer? ⟨negative, ds, none, none⟩ =
    if -2 ^ 63 ≤ signedValue negative ds ∧ signedValue negative ds < 2 ^ 63 then some (.ofInt (signedValue negative ds))
    else none := rfl

theorem integer?_plain {ds : List Char} (h : decimalValue ds < 2 ^ 63) :
    Numeric.Parts.integer? ⟨false, ds, none, none⟩ = some (.ofInt (decimalValue ds)) := by
  have hrange : -2 ^ 63 ≤ signedValue false ds ∧ signedValue false ds < 2 ^ 63 := by
    rw [signedValue_false]
    omega
  rw [integer?_whole, if_pos hrange, signedValue_false]

/-- Digits with a minus or without one are the whole of a number. -/
theorem ofText?_signed {ds : List Char} (hne : ds ≠ []) (hd : ∀ c ∈ ds, c.isDigit = true) (negative : Bool) :
    Numeric.ofText? (.ofList (Layout.signed negative ds)) =
      some (Numeric.Parts.number ⟨negative, ds, none, none⟩) := by
  obtain ⟨d, rest, rfl⟩ := List.exists_cons_of_ne_nil hne
  obtain ⟨-, hspace, -, -⟩ := digit_begins_number (hd d List.mem_cons_self)
  have hblank : (Layout.signed negative (d :: rest)).dropWhile Numeric.isSpace = Layout.signed negative (d :: rest) := by
    cases negative with
    | true => exact List.dropWhile_cons_of_neg (by decide)
    | false => exact List.dropWhile_cons_of_neg (by simp [hspace])
  have hsign : readSign (Layout.signed negative (d :: rest)) = (negative, d :: rest) :=
    readSign_signed negative fun c hc => hd c (List.mem_of_mem_head? hc)
  have htake : (d :: rest).takeWhile Char.isDigit = d :: rest := List.takeWhile_eq_self_iff.mpr hd
  have hdrop : (d :: rest).dropWhile Char.isDigit = [] := List.dropWhile_eq_nil_iff.mpr hd
  have hparts : Numeric.parts? (Layout.signed negative (d :: rest)) = some ⟨negative, d :: rest, none, none⟩ := by
    simp [Numeric.parts?, Numeric.leading, hblank, hsign, htake, hdrop, Numeric.readFraction, readExponent?]
  rw [Numeric.ofText?, String.toList_ofList, hparts, Option.map_some]

/-- The text of an integer is read as the integer. -/
theorem ofText?_toString (n : Int64) : Numeric.ofText? (toString n.toInt) = some (.integer n) := by
  have hlow := n.le_toInt
  have hhigh := n.toInt_lt
  have hback : Int64.ofInt n.toInt = n := Int64.ofInt_toInt n
  obtain ⟨negative, k, htext, hvalue, -⟩ := toString_toInt n
  have h := ofText?_signed (toString_ne_nil k) (fun c hc => isDigit_of_mem_toString hc) negative
  rw [← htext, String.ofList_toList] at h
  rw [h, Numeric.Parts.number, integer?_whole, signedValue_toString, hvalue, if_pos ⟨hlow, hhigh⟩, hback]

/-- A numeral is the number of its digits. The first that is too large for an integer has a
token of its own, since it may follow a minus. -/
theorem numeral_eq_parts (k : Nat) :
    numeral k = if k = 2 ^ 63 then .lowest else .number (Numeric.Parts.number ⟨false, (toString k).toList, none, none⟩) := by
  have hd : ∀ c ∈ (toString k).toList, c.isDigit = true := fun c hc => isDigit_of_mem_toString hc
  have hwhole : Token.undivided (toString k).toList = (toString k).toList :=
    List.filter_eq_self.mpr fun c hc => by
      have hdigit := hd c hc
      simp only [ne_eq, decide_eq_true_eq]
      rintro rfl
      exact absurd hdigit (by decide)
  have hparts := ofText?_signed (toString_ne_nil k) hd false
  rw [Layout.signed, if_neg (by decide)] at hparts
  have hall : (toString k).toList.all Char.isDigit = true := List.all_eq_true.mpr hd
  have hvalue := decimalValue_toString k
  have hdivided := wellDivided_of_all Char.isDigit (by decide) hd
  unfold numeral Token.decimalToken
  dsimp only
  rw [hwhole, hdivided, hparts, if_neg (by decide)]
  by_cases hk : k = 2 ^ 63
  · rw [if_pos hk, if_pos ⟨hall, hvalue.trans hk⟩]
  · rw [if_neg hk, if_neg fun h => hk (hvalue.symm.trans h.2), Option.getD_some]

theorem numeral_cases (k : Nat) : (∃ x, numeral k = .number x) ∨ numeral k = .lowest := by
  rw [numeral_eq_parts]
  split
  · exact .inr rfl
  · exact .inl ⟨_, rfl⟩

/-- A numeral below `2 ^ 63` is the token of its number. -/
theorem numeral_eq {k : Nat} (h : k < 2 ^ 63) : numeral k = .number (.integer (.ofInt k)) := by
  have hvalue := decimalValue_toString k
  rw [numeral_eq_parts, if_neg (by omega), Numeric.Parts.number, integer?_plain (by rwa [hvalue]), hvalue]

theorem toInt_ofInt {k : Nat} (h : k < 2 ^ 63) : (Int64.ofInt k).toInt = k :=
  Int64.toInt_ofInt_of_le (by omega) (by omega)

end TableKeeper.Sql
