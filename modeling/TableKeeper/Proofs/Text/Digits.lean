import Mathlib.Data.List.Induction
import Mathlib.Data.List.TakeWhile
import Mathlib.Data.Nat.Digits.Defs
import TableKeeper.Number.Layout
import TableKeeper.Text.Blank
import TableKeeper.Text.Digits

/-!
  TableKeeper.Proofs.Text.Digits — the digits of a number are the number.

  1. A number is written in digits, at least one, and reads as itself (`decimalValue_toString`).
     Only zero begins with a zero (`toString_zeros`).
  2. The digits are found again in front of anything that is no digit (`takeWhile_toString`,
     `dropWhile_toString`), so they tell the number and what follows (`toString_cut`).
  3. An integer is the digits of its size, behind a minus where it is below zero
     (`toString_toInt`).
  4. Bytes are read back from two hexadecimal digits each (`bytesOfHex_hexByte`).
-/

namespace TableKeeper.Text

open Number

variable {n : Nat} {c : Char} {ds rest : List Char}

/-! ## Digits -/

theorem isDigit_range (h : c.isDigit = true) : 48 ≤ c.toNat ∧ c.toNat ≤ 57 := by
  simpa [Char.isDigit, UInt32.le_iff_toNat_le] using h

theorem isBlank_of_isDigit (h : c.isDigit = true) : isBlank c = false := by
  have hrange := isDigit_range h
  simp [isBlank]
  omega

theorem isDigit_of_mem_toString (h : c ∈ (toString n).toList) : c.isDigit = true := by
  rw [Nat.toString_eq_ofList_toDigits, String.toList_ofList] at h
  exact Nat.isDigit_of_mem_toDigits (by decide) (by decide) h

theorem toString_ne_nil (n : Nat) : (toString n).toList ≠ [] := by
  rw [Nat.toString_eq_ofList_toDigits, String.toList_ofList]
  exact Nat.toDigits_ne_nil

theorem toString_begins (n : Nat) : ∃ c cs, (toString n).toList = c :: cs ∧ c.isDigit = true := by
  obtain ⟨c, cs, hcs⟩ := List.exists_cons_of_ne_nil (toString_ne_nil n)
  exact ⟨c, cs, hcs, isDigit_of_mem_toString (hcs ▸ List.mem_cons_self)⟩

/-- The digits of a number above zero begin with none. -/
theorem head?_toDigits (h : 0 < n) : (Nat.toDigits 10 n).head? ≠ some '0' := by
  induction n using Nat.strongRecOn with
  | ind n ih =>
    by_cases hn : n < 10
    · have hdigits : ∀ d : Fin 10, 0 < d.val → [Nat.digitChar d].head? ≠ some '0' := by decide
      rw [Nat.toDigits_of_lt_base hn]
      exact hdigits ⟨n, hn⟩ h
    · have hfirst := ih (n / 10) (by omega) (by omega)
      obtain ⟨d, ds, hds⟩ := List.exists_cons_of_ne_nil (Nat.toDigits_ne_nil (b := 10) (n := n / 10))
      rw [Nat.toDigits_of_base_le (by decide) (by omega), hds]
      rwa [hds] at hfirst

theorem toString_zeros (n : Nat) : (toString n).toList = ['0'] ∨ (toString n).toList.head? ≠ some '0' := by
  rcases Nat.eq_zero_or_pos n with rfl | hn
  · exact .inl rfl
  · rw [Nat.toString_eq_ofList_toDigits, String.toList_ofList]
    exact .inr (head?_toDigits hn)

/-! ## Values -/

theorem decimalValue_toString (n : Nat) : decimalValue (toString n).toList = n := by
  rw [Nat.toString_eq_ofList_toDigits, String.toList_ofList]
  exact Nat.ofDigitChars_ten_toDigits

/-- The first digit counts most. -/
theorem ofDigits_reverse (ds : List Char) : Nat.ofDigits 10 (ds.reverse.map digitValue) = decimalValue ds := by
  induction ds using List.reverseRecOn with
  | nil => rfl
  | append_singleton ds d ih =>
    rw [List.reverse_append, List.reverse_singleton, List.singleton_append, List.map_cons, Nat.ofDigits_cons, ih,
      decimalValue, decimalValue, Nat.ofDigitChars_append, Nat.add_comm]
    rfl

/-- More digits make no smaller number. -/
theorem le_ofDigitChars (n : Nat) (ds : List Char) : n ≤ Nat.ofDigitChars 10 ds n := by
  induction ds generalizing n with
  | nil => exact Nat.le_refl n
  | cons d ds ih =>
    rw [Nat.ofDigitChars_cons]
    exact Nat.le_trans (by omega) (ih _)

theorem withoutPlus_digits (hd : ∀ c ∈ ds, c.isDigit = true) : withoutPlus ds = ds := by
  unfold withoutPlus
  split
  · exact absurd (hd '+' List.mem_cons_self) (by decide)
  · rfl

theorem withoutPlus_cases (cs : List Char) : withoutPlus cs = cs ∨ '+' :: withoutPlus cs = cs := by
  unfold withoutPlus
  split
  · exact .inr rfl
  · exact .inl rfl

/-- A number without a minus is some digits, behind a plus at most. -/
theorem unsigned?_eq_some {cs : List Char} : unsigned? cs = some n ↔
    ∃ ds, ds ≠ [] ∧ (∀ c ∈ ds, c.isDigit = true) ∧ (ds = cs ∨ '+' :: ds = cs) ∧ decimalValue ds = n := by
  constructor
  · intro h
    unfold unsigned? at h
    dsimp only at h
    split at h
    · cases h
    · rename_i hgood
      cases h
      simp only [not_or, List.isEmpty_iff, Bool.not_eq_true', Bool.not_eq_false] at hgood
      exact ⟨_, hgood.1, List.all_eq_true.mp hgood.2, withoutPlus_cases cs, rfl⟩
  · rintro ⟨ds, hne, hd, hcs, rfl⟩
    have hrest : withoutPlus cs = ds := by
      rcases hcs with rfl | rfl
      · exact withoutPlus_digits hd
      · rfl
    have hall : ds.all Char.isDigit = true := List.all_eq_true.mpr hd
    simp [unsigned?, hrest, hne, hall]

/-! ## Digits in front of something -/

section

variable (hr : ∀ c ∈ rest.head?, c.isDigit = false)
include hr

theorem takeWhile_toString (n : Nat) : ((toString n).toList ++ rest).takeWhile Char.isDigit = (toString n).toList := by
  rw [List.takeWhile_append_of_pos fun c hc => isDigit_of_mem_toString hc]
  cases rest with
  | nil => simp
  | cons c rest => simp [hr c rfl]

theorem dropWhile_toString (n : Nat) : ((toString n).toList ++ rest).dropWhile Char.isDigit = rest := by
  rw [List.dropWhile_append_of_pos fun c hc => isDigit_of_mem_toString hc]
  cases rest with
  | nil => rfl
  | cons c rest => simp [hr c rfl]

end

/-- A number is cut off by its digits, wherever no digit follows. -/
theorem toString_cut {m n : Nat} {r s : List Char} (hr : ∀ c ∈ r.head?, c.isDigit = false)
    (hs : ∀ c ∈ s.head?, c.isDigit = false) (h : (toString m).toList ++ r = (toString n).toList ++ s) :
    m = n ∧ r = s := by
  have hsame : (toString m).toList = (toString n).toList := by
    rw [← takeWhile_toString hr m, h, takeWhile_toString hs n]
  obtain rfl : m = n := by rw [← decimalValue_toString m, hsame, decimalValue_toString]
  exact ⟨rfl, List.append_cancel_left h⟩

/-! ## Digits behind a sign -/

theorem readSign_signed (negative : Bool) (hd : ∀ c ∈ ds.head?, c.isDigit = true) :
    readSign (Layout.signed negative ds) = (negative, ds) := by
  cases negative with
  | true => rfl
  | false =>
    unfold readSign Layout.signed
    split
    · exact absurd (hd '-' (by simp_all)) (by decide)
    · exact absurd (hd '+' (by simp_all)) (by decide)
    · rfl

/-- An integer is written as the digits of its size, behind a minus if it is below zero. -/
theorem toString_toInt (n : Int64) :
    ∃ (negative : Bool) (k : Nat), (toString n.toInt).toList = Layout.signed negative (toString k).toList ∧
      (if negative then -(k : Int) else k) = n.toInt ∧ (negative = true → k ≠ 0) := by
  cases n.toInt with
  | ofNat m => exact ⟨false, m, rfl, rfl, by simp⟩
  | negSucc m =>
    refine ⟨true, m + 1, ?_, rfl, fun _ => Nat.succ_ne_zero m⟩
    show ("-" ++ toString (m + 1)).toList = _
    rw [String.toList_append]
    rfl

theorem signedValue_false (ds : List Char) : signedValue false ds = decimalValue ds := rfl

theorem signedValue_toString (negative : Bool) (n : Nat) :
    signedValue negative (toString n).toList = if negative then -(n : Int) else n := by
  rw [signedValue, decimalValue_toString]

/-! ## Hexadecimal digits -/

theorem hexValue?_hexDigit (h : n < 16) : hexValue? (hexDigit n) = some n := by
  have hall : ∀ m : Fin 16, hexValue? (hexDigit m) = some m.val := by decide
  exact hall ⟨n, h⟩

theorem isHexDigit_of_mem_hexByte {b : UInt8} (h : c ∈ hexByte b) : isHexDigit c = true := by
  have hb : b.toNat < 256 := b.toNat_lt
  simp only [hexByte, List.mem_cons, List.not_mem_nil, or_false] at h
  rcases h with rfl | rfl
  · simp [isHexDigit, hexValue?_hexDigit (show b.toNat / 16 < 16 by omega)]
  · simp [isHexDigit, hexValue?_hexDigit (show b.toNat % 16 < 16 by omega)]

/-- Bytes are read back from their hexadecimal digits. -/
theorem bytesOfHex_hexByte (bytes : List UInt8) : bytesOfHex (bytes.flatMap hexByte) = bytes := by
  induction bytes with
  | nil => rfl
  | cons b bytes ih =>
    have hb : b.toNat < 256 := b.toNat_lt
    have hn : hexNumber (hexByte b) = b.toNat := by
      simp only [hexNumber, hexByte, List.foldl_cons, List.foldl_nil,
        hexValue?_hexDigit (show b.toNat / 16 < 16 by omega),
        hexValue?_hexDigit (show b.toNat % 16 < 16 by omega), Option.getD_some]
      omega
    show UInt8.ofNat (hexNumber (hexByte b)) :: bytesOfHex (bytes.flatMap hexByte) = b :: bytes
    rw [hn, ih, UInt8.ofNat_toNat]

theorem length_flatMap_hexByte (bytes : List UInt8) : (bytes.flatMap hexByte).length = 2 * bytes.length := by
  induction bytes with
  | nil => rfl
  | cons b bytes ih =>
    simp only [List.flatMap_cons, List.length_append, ih, hexByte, List.length_cons, List.length_nil]
    omega

end TableKeeper.Text
