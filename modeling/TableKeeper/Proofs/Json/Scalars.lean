import TableKeeper.Json.Numeral
import TableKeeper.Json.Quoted
import TableKeeper.Proofs.Text.Digits

/-!
  TableKeeper.Proofs.Json.Scalars — strings and integers are read back from JSON.

  1. Each character is read back from its escape, whatever follows (`unquote?_escapeChar`), and
     so is a string up to its closing quote (`unquote?_quoted`).
  2. The digits of a number have no zero in front, so they are the whole part of a numeral; one
     that fits is an integer, unless a fraction or an exponent follows (`readNumeral?_toInt`).
-/

namespace TableKeeper.Json

open Number Text

/-! ## Strings -/

/-- A character in front of a string that is read. -/
def put (c : Char) (read : Option (List Char × List Char)) : Option (List Char × List Char) :=
  read.map fun p => (c :: p.1, p.2)

/-- Four digits that are no surrogate are one character, even where another escape follows. -/
theorem unquote?_unicode {a b c d : Char} {n : Nat} (hn : hexValues? [a, b, c, d] = some n)
    (hs : n < 0xd800) (rest : List Char) :
    unquote? ('\\' :: 'u' :: a :: b :: c :: d :: rest) = put (Char.ofNat n) (unquote? rest) := by
  have hhigh : isHighSurrogate n = false := by simp [isHighSurrogate]; omega
  have hlow : isLowSurrogate n = false := by simp [isLowSurrogate]; omega
  rw [unquote?.eq_def]
  split
  · next heq => cases heq
  · next heq => cases heq
  · next heq =>
    cases heq
    simp only [hn, hhigh, hlow, Bool.false_eq_true, if_false]
    rfl
  · next heq =>
    cases heq
    simp only [hn, hhigh, hlow, Bool.or_self, Bool.false_eq_true, if_false]
    rfl
  · next hno heq =>
    cases heq
    exact absurd rfl (hno _ _ _ _ _ rfl)
  · next heq => cases heq
  · next hno _ heq =>
    cases heq
    exact absurd rfl (hno _ _ rfl)

theorem unquote?_simple {c c' : Char} (hc : simpleEscape? c = some c') (rest : List Char) :
    unquote? ('\\' :: c :: rest) = put c' (unquote? rest) := by
  have hu : c ≠ 'u' := by
    rintro rfl
    cases hc
  rw [unquote?]
  · rw [hc]
    rfl
  · simp [hu]
  · simp [hu]

theorem unquote?_plain {c : Char} (hq : c ≠ '"') (hb : c ≠ '\\') (hc : 32 ≤ c.toNat) (rest : List Char) :
    unquote? (c :: rest) = put c (unquote? rest) := by
  rw [unquote?, if_neg (by omega)]
  · rfl
  all_goals simp [hq, hb]

/-- The digits that a control character is written with. -/
theorem hexValues?_control {n : Nat} (h : n < 32) :
    hexValues? ['0', '0', hexDigit (n / 16), hexDigit (n % 16)] = some n := by
  have hzero : hexValue? '0' = some 0 := by decide
  have hfirst := hexValue?_hexDigit (show n / 16 < 16 by omega)
  have hsecond := hexValue?_hexDigit (show n % 16 < 16 by omega)
  simp only [hexValues?, hzero, hfirst, hsecond, Option.some.injEq]
  omega

/-- Every character is read back from its escape. -/
theorem unquote?_escapeChar (c : Char) (rest : List Char) :
    unquote? (escapeChar c ++ rest) = put c (unquote? rest) := by
  have hback : Char.ofNat c.toNat = c := Char.ofNat_toNat c
  unfold escapeChar
  split
  · exact unquote?_simple rfl rest
  · exact unquote?_simple rfl rest
  · exact unquote?_simple rfl rest
  · exact unquote?_simple rfl rest
  · exact unquote?_simple rfl rest
  · next hq hb _ _ _ =>
    split
    · next h =>
      rw [← hback, h]
      exact unquote?_simple rfl rest
    · split
      · next h =>
        rw [← hback, h]
        exact unquote?_simple rfl rest
      · split
        · next h =>
          have hread := unquote?_unicode (hexValues?_control h) (by omega) rest
          rwa [hback] at hread
        · next h => exact unquote?_plain hq hb (by omega) rest

/-- A string is read back up to its closing quote. -/
theorem unquote?_quoted (cs rest : List Char) : unquote? (cs.flatMap escapeChar ++ '"' :: rest) = some (cs, rest) := by
  induction cs with
  | nil => rw [List.flatMap_nil, List.nil_append, unquote?]
  | cons c cs ih =>
    rw [List.flatMap_cons, List.append_assoc, unquote?_escapeChar, ih]
    rfl

theorem quote_toList (s : String) : (quote s).toList = '"' :: (s.toList.flatMap escapeChar ++ ['"']) := by
  simp [quote, quoteChars]

/-! ## Integers -/

/-- No number goes on with this text. -/
def EndsNumber (rest : List Char) : Prop := ∀ c ∈ rest.head?, c.isDigit = false ∧ c ∉ ['.', 'e', 'E']

/-- All the digits of a number are its whole part. -/
theorem readWhole?_toString (k : Nat) {rest : List Char} (hr : EndsNumber rest) :
    readWhole? ((toString k).toList ++ rest) = some ((toString k).toList, rest) := by
  have hne := toString_ne_nil k
  have hend : ∀ c ∈ rest.head?, c.isDigit = false := fun c hc => (hr c hc).1
  have hnot : ∀ c rest', (toString k).toList ++ rest = '0' :: c :: rest' →
      c.isDigit = false ∧ (toString k).toList = ['0'] ∧ rest = c :: rest' := by
    intro c rest' heq
    rcases toString_zeros k with hzero | hhead
    · rw [hzero] at heq
      obtain rfl := (List.cons.inj heq).2
      exact ⟨(hr c rfl).1, hzero, rfl⟩
    · obtain ⟨d, ds, hds⟩ := List.exists_cons_of_ne_nil hne
      rw [hds] at heq hhead
      exact absurd (congrArg some (List.cons.inj heq).1) hhead
  unfold readWhole?
  split
  · next c rest' heq =>
    obtain ⟨hc, hzero, rfl⟩ := hnot c rest' heq
    rw [if_neg (by simp [hc]), hzero]
  · rw [takeWhile_toString hend, dropWhile_toString hend, if_neg (by simp)]

/-- Digits are gathered as long as the number fits. -/
theorem gather_eq {n : Nat} {ds : List Char} (h : Nat.ofDigitChars 10 ds n < 2 ^ 64) :
    gather n ds = (Nat.ofDigitChars 10 ds n, []) := by
  induction ds generalizing n with
  | nil => rfl
  | cons d ds ih =>
    rw [Nat.ofDigitChars_cons] at h ⊢
    have hfits : 10 * n + digitValue d < 2 ^ 64 := Nat.lt_of_le_of_lt (le_ofDigitChars _ ds) h
    rw [gather, if_pos hfits]
    exact ih h

theorem gather_toString {k : Nat} (h : k < 2 ^ 64) : gather 0 (toString k).toList = (k, []) := by
  have hvalue : Nat.ofDigitChars 10 (toString k).toList 0 = k := decimalValue_toString k
  rw [gather_eq (by rwa [hvalue]), hvalue]

/-- The integer that digits behind a sign stand for, as long as it fits. -/
theorem numeral?_toString {negative : Bool} {k : Nat} (hk : if negative then k ≠ 0 ∧ k ≤ 2 ^ 63 else k < 2 ^ 63) :
    Parts.numeral? ⟨negative, (toString k).toList, none, none⟩ =
      some (.integer (.ofInt (if negative then -(k : Int) else k))) := by
  have hlt : k < 2 ^ 64 := by
    cases negative with
    | true => exact Nat.lt_of_le_of_lt hk.2 (by decide)
    | false => exact Nat.lt_trans hk (by decide)
  unfold Parts.numeral?
  simp only [gather_toString hlt]
  cases negative with
  | true => exact if_pos hk
  | false => exact if_pos hk

/-- A number behind its sign. -/
def readUnsigned? (negative : Bool) (cs : List Char) : Option (Numeral × List Char) := do
  let (whole, cs) ← readWhole? cs
  let (fraction, cs) ← readFraction? cs
  let (exponent, cs) ← readExponent? cs
  let n ← (Parts.mk negative whole fraction exponent).numeral?
  return (n, cs)

theorem readNumeral?_eq (negative : Bool) {cs : List Char} (h : cs.head? ≠ some '-') :
    readNumeral? (Layout.signed negative cs) = readUnsigned? negative cs := by
  cases negative with
  | true => rfl
  | false =>
    cases cs with
    | nil => rfl
    | cons c cs =>
      have hc : c ≠ '-' := fun hc => h (congrArg some hc)
      simp [Layout.signed, readNumeral?, readUnsigned?, hc]

theorem readFraction?_none {rest : List Char} (hr : EndsNumber rest) : readFraction? rest = some (none, rest) := by
  unfold readFraction?
  split
  · exact absurd List.mem_cons_self (hr '.' rfl).2
  · rfl

theorem readExponent?_none {rest : List Char} (hr : EndsNumber rest) : readExponent? rest = some (none, rest) := by
  cases rest with
  | nil => rfl
  | cons c rest =>
    have hc := (hr c rfl).2
    simp only [List.mem_cons, List.not_mem_nil, or_false, not_or] at hc
    rw [readExponent?, if_neg (by simp [hc])]

/-- Digits behind a sign are one number, up to the end of the digits. -/
theorem readNumeral?_signed (negative : Bool) {k : Nat} (hk : if negative then k ≠ 0 ∧ k ≤ 2 ^ 63 else k < 2 ^ 63)
    {rest : List Char} (hr : EndsNumber rest) :
    readNumeral? (Layout.signed negative (toString k).toList ++ rest) =
      some (.integer (.ofInt (if negative then -(k : Int) else k)), rest) := by
  have happend : Layout.signed negative (toString k).toList ++ rest =
      Layout.signed negative ((toString k).toList ++ rest) := by cases negative <;> rfl
  have hminus : ((toString k).toList ++ rest).head? ≠ some '-' := by
    obtain ⟨c, cs, hcs, hdigit⟩ := toString_begins k
    rw [hcs]
    rintro ⟨⟩
    exact absurd hdigit (by decide)
  rw [happend, readNumeral?_eq negative hminus, readUnsigned?, readWhole?_toString k hr]
  simp only [Option.bind_eq_bind, Option.bind_some, readFraction?_none hr, readExponent?_none hr,
    numeral?_toString hk]
  rfl

/-- Every integer is read back. -/
theorem readNumeral?_toInt (n : Int64) {rest : List Char} (hr : EndsNumber rest) :
    readNumeral? ((toString n.toInt).toList ++ rest) = some (.integer n, rest) := by
  have hlow := n.le_toInt
  have hhigh := n.toInt_lt
  obtain ⟨negative, k, htext, hvalue, hne⟩ := toString_toInt n
  have hk : if negative then k ≠ 0 ∧ k ≤ 2 ^ 63 else k < 2 ^ 63 := by
    cases negative with
    | true =>
      have hsize : -(k : Int) = n.toInt := hvalue
      exact ⟨hne rfl, by omega⟩
    | false =>
      have hsize : (k : Int) = n.toInt := hvalue
      show k < 2 ^ 63
      omega
  rw [htext, readNumeral?_signed negative hk hr, hvalue, Int64.ofInt_toInt]

/-- A number that is not negative is read back. -/
theorem readNumeral?_toString {k : Nat} (hk : k < 2 ^ 63) {rest : List Char} (hr : EndsNumber rest) :
    readNumeral? ((toString k).toList ++ rest) = some (.integer (.ofInt k), rest) :=
  readNumeral?_signed false hk hr

end TableKeeper.Json
