import Mathlib.Data.Nat.Log
import TableKeeper.Number.Numeric
import TableKeeper.Proofs.Engine.Comparing
import TableKeeper.Proofs.Text.Digits

/-!
  TableKeeper.Proofs.Number.Rounding — numbers of 64 bits that are read as reals.

  1. A fraction of at least `2 ^ 63` is rounded to a number of at least `2 ^ 63`
     (`ofRatio_wide`), and so is a sum that is exactly that large (`add_wide`).
  2. A wide real is never narrowed to an integer (`IsWide.narrowed`).
  3. A number of 64 bits that does not fit 63 is kept as the nearest real and an exact
     correction; their sum is wide (`Twofold.sum_ofNat_wide`).
  4. So digits that fill 64 bits without fitting 63 are read as a wide real
     (`Numeric.real_wide`).
-/

namespace TableKeeper.Number

namespace Binary64

variable {x y : Binary64}

/-! ## Rounding to a half -/

theorem le_roundHalfEven {num den m : Nat} (hden : 0 < den) (h : m * den ≤ num) : m ≤ roundHalfEven num den := by
  have hquotient : m ≤ num / den := (Nat.le_div_iff_mul_le hden).mpr h
  unfold roundHalfEven
  dsimp only
  split
  · exact hquotient
  · split
    · omega
    · split <;> omega

theorem roundHalfEven_le (num den : Nat) : roundHalfEven num den ≤ num / den + 1 := by
  unfold roundHalfEven
  dsimp only
  split
  · omega
  · split
    · omega
    · split <;> omega

theorem roundHalfEven_one (num : Nat) : roundHalfEven num 1 = num := by
  unfold roundHalfEven
  dsimp only
  rw [if_pos (by omega), Nat.div_one]

/-! ## The exponent of a fraction -/

/-- How a fraction is rounded, by the way it is scaled and by what becomes of a magnitude. -/
def roundedBy (scaled : Int → Nat × Nat) (out : Nat → Binary64) (guess : Int) : Binary64 :=
  let (n, d) := scaled guess
  let e := max (if n < d * 2 ^ 53 then guess else guess + 1) (-1074)
  let (n, d) := scaled e
  let magnitude := (e + 1074).toNat * 2 ^ 52 + roundHalfEven n d
  out (min magnitude (2047 * 2 ^ 52))

theorem ofRatio_eq_roundedBy {num : Nat} (h : num ≠ 0) (den : Nat) (negative : Bool) : ofRatio negative num den =
    roundedBy (scaledBy num den) (ofMagnitude negative) ((num.log2 : Int) - den.log2 - 53) := by
  rw [ofRatio.eq_1, if_neg h, roundedBy.eq_1]

theorem roundedBy_eq {scaled : Int → Nat × Nat} {n n' d d' : Nat} {g e : Int} (out : Nat → Binary64)
    (hn : scaled g = (n, d)) (he : max (if n < d * 2 ^ 53 then g else g + 1) (-1074) = e)
    (hn' : scaled e = (n', d')) :
    roundedBy scaled out g = out (min ((e + 1074).toNat * 2 ^ 52 + roundHalfEven n' d') (2047 * 2 ^ 52)) := by
  simp only [roundedBy, hn, he, hn']

theorem scaledBy_natCast (num den e : Nat) : scaledBy num den e = (num, den * 2 ^ e) := by
  rw [scaledBy, if_pos (Int.natCast_nonneg e), Int.toNat_natCast]

theorem scaledBy_neg (num den e : Nat) : scaledBy num den (-(e : Int)) = (num * 2 ^ e, den) := by
  unfold scaledBy
  split
  · obtain rfl : e = 0 := by omega
    simp
  · rw [Int.neg_neg, Int.toNat_natCast]

/-- The fraction has one bit more than the exponent leaves, or none. -/
theorem two_pow_le_of_log2 {num den g : Nat} (hnum : num ≠ 0) (hg : num.log2 = den.log2 + g + 53) :
    den * 2 ^ (g + 52) ≤ num := by
  have hden : den < 2 ^ (den.log2 + 1) := Nat.lt_log2_self
  calc den * 2 ^ (g + 52) ≤ 2 ^ (den.log2 + 1) * 2 ^ (g + 52) := Nat.mul_le_mul_right _ hden.le
    _ = 2 ^ num.log2 := by rw [← Nat.pow_add, hg]; congr 1; omega
    _ ≤ num := Nat.log2_self_le hnum

/-- The exponent of a wide fraction is at least 11, and leaves at least 52 bits. -/
theorem ofRatio_eq {num den : Nat} (hden : 0 < den) (h : 2 ^ 63 * den ≤ num) (negative : Bool) :
    ∃ e : Nat, 11 ≤ e ∧ 2 ^ 52 * (den * 2 ^ e) ≤ num ∧ ofRatio negative num den =
      ofMagnitude negative (min ((e + 1074) * 2 ^ 52 + roundHalfEven num (den * 2 ^ e)) (2047 * 2 ^ 52)) := by
  have hnum : num ≠ 0 := by
    have := Nat.mul_pos (Nat.two_pow_pos 63) hden
    omega
  have hlog : den.log2 + 63 ≤ num.log2 := by
    rw [Nat.le_log2 hnum, Nat.pow_add, Nat.mul_comm]
    exact (Nat.mul_le_mul_left _ (Nat.log2_self_le hden.ne')).trans h
  obtain ⟨g, hg⟩ : ∃ g : Nat, num.log2 = den.log2 + g + 53 := ⟨num.log2 - den.log2 - 53, by omega⟩
  have hguess : (num.log2 : Int) - den.log2 - 53 = g := by omega
  have hrounded : ∀ e : Nat, (if num < den * 2 ^ g * 2 ^ 53 then (g : Int) else g + 1) = e → ofRatio negative num den =
      ofMagnitude negative (min ((e + 1074) * 2 ^ 52 + roundHalfEven num (den * 2 ^ e)) (2047 * 2 ^ 52)) := by
    intro e he
    have hmax : max (if num < den * 2 ^ g * 2 ^ 53 then (g : Int) else g + 1) (-1074) = (e : Int) := by omega
    rw [ofRatio_eq_roundedBy hnum, hguess,
      roundedBy_eq _ (scaledBy_natCast num den g) hmax (scaledBy_natCast num den e)]
    rfl
  by_cases hfits : num < den * 2 ^ g * 2 ^ 53
  · refine ⟨g, ?_, ?_, hrounded g (if_pos hfits)⟩
    · -- With a smaller exponent the fraction would be below `2 ^ 63`.
      by_contra hsmall
      have hpow : 2 ^ g * 2 ^ 53 ≤ 2 ^ 63 := by
        rw [← Nat.pow_add]
        exact Nat.pow_le_pow_right (by decide) (by omega)
      have hle := Nat.mul_le_mul_left den hpow
      rw [← Nat.mul_assoc] at hle
      omega
    · have hbits := two_pow_le_of_log2 hnum hg
      rwa [Nat.pow_add, ← Nat.mul_assoc, Nat.mul_comm] at hbits
  · refine ⟨g + 1, by omega, ?_, hrounded (g + 1) (if_neg hfits)⟩
    have hnext : den * 2 ^ (g + 1) = 2 * (den * 2 ^ g) := by rw [Nat.pow_succ, ← Nat.mul_assoc, Nat.mul_comm]
    rw [hnext]
    omega

/-! ## Wide reals -/

/-- At least `2 ^ 63`; infinity is. -/
structure IsWide (x : Binary64) : Prop where
  low : 1086 * 2 ^ 52 ≤ x.bits.toNat
  high : x.bits.toNat ≤ 2047 * 2 ^ 52

theorem toNat_ofMagnitude {m : Nat} (h : m < 2 ^ 63) : (ofMagnitude false m).bits.toNat = m := by
  show (UInt64.ofNat m).toNat = m
  rw [UInt64.toNat_ofNat']
  omega

theorem ofRatio_wide {num den : Nat} (hden : 0 < den) (h : 2 ^ 63 * den ≤ num) : IsWide (ofRatio false num den) := by
  obtain ⟨e, he, hbits, heq⟩ := ofRatio_eq hden h false
  have hround := le_roundHalfEven (Nat.mul_pos hden (Nat.two_pow_pos e)) hbits
  rw [heq]
  constructor
  · rw [toNat_ofMagnitude (by omega)]
    omega
  · rw [toNat_ofMagnitude (by omega)]
    omega

theorem IsWide.isNegative_eq (h : IsWide x) : x.isNegative = false := by
  have hhigh := h.high
  unfold isNegative
  rw [Nat.div_eq_of_lt (by omega)]
  rfl

theorem IsWide.le_exponentField (h : IsWide x) : 1086 ≤ x.exponentField := by
  have hlow := h.low
  have hhigh := h.high
  unfold exponentField
  omega

/-- A finite wide real is a whole number of at least `2 ^ 63`. -/
theorem IsWide.le_of_toInt? (h : IsWide x) {n : Int} (hn : x.toInt? = some n) : 2 ^ 63 ≤ n := by
  have hexponent := h.le_exponentField
  have hscale : x.scale = (x.exponentField - 1075 : Nat) := by
    unfold scale
    omega
  have hratio : x.ratio = (x.significand * 2 ^ (x.exponentField - 1075), 1) := by
    rw [ratio, hscale, if_pos (Int.natCast_nonneg _), Int.toNat_natCast]
  have hsignificand : 2 ^ 52 ≤ x.significand := by
    unfold significand
    rw [if_neg (by omega)]
    omega
  have hpow : 2 ^ 11 ≤ 2 ^ (x.exponentField - 1075) := Nat.pow_le_pow_right (by decide) (by omega)
  have hvalue := Nat.mul_le_mul hsignificand hpow
  unfold toInt? at hn
  split at hn
  · simp only [signedRatio, hratio, h.isNegative_eq, Bool.false_eq_true, if_false, Int.natCast_one, Int.emod_one,
      Int.ediv_one, if_true, Option.some.injEq] at hn
    omega
  · cases hn

theorem IsWide.narrowed (h : IsWide x) : Numeric.narrowed x = .real x := by
  cases hn : x.toInt? with
  | none => simp [Numeric.narrowed, hn]
  | some n =>
    have hwide := h.le_of_toInt? hn
    simp only [Numeric.narrowed, hn]
    rw [if_neg (by omega)]

/-! ## Sums -/

/-- The value as a multiple of a power of two that is not above the scale. -/
theorem multipleOf_units {e : Int} (he : -1074 ≤ e) (hscale : e ≤ x.scale) :
    x.multipleOf e * 2 ^ (e + 1074).toNat = x.signedUnits := by
  have hpowers : (x.scale - e).toNat + (e + 1074).toNat = max x.exponentField 1 - 1 := by
    unfold scale at hscale ⊢
    omega
  have hunits : x.significand * 2 ^ (x.scale - e).toNat * 2 ^ (e + 1074).toNat = x.units := by
    rw [Nat.mul_assoc, ← Nat.pow_add, hpowers, units]
  have hcast : (x.significand : Int) * 2 ^ (x.scale - e).toNat * 2 ^ (e + 1074).toNat = x.units := by
    exact_mod_cast hunits
  unfold multipleOf signedUnits
  dsimp only
  split
  · rw [Int.neg_mul, hcast]
  · exact hcast

theorem unitsPerOne_pos : 0 < unitsPerOne := Nat.two_pow_pos unitScale

/-- A number of at least `2 ^ 63` is wide, whatever power of two it is counted in. -/
theorem ofScaled_wide {n : Nat} {e : Int} (he : -1074 ≤ e) (h : 2 ^ 63 * unitsPerOne ≤ n * 2 ^ (e + 1074).toNat) :
    IsWide (ofScaled false n e) := by
  unfold ofScaled
  split
  next hpos =>
    have hpow : 2 ^ (e + 1074).toNat = 2 ^ e.toNat * unitsPerOne := by
      rw [unitsPerOne, ← Nat.pow_add]
      congr 1
      unfold unitScale
      omega
    refine ofRatio_wide Nat.one_pos ?_
    rw [hpow, ← Nat.mul_assoc] at h
    rw [Nat.mul_one]
    exact Nat.le_of_mul_le_mul_right h unitsPerOne_pos
  next hneg =>
    have hpow : unitsPerOne = 2 ^ (-e).toNat * 2 ^ (e + 1074).toNat := by
      rw [unitsPerOne, ← Nat.pow_add]
      congr 1
      unfold unitScale
      omega
    refine ofRatio_wide (Nat.two_pow_pos _) ?_
    rw [hpow, ← Nat.mul_assoc] at h
    exact Nat.le_of_mul_le_mul_right h (Nat.two_pow_pos _)

theorem isNaN_of_isFinite (h : x.isFinite = true) : x.isNaN = false ∧ x.isInfinite = false := by
  have hexponent : (x.exponentField == 2047) = false := by simpa [isFinite] using h
  simp [isNaN, isInfinite, hexponent]

/-- A sum of at least `2 ^ 63` is wide. -/
theorem add_wide (hx : x.isFinite = true) (hy : y.isFinite = true)
    (h : 2 ^ 63 * (unitsPerOne : Int) ≤ x.signedUnits + y.signedUnits) : IsWide (x.add y) := by
  obtain ⟨hxNaN, hxInfinite⟩ := isNaN_of_isFinite hx
  obtain ⟨hyNaN, hyInfinite⟩ := isNaN_of_isFinite hy
  have hleast : -1074 ≤ min x.scale y.scale := by
    unfold scale
    omega
  have hsum : (x.multipleOf (min x.scale y.scale) + y.multipleOf (min x.scale y.scale)) *
      2 ^ (min x.scale y.scale + 1074).toNat = x.signedUnits + y.signedUnits := by
    rw [Int.add_mul, multipleOf_units hleast (Int.min_le_left ..), multipleOf_units hleast (Int.min_le_right ..)]
  unfold add
  simp only [hxNaN, hxInfinite, hyNaN, hyInfinite, Bool.or_self, Bool.false_and, Bool.false_eq_true, if_false]
  generalize x.multipleOf (min x.scale y.scale) + y.multipleOf (min x.scale y.scale) = n at hsum ⊢
  rw [← hsum] at h
  have hpow : (0 : Int) < 2 ^ (min x.scale y.scale + 1074).toNat := pow_pos (by decide) _
  have hpos : 0 < n := by
    have hone := unitsPerOne_pos
    exact (mul_pos_iff_of_pos_right hpow).mp (by omega)
  rw [if_neg hpos.ne', decide_eq_false hpos.not_gt]
  refine ofScaled_wide hleast ?_
  obtain ⟨m, rfl⟩ := Int.eq_ofNat_of_zero_le hpos.le
  rw [Int.natAbs_natCast]
  generalize unitsPerOne = c at h ⊢
  exact_mod_cast h

/-! ## Whole numbers -/

/-- A number of 53 bits over a power of two has that value; also where the bits carry. -/
theorem ofMagnitude_normal (negative : Bool) {f s : Nat} (hf : f ≤ 2044) (hlow : 2 ^ 52 ≤ s) (hhigh : s ≤ 2 ^ 53) :
    (ofMagnitude negative (f * 2 ^ 52 + s)).isFinite = true ∧
      (ofMagnitude negative (f * 2 ^ 52 + s)).signedUnits = (if negative then -1 else 1) * (s * 2 ^ f : Nat) := by
  generalize hx : ofMagnitude negative (f * 2 ^ 52 + s) = x
  have hbits : x.bits.toNat = if negative then 2 ^ 63 + (f * 2 ^ 52 + s) else f * 2 ^ 52 + s := by
    rw [← hx]
    show (UInt64.ofNat _).toNat = _
    rw [UInt64.toNat_ofNat']
    split <;> omega
  have hnegative : x.isNegative = negative := by
    unfold isNegative
    cases negative with
    | true => rw [hbits, if_pos rfl, beq_iff_eq]; omega
    | false => rw [hbits, if_neg (by decide), beq_eq_false_iff_ne]; omega
  have hmagnitude : x.bits.toNat % 2 ^ 63 = f * 2 ^ 52 + s := by
    rw [hbits]
    split <;> omega
  have hfields := x.magnitude_eq
  have hfraction : x.fractionField < 2 ^ 52 := Nat.mod_lt _ (by decide)
  have hunits : x.units = s * 2 ^ f := by
    unfold units significand
    by_cases hcarry : s = 2 ^ 53
    · have hexponent : x.exponentField = f + 2 := by omega
      have hzero : x.fractionField = 0 := by omega
      rw [hexponent, hzero, hcarry, if_neg (by omega), show max (f + 2) 1 - 1 = f + 1 by omega, Nat.pow_succ]
      omega
    · have hexponent : x.exponentField = f + 1 := by omega
      have hrest : 2 ^ 52 + x.fractionField = s := by omega
      rw [hexponent, if_neg (by omega), hrest, show max (f + 1) 1 - 1 = f by omega]
  constructor
  · unfold isFinite
    rw [bne_iff_ne]
    omega
  · unfold signedUnits
    rw [hnegative, hunits]
    cases negative <;> simp

theorem signedUnits_zero : zero.signedUnits = 0 := by decide

/-- A whole number of 53 bits is shifted to its place, and nothing is lost. -/
theorem ofRatio_exact (negative : Bool) {n : Nat} (hn : n ≠ 0) (h : n < 2 ^ 53) :
    ∃ c ≤ 52, 2 ^ 52 ≤ n * 2 ^ c ∧ n * 2 ^ c < 2 ^ 53 ∧
      ofRatio negative n 1 = ofMagnitude negative ((1074 - c) * 2 ^ 52 + n * 2 ^ c) := by
  have hlog : n.log2 < 53 := (Nat.log2_lt hn).mpr h
  obtain ⟨c, hc⟩ : ∃ c, n.log2 + c = 52 := ⟨52 - n.log2, by omega⟩
  have hlow : 2 ^ 52 ≤ n * 2 ^ c := by
    rw [← hc, Nat.pow_add]
    exact Nat.mul_le_mul_right _ (Nat.log2_self_le hn)
  have hhigh : n * 2 ^ c < 2 ^ 53 := by
    calc n * 2 ^ c < 2 ^ (n.log2 + 1) * 2 ^ c := (Nat.mul_lt_mul_right (Nat.two_pow_pos c)).mpr Nat.lt_log2_self
      _ = 2 ^ 53 := by rw [← Nat.pow_add]; congr 1; omega
  have hguess : (n.log2 : Int) - (1 : Nat).log2 - 53 = -((c + 1 : Nat) : Int) := by
    rw [show (1 : Nat).log2 = 0 by decide]
    omega
  have hmax : max (if n * 2 ^ (c + 1) < 1 * 2 ^ 53 then -((c + 1 : Nat) : Int) else -((c + 1 : Nat) : Int) + 1)
      (-1074) = -(c : Int) := by
    rw [Nat.pow_succ, ← Nat.mul_assoc]
    omega
  refine ⟨c, by omega, hlow, hhigh, ?_⟩
  rw [ofRatio_eq_roundedBy hn, hguess, roundedBy_eq _ (scaledBy_neg n 1 (c + 1)) hmax (scaledBy_neg n 1 c),
    roundHalfEven_one, show (-(c : Int) + 1074).toNat = 1074 - c by omega, Nat.min_eq_left (by omega)]

theorem ofInt_exact {j : Int} (hj : j.natAbs < 2 ^ 53) :
    (ofInt j).isFinite = true ∧ (ofInt j).signedUnits = j * unitsPerOne := by
  by_cases hzero : j = 0
  · subst hzero
    rw [Int.zero_mul]
    exact ⟨rfl, signedUnits_zero⟩
  · obtain ⟨c, hc, hlow, hhigh, heq⟩ := ofRatio_exact (decide (j < 0)) (Int.natAbs_ne_zero.mpr hzero) hj
    obtain ⟨hfinite, hunits⟩ := ofMagnitude_normal (decide (j < 0)) (f := 1074 - c) (by omega) hlow hhigh.le
    have hvalue : j.natAbs * 2 ^ c * 2 ^ (1074 - c) = j.natAbs * unitsPerOne := by
      rw [Nat.mul_assoc, ← Nat.pow_add, unitsPerOne, unitScale, show c + (1074 - c) = 1074 by omega]
    have hsign : (if decide (j < 0) = true then -1 else 1) * (j.natAbs : Int) = j := by
      simp only [decide_eq_true_eq]
      split <;> omega
    rw [ofInt, heq]
    refine ⟨hfinite, ?_⟩
    rw [hunits, hvalue, Int.natCast_mul, ← Int.mul_assoc, hsign]

/-- A number of 64 bits that does not fit 63 is kept to 53 bits. -/
theorem ofNat_word {k : Nat} (hlow : 2 ^ 63 ≤ k) (hhigh : k < 2 ^ 64) :
    ∃ r, 2 ^ 52 ≤ r ∧ r * 2 ^ 11 ≤ k + 2 ^ 11 ∧ k < (r + 1) * 2 ^ 11 ∧ (ofNat k).isFinite = true ∧
      (ofNat k).signedUnits = (r * 2 ^ 11 : Nat) * unitsPerOne := by
  obtain ⟨e, he, hbits, heq⟩ := ofRatio_eq Nat.one_pos (show 2 ^ 63 * 1 ≤ k by omega) false
  obtain rfl : e = 11 := by
    by_contra hne
    have hpow : 2 ^ 12 ≤ 2 ^ e := Nat.pow_le_pow_right (by decide) (by omega)
    have hlarge := Nat.mul_le_mul_left (2 ^ 52) hpow
    omega
  have hround := le_roundHalfEven (by decide : 0 < 1 * 2 ^ 11) hbits
  have hge := le_roundHalfEven (by decide : 0 < 1 * 2 ^ 11) (Nat.div_mul_le_self k (1 * 2 ^ 11))
  have hle := roundHalfEven_le k (1 * 2 ^ 11)
  generalize roundHalfEven k (1 * 2 ^ 11) = r at heq hround hge hle
  have hnear : r * 2 ^ 11 ≤ k + 2 ^ 11 ∧ k < (r + 1) * 2 ^ 11 := by omega
  obtain ⟨f, hf, hplace⟩ : ∃ f, f = 11 + 1074 ∧ 2 ^ f = 2 ^ 11 * unitsPerOne := ⟨11 + unitScale, rfl, Nat.pow_add ..⟩
  obtain ⟨hfinite, hunits⟩ := ofMagnitude_normal false (show f ≤ 2044 by omega) hround (by omega)
  have hmin : min (f * 2 ^ 52 + r) (2047 * 2 ^ 52) = f * 2 ^ 52 + r := Nat.min_eq_left (by omega)
  rw [← hf, hmin] at heq
  refine ⟨r, hround, hnear.1, hnear.2, ?_, ?_⟩
  · rw [ofNat, heq]
    exact hfinite
  · rw [ofNat, heq, hunits, hplace, ← Nat.mul_assoc, if_neg (by decide), Int.one_mul, Int.natCast_mul]

theorem floorNat_of_units {n : Nat} (hpos : x.isNegative = false) (h : x.signedUnits = (n : Int) * unitsPerOne) :
    x.floorNat = n := by
  obtain ⟨hratio, hden⟩ := x.ratio_units
  have hunits : x.units = n * unitsPerOne := by
    unfold signedUnits at h
    rw [hpos, if_neg (by decide)] at h
    exact_mod_cast h
  rw [hunits, Nat.mul_right_comm] at hratio
  have hnum : x.ratio.1 = n * x.ratio.2 := Nat.eq_of_mul_eq_mul_right unitsPerOne_pos hratio
  show x.ratio.1 / x.ratio.2 = n
  rw [hnum, Nat.mul_div_cancel n hden]

end Binary64

namespace Twofold

open Binary64

/-- A number of 64 bits that does not fit 63 is wide when its parts are put together. -/
theorem sum_ofNat_wide {k : Nat} (hlow : 2 ^ 63 ≤ k) (hhigh : k < 2 ^ 64) : IsWide (ofNat k).sum := by
  obtain ⟨r, hr, hle, hlt, hfinite, hunits⟩ := ofNat_word hlow hhigh
  have hone : (0 : Int) < unitsPerOne := by exact_mod_cast unitsPerOne_pos
  unfold ofNat
  dsimp only
  split
  · refine add_wide hfinite (show zero.isFinite = true by decide) ?_
    show _ ≤ (Binary64.ofNat k).signedUnits + zero.signedUnits
    rw [hunits, signedUnits_zero, Int.add_zero]
    exact Int.mul_le_mul_of_nonneg_right (by omega) hone.le
  · have hfloor : (Binary64.ofNat k).floorNat = r * 2 ^ 11 := floorNat_of_units
      (ofRatio_wide Nat.one_pos (by omega)).isNegative_eq hunits
    obtain ⟨hfinite', hunits'⟩ := ofInt_exact (j := (k : Int) - (Binary64.ofNat k).floorNat) (by omega)
    refine add_wide hfinite hfinite' ?_
    show _ ≤ (Binary64.ofNat k).signedUnits + (ofInt _).signedUnits
    rw [hunits, hunits', hfloor, ← Int.add_mul]
    exact Int.mul_le_mul_of_nonneg_right (by omega) hone.le

/-- Digits that fill 64 bits are wide as they stand, and so are the two that are full before
their last digit. -/
theorem ofDecimal_wide {k m : Nat} {e : Int} (hlow : 2 ^ 63 ≤ k) (hhigh : k < 2 ^ 64)
    (h : m = k ∧ e = 0 ∨ (m = 1844674407370955160 ∨ m = 1844674407370955161) ∧ e = 1) :
    IsWide (ofDecimal false m e) := by
  rcases h with ⟨rfl, rfl⟩ | ⟨rfl | rfl, rfl⟩
  · have hdigits : dropZeros m 0 = (m, 0) := by rw [dropZeros, if_neg (by omega)]
    have hscaled : (ofNat m).scaled 0 = ofNat m := rfl
    unfold ofDecimal
    rw [if_neg (by omega), if_neg (by omega), hdigits]
    dsimp only
    rw [hscaled, if_neg (by decide)]
    split
    · exact ⟨by decide, by decide⟩
    · exact sum_ofNat_wide hlow hhigh
  · exact ⟨by decide +kernel, by decide +kernel⟩
  · exact ⟨by decide +kernel, by decide +kernel⟩

end Twofold

/-! ## Digits -/

namespace Numeric

open Binary64 Text

/-- The digits that are gathered come first, and the others are left when the limit is reached. -/
theorem gather_eq (n taken : Nat) (ds : List Char) :
    ∃ before behind, ds = before ++ behind ∧
      gather n taken ds = (Nat.ofDigitChars 10 before n, taken + before.length) ∧
      (behind = [] ∨ digitLimit ≤ Nat.ofDigitChars 10 before n) := by
  induction ds generalizing n taken with
  | nil => exact ⟨[], [], rfl, rfl, .inl rfl⟩
  | cons d ds ih =>
    by_cases hroom : n < digitLimit
    · obtain ⟨before, behind, hds, hgather, hlimit⟩ := ih (10 * n + digitValue d) (taken + 1)
      refine ⟨d :: before, behind, by rw [hds, List.cons_append], ?_, hlimit⟩
      rw [gather, if_pos hroom, hgather, List.length_cons, Nat.add_right_comm, Nat.add_assoc]
      rfl
    · exact ⟨[], d :: ds, rfl, by rw [gather, if_neg hroom]; rfl, .inr (Nat.le_of_not_lt hroom)⟩

theorem decimalValue_dropZeros (ds : List Char) : decimalValue (ds.dropWhile (· == '0')) = decimalValue ds := by
  induction ds with
  | nil => rfl
  | cons d ds ih =>
    by_cases hzero : d = '0'
    · rw [List.dropWhile_cons_of_pos (by simpa using hzero), ih, hzero]
      rfl
    · rw [List.dropWhile_cons_of_neg (by simpa using hzero)]

/-- Digits that fill 64 bits without fitting 63 are read as a wide real. -/
theorem real_wide {ds : List Char} (hlow : 2 ^ 63 ≤ decimalValue ds) (hhigh : decimalValue ds < 2 ^ 64) :
    IsWide (Parts.real ⟨false, ds, none, none⟩) := by
  obtain ⟨before, behind, hds, hgather, hlimit⟩ := gather_eq 0 0 (ds.dropWhile (· == '0'))
  have hvalue : Nat.ofDigitChars 10 behind (decimalValue before) = decimalValue ds := by
    rw [decimalValue, ← Nat.ofDigitChars_append, ← hds]
    exact decimalValue_dropZeros ds
  have hlength : (ds.dropWhile (· == '0')).length = before.length + behind.length := by rw [hds, List.length_append]
  have hdigitLimit : digitLimit = 1844674407370955160 := rfl
  have hgathered : Nat.ofDigitChars 10 before 0 = decimalValue before := rfl
  unfold Parts.real
  simp only [hgather, hgathered, Option.getD_none, gather, hlength]
  refine Twofold.ofDecimal_wide hlow hhigh ?_
  cases behind with
  | nil => exact .inl ⟨hvalue, by simp⟩
  | cons d rest =>
    have hfull := hlimit.resolve_left (List.cons_ne_nil d rest)
    cases rest with
    | nil =>
      have hlast : 10 * decimalValue before + digitValue d = decimalValue ds := hvalue
      exact .inr ⟨by omega, by simp⟩
    | cons d' rest =>
      -- Two digits behind the limit would not fit 64 bits.
      have hmore := le_ofDigitChars (10 * (10 * decimalValue before + digitValue d) + digitValue d') rest
      have hlast : Nat.ofDigitChars 10 rest (10 * (10 * decimalValue before + digitValue d) + digitValue d') =
          decimalValue ds := hvalue
      omega

end Numeric
end TableKeeper.Number
