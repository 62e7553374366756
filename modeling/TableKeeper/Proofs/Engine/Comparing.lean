import Mathlib.Algebra.Order.Ring.Int
import TableKeeper.Engine.Affinity
import TableKeeper.Engine.Order

/-!
  TableKeeper.Proofs.Engine.Comparing — which values are equal.

  1. Every finite real is a whole count of the least positive one (`Binary64.signedUnits`), and
     reals and integers are compared by what they count (`compareValues_numbers`). So two
     numbers that are equal, of either kind, are equal to the same values.
  2. A text equals itself alone when texts are compared by their characters.
-/

namespace TableKeeper.Number

namespace Binary64

variable {x y : Binary64}

/-- The magnitude in units of the least positive number. -/
def units (x : Binary64) : Nat := x.significand * 2 ^ (max x.exponentField 1 - 1)

theorem magnitude_eq (x : Binary64) : x.bits.toNat % 2 ^ 63 = x.exponentField * 2 ^ 52 + x.fractionField := by
  have hbits := x.bits.toNat_lt
  unfold exponentField fractionField
  omega

/-- The units tell one magnitude from another. -/
theorem magnitude_of_units (h : x.units = y.units) : x.bits.toNat % 2 ^ 63 = y.bits.toNat % 2 ^ 63 := by
  -- A greater exponent would need a significand of one bit more.
  have hle : ∀ {x y : Binary64}, x.units = y.units → max y.exponentField 1 ≤ max x.exponentField 1 := by
    intro x y h
    by_contra hlt
    obtain ⟨d, hd⟩ : ∃ d, max y.exponentField 1 - 1 = (max x.exponentField 1 - 1) + (d + 1) :=
      ⟨max y.exponentField 1 - max x.exponentField 1 - 1, by omega⟩
    unfold units at h
    rw [hd, Nat.pow_add, Nat.pow_succ, ← Nat.mul_assoc, Nat.mul_right_comm] at h
    have hsame := Nat.eq_of_mul_eq_mul_right (Nat.two_pow_pos _) h
    have hx : x.significand < 2 ^ 53 := by
      unfold significand fractionField
      split <;> omega
    have hy : 2 ^ 52 ≤ y.significand := by
      unfold significand
      rw [if_neg (by omega)]
      omega
    have hpow : 2 ≤ 2 ^ d * 2 := Nat.le_mul_of_pos_left 2 (Nat.two_pow_pos d)
    have hlarge := Nat.mul_le_mul hy hpow
    omega
  have hexp : max x.exponentField 1 = max y.exponentField 1 := Nat.le_antisymm (hle h.symm) (hle h)
  unfold units at h
  rw [hexp] at h
  have hsame := Nat.eq_of_mul_eq_mul_right (Nat.two_pow_pos _) h
  rw [magnitude_eq, magnitude_eq]
  unfold significand at hsame
  have hx : x.fractionField < 2 ^ 52 := Nat.mod_lt _ (by decide)
  have hy : y.fractionField < 2 ^ 52 := Nat.mod_lt _ (by decide)
  split at hsame <;> split at hsame <;> omega

/-- The scale of the least positive number, downwards. -/
def unitScale : Nat := 1074

/-- How many of these units make one. -/
def unitsPerOne : Nat := 2 ^ unitScale

theorem unitsPerOne_ne_zero : (unitsPerOne : Int) ≠ 0 :=
  Int.natCast_ne_zero.mpr (Nat.two_pow_pos unitScale).ne'

theorem ratio_units (x : Binary64) : x.ratio.1 * unitsPerOne = x.units * x.ratio.2 ∧ 0 < x.ratio.2 := by
  unfold ratio units scale unitsPerOne
  split
  next h =>
    refine ⟨?_, Nat.one_pos⟩
    rw [Nat.mul_one, Nat.mul_assoc, ← Nat.pow_add]
    congr 2
    unfold unitScale
    omega
  next h =>
    refine ⟨?_, Nat.two_pow_pos _⟩
    rw [Nat.mul_assoc, ← Nat.pow_add]
    congr 2
    unfold unitScale
    omega

/-- The order of numbers as integers: the magnitude with the sign. -/
def key (x : Binary64) : Int := if x.isNegative then -(x.bits.toNat % 2 ^ 63 : Nat) else (x.bits.toNat % 2 ^ 63 : Nat)

/-- The value in units of the least positive number. -/
def signedUnits (x : Binary64) : Int := if x.isNegative then -x.units else x.units

theorem signedRatio_units (x : Binary64) :
    x.signedRatio.1 * unitsPerOne = x.signedUnits * x.signedRatio.2 ∧ 0 < x.signedRatio.2 := by
  obtain ⟨hratio, hden⟩ := x.ratio_units
  refine ⟨?_, hden⟩
  have hcast : (x.ratio.1 : Int) * unitsPerOne = x.units * x.ratio.2 := by exact_mod_cast hratio
  show (if x.isNegative then -(x.ratio.1 : Int) else x.ratio.1) * unitsPerOne = x.signedUnits * x.ratio.2
  unfold signedUnits
  split
  · rw [Int.neg_mul, hcast, Int.neg_mul]
  · exact hcast

/-- An integer is a number when it has its value. -/
theorem compareInt_eq (n : Int) (x : Binary64) :
    compareInt n x = .eq ↔ x.isInfinite = false ∧ n * unitsPerOne = x.signedUnits := by
  obtain ⟨hvalue, hden⟩ := x.signedRatio_units
  unfold compareInt
  split
  next h =>
    simp only [h, Bool.true_eq_false, false_and, iff_false]
    split <;> simp
  next h =>
    have hden' : (x.signedRatio.2 : Int) ≠ 0 := by omega
    have hkey : n * x.signedRatio.2 = x.signedRatio.1 ↔ n * unitsPerOne = x.signedUnits := by
      rw [← Int.mul_eq_mul_right_iff unitsPerOne_ne_zero, ← Int.mul_eq_mul_right_iff hden' (a := n * unitsPerOne), hvalue,
        Int.mul_right_comm]
    simp only [h, true_and]
    exact compare_eq_iff_eq.trans hkey

theorem units_of_magnitude (h : x.bits.toNat % 2 ^ 63 = y.bits.toNat % 2 ^ 63) : x.units = y.units := by
  have hfraction : x.fractionField = y.fractionField := by
    unfold fractionField
    omega
  have hexponent : x.exponentField = y.exponentField := by
    unfold exponentField
    omega
  unfold units significand
  rw [hfraction, hexponent]

theorem units_eq_zero (x : Binary64) : x.units = 0 ↔ x.bits.toNat % 2 ^ 63 = 0 := by
  have hzero : zero.units = 0 := by decide
  have hmagnitude : zero.bits.toNat % 2 ^ 63 = 0 := by decide
  refine ⟨fun h => ?_, fun h => ?_⟩
  · rw [magnitude_of_units (h.trans hzero.symm), hmagnitude]
  · rw [units_of_magnitude (h.trans hmagnitude.symm), hzero]

/-- Numbers are in the order of integers as they are by their values. -/
theorem key_eq_iff (x y : Binary64) : x.key = y.key ↔ x.signedUnits = y.signedUnits := by
  have hmagnitude := fun h => magnitude_of_units (x := x) (y := y) h
  have hunits := fun h => units_of_magnitude (x := x) (y := y) h
  have hx := x.units_eq_zero
  have hy := y.units_eq_zero
  unfold key signedUnits
  split <;> split <;> omega

theorem compare_eq_iff (x y : Binary64) : x.compare y = .eq ↔ x.signedUnits = y.signedUnits :=
  compare_eq_iff_eq.trans (key_eq_iff x y)

/-- Infinite numbers are the same when they are in the same place. -/
theorem isInfinite_of_signedUnits (h : x.signedUnits = y.signedUnits) : x.isInfinite = y.isInfinite := by
  have hkey := (key_eq_iff x y).mpr h
  have hmagnitude : x.bits.toNat % 2 ^ 63 = y.bits.toNat % 2 ^ 63 := by
    unfold key at hkey
    split at hkey <;> split at hkey <;> omega
  unfold isInfinite fractionField exponentField
  rw [Bool.eq_iff_iff]
  simp only [Bool.and_eq_true, beq_iff_eq]
  omega

end Binary64
end TableKeeper.Number

namespace TableKeeper.Engine

open Number

/-- The value of a number, in units of the least positive real, and whether it is infinite. -/
def placeOf : Numeric → Bool × Int
  | .integer n => (false, n.toInt * Binary64.unitsPerOne)
  | .real x => (x.isInfinite, x.signedUnits)

theorem compareValues_numbers (c : Collation) (m n : Numeric) :
    compareValues c (Affinity.ofNumeric m) (Affinity.ofNumeric n) = .eq ↔ placeOf m = placeOf n := by
  cases m with
  | integer m =>
    cases n with
    | integer n =>
      simp only [placeOf, Prod.mk.injEq, true_and, Int.mul_eq_mul_right_iff Binary64.unitsPerOne_ne_zero]
      exact compare_eq_iff_eq
    | real y =>
      refine (Binary64.compareInt_eq m.toInt y).trans ?_
      simp only [placeOf, Prod.mk.injEq]
      exact and_congr_left' eq_comm
  | real x =>
    cases n with
    | integer n =>
      refine (Ordering.swap_eq_eq.trans (Binary64.compareInt_eq n.toInt x)).trans ?_
      simp only [placeOf, Prod.mk.injEq]
      exact and_congr_right' eq_comm
    | real y =>
      refine (Binary64.compare_eq_iff x y).trans ?_
      simp only [placeOf, Prod.mk.injEq]
      exact ⟨fun h => ⟨Binary64.isInfinite_of_signedUnits h, h⟩, And.right⟩

/-- Two numbers that are equal are equal to the same values. -/
theorem sameValue_numbers {m n : Numeric}
    (h : compareValues .binary (Affinity.ofNumeric m) (Affinity.ofNumeric n) = .eq) (c : Collation) (v : Value) :
    sameValue c v (Affinity.ofNumeric m) = sameValue c v (Affinity.ofNumeric n) := by
  have hplace := (compareValues_numbers _ m n).mp h
  have hnumber : ∀ k : Numeric, sameValue c (Affinity.ofNumeric k) (Affinity.ofNumeric m) =
      sameValue c (Affinity.ofNumeric k) (Affinity.ofNumeric n) := by
    intro k
    have hnull : ∀ k : Numeric, (Affinity.ofNumeric k).isNull = false := fun k => by cases k <;> rfl
    rw [sameValue, sameValue, hnull, hnull, hnull, Bool.eq_iff_iff]
    simp only [Bool.not_false, Bool.true_and, beq_iff_eq, compareValues_numbers, hplace]
  cases v with
  | integer k => exact hnumber (.integer k)
  | real x => exact hnumber (.real x)
  | _ => cases m <;> cases n <;> rfl

/-! ## Texts -/

theorem compareLists_toNat (cs ds : List Char) :
    compareLists (fun a b => Ord.compare a.toNat b.toNat) cs ds = .eq ↔ cs = ds := by
  induction cs generalizing ds with
  | nil => cases ds <;> simp [compareLists]
  | cons c cs ih =>
    cases ds with
    | nil => simp [compareLists]
    | cons d ds =>
      rw [compareLists, List.cons.injEq]
      cases hcd : Ord.compare c.toNat d.toNat with
      | eq => simp [ih, Char.toNat_inj.mp (Nat.compare_eq_eq.mp hcd)]
      | lt => simp [show c ≠ d from fun h => by simp [h] at hcd]
      | gt => simp [show c ≠ d from fun h => by simp [h] at hcd]

theorem compareValues_text (s t : String) : compareValues .binary (.text s) (.text t) = .eq ↔ s = t := by
  rw [compareValues, Collation.compare]
  exact (compareLists_toNat _ _).trans String.toList_inj

theorem sameValue_right (v : Value) (s : String) : sameValue .binary v (.text s) = true ↔ v = .text s := by
  cases v with
  | text t => simp [sameValue, Value.isNull, compareValues_text]
  | null => simp [sameValue, Value.isNull]
  | integer n => simp [sameValue, compareValues, classRank]
  | real x => simp [sameValue, compareValues, classRank]
  | blob bytes => simp [sameValue, compareValues, classRank]

theorem sameValue_left (s : String) (v : Value) : sameValue .binary (.text s) v = true ↔ v = .text s := by
  cases v with
  | text t => simpa [sameValue, Value.isNull, compareValues_text] using eq_comm
  | null => simp [sameValue, Value.isNull]
  | integer n => simp [sameValue, compareValues, classRank]
  | real x => simp [sameValue, compareValues, classRank]
  | blob bytes => simp [sameValue, compareValues, classRank]

end TableKeeper.Engine
