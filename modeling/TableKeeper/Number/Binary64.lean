/-!
  TableKeeper.Number.Binary64 — binary64 numbers as their 64 bits.

  A real is kept as the word that the storage holds, so that equality of the type is
  equality of representation (a NaN equals itself, and 0.0 differs from -0.0). Numeric
  equality and order are functions of their own (`eqv`, `compare?`).

  1. A finite number is `significand * 2 ^ scale` with its sign; all arithmetic is done
     on that exact value and rounded once, to the nearest number, a tie going to the even
     significand (`ofRatio`).
  2. Sums, products and quotients (`add`, `mul`, `div`) round the exact result the same way.
     A result that has no value is a NaN.

  A power of a number is the one of the core library, whatever else is imported.
-/

attribute [instance (high + 1), default_instance (high + 1)] instPowNat

namespace TableKeeper.Number

/-- A binary64 number, by its bits. -/
structure Binary64 where
  bits : UInt64
  deriving DecidableEq, Repr, Inhabited

namespace Binary64

def zero : Binary64 := ⟨0⟩

def infinity : Binary64 := ⟨0x7ff0000000000000⟩

def nan : Binary64 := ⟨0x7ff8000000000000⟩

def isNegative (x : Binary64) : Bool := x.bits.toNat / 2 ^ 63 == 1

/-- The eleven bits of the exponent field. -/
def exponentField (x : Binary64) : Nat := x.bits.toNat / 2 ^ 52 % 2 ^ 11

/-- The fifty-two bits of the fraction field. -/
def fractionField (x : Binary64) : Nat := x.bits.toNat % 2 ^ 52

def isNaN (x : Binary64) : Bool := x.exponentField == 2047 && x.fractionField != 0

def isInfinite (x : Binary64) : Bool := x.exponentField == 2047 && x.fractionField == 0

def isFinite (x : Binary64) : Bool := x.exponentField != 2047

/-- Both zeros, whatever the sign. -/
def isZero (x : Binary64) : Bool := x.exponentField == 0 && x.fractionField == 0

/-- The magnitude of a finite number is `significand * 2 ^ scale`. -/
def significand (x : Binary64) : Nat :=
  if x.exponentField = 0 then x.fractionField else 2 ^ 52 + x.fractionField

def scale (x : Binary64) : Int := (max x.exponentField 1 : Nat) - 1075

/-- `true` when the gap below the number is half the gap above it. -/
def isBinadeStart (x : Binary64) : Bool := x.fractionField == 0 && decide (1 < x.exponentField)

/-- The number with the given sign and magnitude bits. -/
def ofMagnitude (negative : Bool) (magnitude : Nat) : Binary64 :=
  ⟨.ofNat (if negative then 2 ^ 63 + magnitude else magnitude)⟩

def neg (x : Binary64) : Binary64 := ofMagnitude (!x.isNegative) (x.bits.toNat % 2 ^ 63)

/-- `num / den` to the nearest integer, a tie to the even one. -/
def roundHalfEven (num den : Nat) : Nat :=
  let q := num / den
  let r := num % den
  if 2 * r < den then q
  else if den < 2 * r then q + 1
  else if q % 2 = 0 then q else q + 1

/-- `num / den * 2 ^ (-e)` as a fraction. -/
def scaledBy (num den : Nat) (e : Int) : Nat × Nat :=
  if 0 ≤ e then (num, den * 2 ^ e.toNat) else (num * 2 ^ (-e).toNat, den)

/-- The number nearest to `num / den`; beyond the largest one it is infinite. -/
def ofRatio (negative : Bool) (num den : Nat) : Binary64 :=
  if num = 0 then ofMagnitude negative 0
  else
    let guess : Int := (num.log2 : Int) - den.log2 - 53
    let (n, d) := scaledBy num den guess
    let e := max (if n < d * 2 ^ 53 then guess else guess + 1) (-1074)
    let (n, d) := scaledBy num den e
    let magnitude := (e + 1074).toNat * 2 ^ 52 + roundHalfEven n d
    ofMagnitude negative (min magnitude (2047 * 2 ^ 52))

/-- The number nearest to `n * 2 ^ e`. -/
def ofScaled (negative : Bool) (n : Nat) (e : Int) : Binary64 :=
  if 0 ≤ e then ofRatio negative (n * 2 ^ e.toNat) 1 else ofRatio negative n (2 ^ (-e).toNat)

def ofNat (n : Nat) : Binary64 := ofRatio false n 1

/-- The number nearest to an integer. -/
def ofInt (n : Int) : Binary64 := ofRatio (decide (n < 0)) n.natAbs 1

/-- `digits * 10 ^ exponent` to the nearest number. Exponents far outside the range are
answered without computing the power. -/
def ofDecimal (negative : Bool) (digits : Nat) (exponent : Int) : Binary64 :=
  if digits = 0 then ofMagnitude negative 0
  else if 400 < exponent then ofMagnitude negative (2047 * 2 ^ 52)
  else if exponent + digits.log2 < -1200 then ofMagnitude negative 0
  else if 0 ≤ exponent then ofRatio negative (digits * 10 ^ exponent.toNat) 1
  else ofRatio negative digits (10 ^ (-exponent).toNat)

/-- The magnitude of a finite number as a fraction. -/
def ratio (x : Binary64) : Nat × Nat :=
  if 0 ≤ x.scale then (x.significand * 2 ^ x.scale.toNat, 1)
  else (x.significand, 2 ^ (-x.scale).toNat)

/-- The rounded product. -/
def mul (x y : Binary64) : Binary64 :=
  let negative := x.isNegative != y.isNegative
  if x.isNaN || y.isNaN || (x.isInfinite && y.isZero) || (x.isZero && y.isInfinite) then nan
  else if x.isInfinite || y.isInfinite then ofMagnitude negative (2047 * 2 ^ 52)
  else ofScaled negative (x.significand * y.significand) (x.scale + y.scale)

/-- The sign and significand of a finite number as a multiple of `2 ^ e`, where `e` is not
above its own scale. -/
def multipleOf (x : Binary64) (e : Int) : Int :=
  let n : Int := x.significand * 2 ^ (x.scale - e).toNat
  if x.isNegative then -n else n

/-- The rounded sum. A sum of zero is negative only when both numbers are. -/
def add (x y : Binary64) : Binary64 :=
  if x.isNaN || y.isNaN || (x.isInfinite && y.isInfinite && x.isNegative != y.isNegative) then nan
  else if x.isInfinite then x
  else if y.isInfinite then y
  else
    let e := min x.scale y.scale
    let n := x.multipleOf e + y.multipleOf e
    if n = 0 then ofMagnitude (x.isNegative && y.isNegative) 0 else ofScaled (decide (n < 0)) n.natAbs e

def sub (x y : Binary64) : Binary64 := x.add y.neg

/-- The rounded quotient. -/
def div (x y : Binary64) : Binary64 :=
  let negative := x.isNegative != y.isNegative
  if x.isNaN || y.isNaN || (x.isInfinite && y.isInfinite) || (x.isZero && y.isZero) then nan
  else if x.isInfinite || y.isZero then ofMagnitude negative (2047 * 2 ^ 52)
  else if y.isInfinite then ofMagnitude negative 0
  else
    let (a, b) := x.ratio
    let (c, d) := y.ratio
    ofRatio negative (a * d) (b * c)

/-- The sign and magnitude as one integer numerator over the denominator of `ratio`. -/
def signedRatio (x : Binary64) : Int × Nat :=
  let (n, d) := x.ratio
  (if x.isNegative then -(n : Int) else n, d)

/-- Numeric equality: no NaN equals anything, and the two zeros are equal. -/
def eqv (x y : Binary64) : Bool :=
  !x.isNaN && !y.isNaN && (x.bits == y.bits || x.isZero && y.isZero)

/-- Order of two numbers that are not NaN. -/
def compare (x y : Binary64) : Ordering :=
  let key (z : Binary64) : Int :=
    let m : Int := (z.bits.toNat % 2 ^ 63 : Nat)
    if z.isNegative then -m else m
  Ord.compare (key x) (key y)

/-- Order of an integer and a number that is not NaN, by exact value. -/
def compareInt (n : Int) (x : Binary64) : Ordering :=
  if x.isInfinite then (if x.isNegative then .gt else .lt)
  else
    let (m, d) := x.signedRatio
    Ord.compare (n * d) m

/-- The magnitude of a finite number without its fraction. -/
def floorNat (x : Binary64) : Nat :=
  let (n, d) := x.ratio
  n / d

/-- The integer that a finite number has before its fraction. -/
def truncated (x : Binary64) : Int := if x.isNegative then -(x.floorNat : Int) else x.floorNat

/-- The integer that a finite number is, if it is one. -/
def toInt? (x : Binary64) : Option Int :=
  if x.isFinite then
    let (n, d) := x.signedRatio
    if n % d = 0 then some (n / d) else none
  else none

end Binary64
end TableKeeper.Number
