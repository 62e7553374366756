import TableKeeper.Number.Binary64

/-!
  TableKeeper.Number.Twofold — numbers of about twice the precision of binary64.

  1. Such a number is the sum of a binary64 number and of another that corrects it.
  2. A product is taken by halves: the leading half of each factor has so few bits that the
     products of halves are exact, and their sum is rounded once into each part.
  3. Scaling by a power of ten multiplies by hundredth, then tenth, then single powers, each
     with the part of it that one binary64 number does not hold. The result may be off by a
     few units in the place of the correction, so a number far from 1 is not always rounded
     to the nearest.
-/

namespace TableKeeper.Number

structure Twofold where
  high : Binary64
  low : Binary64

namespace Twofold

def ofBinary64 (x : Binary64) : Twofold := ⟨x, .zero⟩

/-- The largest number that is below `2 ^ 64`. -/
def wordLimit : Binary64 := .ofNat (2 ^ 64 - 2 ^ 11)

/-- A natural number of 64 bits, exactly. One that rounds up to `2 ^ 64` loses its
correction. -/
def ofNat (n : Nat) : Twofold :=
  let x := Binary64.ofNat n
  if x.compare wordLimit == .gt then ofBinary64 x
  else ⟨x, .ofInt ((n : Int) - x.floorNat)⟩

/-- The number without the low 26 bits of its significand. -/
def leading (x : Binary64) : Binary64 := ⟨.ofNat (x.bits.toNat / 2 ^ 26 * 2 ^ 26)⟩

def mul (x y : Twofold) : Twofold :=
  let a := leading x.high
  let a' := x.high.sub a
  let b := leading y.high
  let b' := y.high.sub b
  let p := a.mul b
  let q := (a.mul b').add (a'.mul b)
  let c := p.add q
  let tail := ((p.sub c).add q).add (a'.mul b')
  let tail := ((x.high.mul y.low).add (x.low.mul y.high)).add tail
  let high := c.add tail
  ⟨high, (c.sub high).add tail⟩

def sum (x : Twofold) : Binary64 := x.high.add x.low

/-! ## Powers of ten -/

/-- A power of ten that is multiplied by in one step. -/
structure Power where
  exponent : Int
  factor : Twofold

namespace Power

/-- `10 ^ exponent` with its correction `digits * 10 ^ place`, which is never positive. -/
def ofCorrection (exponent : Int) (digits : Nat) (place : Int) : Power :=
  ⟨exponent, .ofDecimal false 1 exponent, if digits = 0 then .zero else .ofDecimal true digits place⟩

def up100 : Power := ofCorrection 100 15902891109759918046 64

def up10 : Power := ofCorrection 10 0 0

def up1 : Power := ofCorrection 1 0 0

def down100 : Power := ofCorrection (-100) 199918998026028836196 (-137)

def down10 : Power := ofCorrection (-10) 36432197315497741579 (-46)

def down1 : Power := ofCorrection (-1) 55511151231257827021 (-37)

end Power

def times : Nat → Power → Twofold → Twofold
  | 0, _, x => x
  | n + 1, p, x => times n p (x.mul p.factor)

/-- The number times `10 ^ e`. -/
def scaled (x : Twofold) (e : Int) : Twofold :=
  let n := e.natAbs
  if 0 < e then times (n % 10) .up1 (times (n % 100 / 10) .up10 (times (n / 100) .up100 x))
  else times (n % 10) .down1 (times (n % 100 / 10) .down10 (times (n / 100) .down100 x))

/-- Zeros of a positive exponent move into the digits while 64 bits hold them. -/
def spread (digits : Nat) (e : Int) : Nat × Int :=
  if 0 < e ∧ digits < (2 ^ 64 - 2 ^ 11) / 10 then spread (digits * 10) (e - 1) else (digits, e)
termination_by e.toNat
decreasing_by omega

/-- Trailing zeros of the digits make up for a negative exponent. -/
def dropZeros (digits : Nat) (e : Int) : Nat × Int :=
  if e < 0 ∧ digits % 10 = 0 then dropZeros (digits / 10) (e + 1) else (digits, e)
termination_by (-e).toNat
decreasing_by omega

/-- `digits * 10 ^ exponent`, where the digits have at most 64 bits. What is too large is
infinite. -/
def ofDecimal (negative : Bool) (digits : Nat) (exponent : Int) : Binary64 :=
  if digits = 0 then .ofMagnitude negative 0
  else
    let (n, e) := if 0 < exponent then spread digits exponent else dropZeros digits exponent
    let x := ((ofNat n).scaled e).sum
    let x := if x.isNaN then .infinity else x
    if negative then x.neg else x

end Twofold
end TableKeeper.Number
