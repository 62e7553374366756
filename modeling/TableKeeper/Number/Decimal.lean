import TableKeeper.Number.Twofold

/-!
  TableKeeper.Number.Decimal — decimal digits of a binary64 number.

  1. `shortest` gives the fewest digits that read back as the number: the coarsest power of
     ten with a multiple inside the interval of reals that round to the number. Of two such
     multiples the nearer is taken, and a tie goes as asked.
  2. `significant` gives a fixed count of digits. It scales by powers of ten with twofold
     precision, so of a number that is very small the last digit may be one off.

  Both give an integer and a power of ten; the text is laid out elsewhere.
-/

namespace TableKeeper.Number

/-- `digits * 10 ^ exponent`. -/
structure Decimal where
  digits : Nat
  exponent : Int
  deriving DecidableEq, Repr

/-- Where a point halfway between two candidates goes. -/
inductive Tie where
  | up
  | toEven
  deriving DecidableEq, Repr

namespace Decimal

/-- The interval of reals that round to a finite positive number, over one denominator:
the low end, the number, the high end, the denominator. The ends belong to it when the
significand is even. -/
structure Interval where
  low : Nat
  middle : Nat
  high : Nat
  den : Nat
  closed : Bool

def interval (x : Binary64) : Interval :=
  let m := x.significand
  let below := if x.isBinadeStart then 1 else 2
  let up := if 0 ≤ x.scale then 2 ^ x.scale.toNat else 1
  let down := if 0 ≤ x.scale then 1 else 2 ^ (-x.scale).toNat
  { low := (4 * m - below) * up, middle := 4 * m * up, high := (4 * m + 2) * up
    den := 4 * down, closed := m % 2 == 0 }

/-- `c * 10 ^ p` lies in the interval. -/
def Interval.holds (i : Interval) (c : Nat) (p : Int) : Bool :=
  let l := c * i.den * 10 ^ p.toNat
  let s := 10 ^ (-p).toNat
  if i.closed then decide (i.low * s ≤ l) && decide (l ≤ i.high * s)
  else decide (i.low * s < l) && decide (l < i.high * s)

/-- The multiple of `10 ^ p` in the interval that is nearest to the number. -/
def Interval.nearest? (i : Interval) (tie : Tie) (p : Int) : Option Nat :=
  let n := i.middle * 10 ^ (-p).toNat
  let d := i.den * 10 ^ p.toNat
  let c := n / d
  let pick :=
    match Ord.compare (2 * (n % d)) d with
    | .lt => c
    | .gt => c + 1
    | .eq => if tie = .toEven ∧ c % 2 = 0 then c else c + 1
  match i.holds c p, i.holds (c + 1) p with
  | true, true => some pick
  | true, false => some c
  | false, true => some (c + 1)
  | false, false => none

/-- A power of ten not below the number's leading digit. -/
def topExponent (num den : Nat) : Int :=
  (((num.log2 : Int) - den.log2 + 1) * 30103) / 100000 + 1

def search (i : Interval) (tie : Tie) : Nat → Int → Decimal
  | 0, p => ⟨i.middle * 10 ^ (-p).toNat / (i.den * 10 ^ p.toNat), p⟩
  | fuel + 1, p =>
    match i.nearest? tie p with
    | some c => ⟨c, p⟩
    | none => search i tie fuel (p - 1)

/-- The fewest digits that read back as the magnitude of a finite number. The grid of
eighteen digits always has a hit, so twenty-four steps from the top exponent suffice. -/
def shortest (tie : Tie) (x : Binary64) : Decimal :=
  if x.isZero then ⟨0, 0⟩
  else
    let i := interval x
    search i tie 24 (topExponent i.high i.den)

/-! ## A fixed count of digits -/

/-- `num / den` to the nearest integer, a half away from zero. -/
def roundHalfUp (num den : Nat) : Nat := (2 * num + den) / (2 * den)

/-- Multiplies by the power while `go` holds, and keeps count of the exponent taken off. -/
def scaleWhile (go : Binary64 → Bool) (p : Twofold.Power) : Nat → Twofold × Int → Twofold × Int
  | 0, r => r
  | fuel + 1, (x, e) => if go x.high then scaleWhile go p fuel (x.mul p.factor, e - p.exponent) else (x, e)

/-- A bound of about `9.2 * 10 ^ e`. -/
def bound (e : Int) : Binary64 := .ofDecimal false 9223372036854774784 (e - 18)

def above (e : Int) (x : Binary64) : Bool := x.compare (bound e) == .gt

def below (e : Int) (x : Binary64) : Bool := x.compare (bound e) == .lt

/-- A positive number as a number between about `9.2 * 10 ^ 17` and ten times that, times a
power of ten. Twelve steps of each size are more than any number takes. -/
def normalised (x : Binary64) : Twofold × Int :=
  let start : Twofold × Int := (.ofBinary64 x, 0)
  if above 18 x then
    start |> scaleWhile (above 118) .down100 12 |> scaleWhile (above 28) .down10 12
      |> scaleWhile (above 18) .down1 12
  else
    start |> scaleWhile (below (-83)) .up100 12 |> scaleWhile (below 7) .up10 12
      |> scaleWhile (below 17) .up1 12

/-- Both parts without their fractions. -/
def wholePart (x : Twofold) : Nat :=
  if x.low.isNegative then x.high.floorNat - x.low.floorNat else x.high.floorNat + x.low.floorNat

/-- `count` significant digits of the magnitude of a finite number, at most eighteen, as far
as twofold precision tells them. -/
def significant (count : Nat) (x : Binary64) : Decimal :=
  if x.isZero then ⟨0, 0⟩
  else
    let (y, e) := normalised (.ofMagnitude false (x.bits.toNat % 2 ^ 63))
    let n := wholePart y
    let excess := (Nat.toDigits 10 n).length - count
    ⟨roundHalfUp n (10 ^ excess), e + excess⟩

/-- Trailing zero digits move into the exponent. -/
def trimmed (d : Decimal) : Decimal :=
  if d.digits ≠ 0 ∧ d.digits % 10 = 0 then trimmed ⟨d.digits / 10, d.exponent + 1⟩ else d
termination_by d.digits
decreasing_by exact Nat.div_lt_self (by omega) (by omega)

end Decimal
end TableKeeper.Number
