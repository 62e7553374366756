import TableKeeper.Number.Layout
import TableKeeper.Text.Digits

/-!
  TableKeeper.Json.Numeral — JSON numbers.

  1. `-`, digits without a leading zero, then optionally a fraction and an exponent.
  2. A number with neither is an integer if it fits 64 signed bits and is not `-0`.
  3. Any other is a real. Its digits are gathered into a 64-bit significand, those that no
     longer fit are dropped, and the significand as a real is then multiplied or divided by
     the power of ten: two roundings, so the last bit may differ from the nearest real.
  4. A real beyond the largest one is refused.
-/

namespace TableKeeper.Json

open Number Text

inductive Numeral where
  | integer (n : Int64)
  | real (x : Binary64)
  deriving DecidableEq

/-- Adds digits to a significand while it fits 64 bits: the significand and the digits that
did not fit. -/
def gather : Nat → List Char → Nat × List Char
  | n, [] => (n, [])
  | n, d :: ds => if 10 * n + digitValue d < 2 ^ 64 then gather (10 * n + digitValue d) ds else (n, d :: ds)

def powerOfTen (e : Nat) : Binary64 := .ofDecimal false 1 e

/-- Divides by a power of ten, at most `10 ^ 308` at a time. -/
def shrink : Nat → Binary64 → Nat → Binary64
  | 0, f, _ => f
  | fuel + 1, f, e =>
    if e ≤ 308 then f.div (powerOfTen e)
    else if f.isZero then f
    else shrink fuel (f.div (powerOfTen 308)) (e - 308)

/-- The significand as a real, scaled by the power of ten. Three divisions by `10 ^ 308`
bring every 64-bit significand to zero. -/
def scaled? (significand : Nat) (exponent : Int) : Option Binary64 :=
  let f := Binary64.ofNat significand
  if exponent < 0 then some (shrink 4 f exponent.natAbs)
  else if f.isZero then some f
  else if exponent ≤ 308 then
    let g := f.mul (powerOfTen exponent.toNat)
    if g.isInfinite then none else some g
  else none

def withSign (negative : Bool) (x : Binary64) : Binary64 := if negative then x.neg else x

/-- The parts of a number as written. -/
structure Parts where
  negative : Bool
  whole : List Char
  fraction : Option (List Char)
  exponent : Option Int

def Parts.numeral? (p : Parts) : Option Numeral :=
  let (n, dropped) := gather 0 p.whole
  match p.fraction, p.exponent, dropped with
  | none, none, [] =>
    if p.negative then
      if n ≠ 0 ∧ n ≤ 2 ^ 63 then some (.integer (.ofInt (-n))) else some (.real (withSign true (.ofNat n)))
    else if n < 2 ^ 63 then some (.integer (.ofInt n))
    else some (.real (.ofNat n))
  | fraction, exponent, dropped =>
    let (m, unread) := gather n (fraction.getD [])
    let read := (fraction.getD []).length - unread.length
    let e : Int := (dropped.length : Int) - read + exponent.getD 0
    (scaled? m e).map fun x => .real (withSign p.negative x)

def readWhole? : List Char → Option (List Char × List Char)
  | '0' :: c :: rest => if c.isDigit then none else some (['0'], c :: rest)
  | cs =>
    let ds := cs.takeWhile Char.isDigit
    if ds.isEmpty then none else some (ds, cs.dropWhile Char.isDigit)

def readFraction? : List Char → Option (Option (List Char) × List Char)
  | '.' :: rest =>
    let ds := rest.takeWhile Char.isDigit
    if ds.isEmpty then none else some (some ds, rest.dropWhile Char.isDigit)
  | cs => some (none, cs)

/-- A number at the start of the text, and what follows it. -/
def readNumeral? (cs : List Char) : Option (Numeral × List Char) := do
  let (negative, cs) := match cs with
    | '-' :: rest => (true, rest)
    | cs => (false, cs)
  let (whole, cs) ← readWhole? cs
  let (fraction, cs) ← readFraction? cs
  let (exponent, cs) ← readExponent? cs
  let n ← (Parts.mk negative whole fraction exponent).numeral?
  return (n, cs)

end TableKeeper.Json
