import TableKeeper.Number.Layout
import TableKeeper.Number.Twofold
import TableKeeper.Text.Digits

/-!
  TableKeeper.Number.Numeric — text that looks like a number.

  1. Blanks, a sign, digits with an optional point and at least one digit, an optional
     exponent, blanks, and nothing else.
  2. Text without point and exponent is an integer while it fits 64 signed bits; all other
     numeric text is a real. Text that only begins so counts as what it begins with
     (`ofStart`), and text that does not as zero.
  3. A real is read from its leading digits: once nineteen or twenty are gathered, the
     others only move the point. The exponent is held to four digits, and the power of ten
     is applied with twofold precision.
-/

namespace TableKeeper.Number

open Text

inductive Numeric where
  | integer (n : Int64)
  | real (x : Binary64)
  deriving DecidableEq

namespace Numeric

def isSpace (c : Char) : Bool := c == ' ' || (9 ≤ c.toNat && c.toNat ≤ 13)

/-- A significand takes no further digit from here on. -/
def digitLimit : Nat := (2 ^ 64 - 10) / 10

/-- Gathers digits into the significand: the result and how many were gathered. -/
def gather : Nat → Nat → List Char → Nat × Nat
  | n, taken, [] => (n, taken)
  | n, taken, d :: ds => if n < digitLimit then gather (10 * n + digitValue d) (taken + 1) ds else (n, taken)

def exponentLimit : Int := 10000

/-- An exponent as far as it counts. -/
def held (e : Int) : Int := max (-exponentLimit) (min e exponentLimit)

/-- The parts of numeric text. -/
structure Parts where
  negative : Bool
  whole : List Char
  fraction : Option (List Char)
  exponent : Option Int

def readFraction : List Char → Option (List Char) × List Char
  | '.' :: rest => (some (rest.takeWhile Char.isDigit), rest.dropWhile Char.isDigit)
  | cs => (none, cs)

/-- The parts that a text begins with, and what follows them; none without a digit, or with
the mark of an exponent that has none. -/
def leading (cs : List Char) : Parts × Option (List Char) :=
  let (negative, cs) := readSign (cs.dropWhile isSpace)
  let whole := cs.takeWhile Char.isDigit
  let (fraction, cs) := readFraction (cs.dropWhile Char.isDigit)
  if whole.isEmpty ∧ (fraction.getD []).isEmpty then (⟨negative, [], none, none⟩, none)
  else
    match readExponent? cs with
    | some (exponent, rest) => (⟨negative, whole, fraction, exponent.map held⟩, some rest)
    | none => (⟨negative, whole, fraction, none⟩, none)

def parts? (cs : List Char) : Option Parts :=
  match leading cs with
  | (p, some rest) => if (rest.dropWhile isSpace).isEmpty then some p else none
  | (_, none) => none

namespace Parts

def real (p : Parts) : Binary64 :=
  let whole := p.whole.dropWhile (· == '0')
  let (n, taken) := gather 0 0 whole
  let (m, more) := gather n 0 (p.fraction.getD [])
  Twofold.ofDecimal p.negative m ((whole.length : Int) - taken - more + p.exponent.getD 0)

/-- The integer of text without point and exponent, if it fits. -/
def integer? (p : Parts) : Option Int64 :=
  match p.fraction, p.exponent with
  | none, none =>
    let n := signedValue p.negative p.whole
    if -2 ^ 63 ≤ n ∧ n < 2 ^ 63 then some (.ofInt n) else none
  | _, _ => none

def number (p : Parts) : Numeric :=
  match p.integer? with
  | some n => .integer n
  | none => .real p.real

end Parts

def ofText? (s : String) : Option Numeric := (parts? s.toList).map Parts.number

/-- The number that a text begins with. -/
def ofStart (cs : List Char) : Numeric := (leading cs).1.number

/-- The integer that a text begins with, held to 64 signed bits. -/
def integerOfStart (cs : List Char) : Int64 :=
  let p := (leading cs).1
  let n := signedValue p.negative p.whole
  .ofInt (max (-2 ^ 63) (min n (2 ^ 63 - 1)))

/-- A whole real strictly inside the range of 64 signed bits as that integer. -/
def narrowed (x : Binary64) : Numeric :=
  match x.toInt? with
  | some n => if -2 ^ 63 < n ∧ n < 2 ^ 63 - 1 then .integer (.ofInt n) else .real x
  | none => .real x

end Numeric
end TableKeeper.Number
