import TableKeeper.Engine.Affinity
import TableKeeper.Text.Utf8

/-!
  TableKeeper.Engine.Conversion — one value taken as another kind.

  1. Text and bytes count as the number that they begin with, or as zero.
  2. A real counts as the integer before its fraction, held to 64 signed bits.
  3. A value is true when the number that it counts as is not zero; null is unknown.
-/

namespace TableKeeper.Engine

open Number Text

/-- The text of a value; null has none and counts as empty. -/
def textOf : Value → String
  | .null => ""
  | .integer n => toString n.toInt
  | .real x => x.stored
  | .text s => s
  | .blob bytes => ofBytes bytes

/-- The bytes of a value's text. -/
def bytesOfValue : Value → List UInt8
  | .blob bytes => bytes
  | v => toBytes (textOf v)

/-- Bytes as characters of their own, which is enough to read numbers from. -/
def bytesAsChars (bytes : List UInt8) : List Char := bytes.map fun b => Char.ofNat b.toNat

/-- The number that a value counts as; null is none. -/
def numberOf? : Value → Option Numeric
  | .null => none
  | .integer n => some (.integer n)
  | .real x => some (.real x)
  | .text s => some (.ofStart s.toList)
  | .blob bytes => some (.ofStart (bytesAsChars bytes))

def realOf : Numeric → Binary64
  | .integer n => .ofInt n.toInt
  | .real x => x

/-- The largest real below `2 ^ 63`. -/
def realLimit : Int := 2 ^ 63 - 2 ^ 10

def integerOfReal (x : Binary64) : Int64 :=
  if x.isInfinite then (if x.isNegative then .ofInt (-2 ^ 63) else .ofInt (2 ^ 63 - 1))
  else if x.truncated < -realLimit then .ofInt (-2 ^ 63)
  else if realLimit < x.truncated then .ofInt (2 ^ 63 - 1)
  else .ofInt x.truncated

/-- The integer that a value counts as. -/
def integerOf : Value → Int64
  | .null => 0
  | .integer n => n
  | .real x => integerOfReal x
  | .text s => Numeric.integerOfStart s.toList
  | .blob bytes => Numeric.integerOfStart (bytesAsChars bytes)

/-- Unknown, false or true. -/
def truth? (v : Value) : Option Bool :=
  (numberOf? v).map fun
    | .integer n => n != 0
    | .real x => !x.isZero

def truthOf (b : Bool) : Value := .ofBool b

/-- A truth as a value; the unknown one is null. -/
def truthValue : Option Bool → Value
  | none => .null
  | some b => truthOf b

/-- A real read from text, as an integer where it is a small one. -/
def smallInteger (x : Binary64) : Value :=
  match x.toInt? with
  | some n => if -2 ^ 51 ≤ n ∧ n < 2 ^ 51 then .integer (.ofInt n) else .real x
  | none => .real x

/-- The value of CAST to a type of this affinity. -/
def castTo (a : Affinity) (v : Value) : Value :=
  match v with
  | .null => .null
  | v =>
    match a with
    | .absent => v
    | .text => .text (textOf v)
    | .blob => .blob (bytesOfValue v)
    | .integer => .integer (integerOf v)
    | .real => .real ((numberOf? v).elim .zero realOf)
    | .numeric =>
      match v, numberOf? v with
      | .real x, _ => .real x
      | _, some (.real x) => smallInteger x
      | _, some (.integer n) => .integer n
      | _, none => .null

end TableKeeper.Engine
