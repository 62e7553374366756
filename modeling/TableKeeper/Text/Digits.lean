/-!
  TableKeeper.Text.Digits — decimal and hexadecimal digits, and what may stand around them.

  1. A digit is one of the ten of ASCII, and a list of them is the number that the core library
     reads it as, the first digit counting most.
  2. A sign is a plus, a minus or missing. An exponent is `e`, a sign and at least one digit;
     the mark without a digit is refused.
  3. Settings take a plus in front of a number but no minus (`unsigned?`).
  4. Hexadecimal digits are written in lower case and read in either case.
-/

namespace TableKeeper.Text

/-! ## Decimal digits -/

def digitValue (c : Char) : Nat := c.toNat - 48

/-- Decimal digits as a number. -/
def decimalValue (ds : List Char) : Nat := Nat.ofDigitChars 10 ds 0

/-- Takes a sign off: whether it is a minus, and the rest. -/
def readSign : List Char → Bool × List Char
  | '-' :: rest => (true, rest)
  | '+' :: rest => (false, rest)
  | cs => (false, cs)

/-- Digits behind their sign. -/
def signedValue (negative : Bool) (ds : List Char) : Int := if negative then -(decimalValue ds : Int) else decimalValue ds

/-- An exponent, and what follows it; none when there is a mark without digits. -/
def readExponent? : List Char → Option (Option Int × List Char)
  | c :: rest =>
    if c = 'e' ∨ c = 'E' then
      let (negative, rest) := readSign rest
      let ds := rest.takeWhile Char.isDigit
      if ds.isEmpty then none else some (some (signedValue negative ds), rest.dropWhile Char.isDigit)
    else some (none, c :: rest)
  | [] => some (none, [])

def withoutPlus : List Char → List Char
  | '+' :: rest => rest
  | cs => cs

/-- A number in digits, after a plus if one likes. -/
def unsigned? (cs : List Char) : Option Nat :=
  let ds := withoutPlus cs
  if ds.isEmpty ∨ !ds.all Char.isDigit then none else some (decimalValue ds)

/-! ## Hexadecimal digits -/

def hexDigit (n : Nat) : Char := if n < 10 then Char.ofNat (48 + n) else Char.ofNat (87 + n)

/-- Two lower-case hexadecimal digits. -/
def hexByte (b : UInt8) : List Char := [hexDigit (b.toNat / 16), hexDigit (b.toNat % 16)]

def hex (bytes : List UInt8) : String := .ofList (bytes.flatMap hexByte)

def hexValue? (c : Char) : Option Nat :=
  if c.isDigit then some (digitValue c)
  else if 'a' ≤ c ∧ c ≤ 'f' then some (c.toNat - 87)
  else if 'A' ≤ c ∧ c ≤ 'F' then some (c.toNat - 55)
  else none

def isHexDigit (c : Char) : Bool := (hexValue? c).isSome

/-- The number that hexadecimal digits spell. -/
def hexNumber (ds : List Char) : Nat := ds.foldl (fun n d => n * 16 + (hexValue? d).getD 0) 0

/-- Each two digits as a byte. -/
def bytesOfHex : List Char → List UInt8
  | a :: b :: rest => .ofNat (hexNumber [a, b]) :: bytesOfHex rest
  | _ => []

end TableKeeper.Text
