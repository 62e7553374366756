import TableKeeper.Json.Quoted
import TableKeeper.Number.Binary64
import TableKeeper.Text.Digits
import TableKeeper.Toml.Node

/-!
  TableKeeper.Toml.Scalar — values without quotes or brackets.

  1. An integer is decimal with an optional sign and no leading zero, or hexadecimal, octal
     or binary after `0x`, `0o` or `0b`. An underscore may stand between two digits. It must
     fit 128 bits, signed or unsigned.
  2. A float has a fraction or an exponent or is one of `inf` and `nan`; written in digits,
     it must not round to infinity.
  3. A moment is a date of the calendar, a time of the day, or both with `T` or one space
     between them and an optional offset. Seconds may be left out, and a minute may have 61.
-/

namespace TableKeeper.Toml

open Text

/-! ## Numbers -/

/-- The digits of a group, where an underscore may stand between two of them. -/
def digits? (ok : Char → Bool) : List Char → Option (List Char)
  | [] => none
  | [c] => if ok c then some [c] else none
  | c :: '_' :: rest => if ok c then (digits? ok rest).map (c :: ·) else none
  | c :: rest => if ok c then (digits? ok rest).map (c :: ·) else none

/-- Decimal digits without a leading zero. -/
def whole? (cs : List Char) : Option (List Char) :=
  match digits? Char.isDigit cs with
  | some ('0' :: _ :: _) => none
  | ds => ds

/-- Reads digits of a base. -/
def inBase? (base : Nat) (cs : List Char) : Option Int :=
  (digits? (fun c => (hexValue? c).any (· < base)) cs).map fun ds =>
    (ds.foldl (fun n d => n * base + (hexValue? d).getD 0) 0 : Nat)

def integer? : List Char → Option Int
  | '0' :: 'x' :: ds => inBase? 16 ds
  | '0' :: 'o' :: ds => inBase? 8 ds
  | '0' :: 'b' :: ds => inBase? 2 ds
  | cs => (whole? (readSign cs).2).map (signedValue (readSign cs).1)

def fits (n : Int) : Bool := -(2 ^ 127) ≤ n && n < 2 ^ 128

/-- The parts before and after the first character that `p` accepts. -/
def splitAt? (p : Char → Bool) (cs : List Char) : Option (List Char × List Char) :=
  match cs.dropWhile (!p ·) with
  | [] => none
  | _ :: rest => some (cs.takeWhile (!p ·), rest)

/-- The least number that rounds to infinity. -/
def overflow : Nat := 2 ^ 1024 - 2 ^ 970

/-- `m * 10 ^ e` does not round to infinity; only a magnitude near the limit is computed. -/
def isFinite (m : Nat) (e : Int) : Bool :=
  let size := (Nat.toDigits 10 m).length + e
  m = 0 || size ≤ 308 || (size ≤ 309 && (if e < 0 then m < overflow * 10 ^ e.natAbs else m * 10 ^ e.natAbs < overflow))

/-- A float in digits; the answer is whether it is finite. -/
def decimalFloat? (cs : List Char) : Option Bool := do
  let (mantissa, exponent) ← match splitAt? (fun c => c == 'e' || c == 'E') cs with
    | none => some (cs, none)
    | some (mantissa, exponent) =>
      (digits? Char.isDigit (readSign exponent).2).map fun ds => (mantissa, some (signedValue (readSign exponent).1 ds))
  match splitAt? (· == '.') mantissa, exponent with
  | none, none => none
  | none, some e => (whole? mantissa).map fun ds => isFinite (decimalValue ds) e
  | some (whole, fraction), e => do
    let ds ← whole? whole
    let fs ← digits? Char.isDigit fraction
    return isFinite (decimalValue (ds ++ fs)) (e.getD 0 - fs.length)

def float? (cs : List Char) : Option Bool :=
  match (readSign cs).2 with
  | ['i', 'n', 'f'] => some true
  | ['n', 'a', 'n'] => some true
  | ds => decimalFloat? ds

/-! ## Dates and times -/

def isLeapYear (y : Nat) : Bool := y % 4 = 0 && (y % 100 ≠ 0 || y % 400 = 0)

def daysIn (y m : Nat) : Nat :=
  if m = 2 then (if isLeapYear y then 29 else 28)
  else if m = 4 ∨ m = 6 ∨ m = 9 ∨ m = 11 then 30
  else 31

/-- Exactly `n` digits at the start: their value and the rest. -/
def readDigits? (n : Nat) (cs : List Char) : Option (Nat × List Char) :=
  let ds := cs.take n
  if ds.length = n ∧ ds.all Char.isDigit then some (decimalValue ds, cs.drop n) else none

def readDate? (cs : List Char) : Option (List Char) := do
  let (y, cs) ← readDigits? 4 cs
  let '-' :: cs := cs | none
  let (m, cs) ← readDigits? 2 cs
  let '-' :: cs := cs | none
  let (d, cs) ← readDigits? 2 cs
  if 1 ≤ m ∧ m ≤ 12 ∧ 1 ≤ d ∧ d ≤ daysIn y m then some cs else none

def readFraction? : List Char → Option (List Char)
  | '.' :: cs => if (cs.takeWhile Char.isDigit).isEmpty then none else some (cs.dropWhile Char.isDigit)
  | cs => some cs

def readSeconds? : List Char → Option (List Char)
  | ':' :: cs => do
    let (s, cs) ← readDigits? 2 cs
    if s ≤ 60 then readFraction? cs else none
  | cs => some cs

def readHourMinute? (cs : List Char) : Option (List Char) := do
  let (h, cs) ← readDigits? 2 cs
  let ':' :: cs := cs | none
  let (m, cs) ← readDigits? 2 cs
  if h ≤ 23 ∧ m ≤ 59 then some cs else none

def readTime? (cs : List Char) : Option (List Char) := do readSeconds? (← readHourMinute? cs)

def readOffset? : List Char → Option (List Char)
  | [] => some []
  | c :: cs =>
    if c = 'Z' ∨ c = 'z' then some cs
    else if c = '+' ∨ c = '-' then readHourMinute? cs
    else none

/-- All of the text is a date, a time or both. -/
def isMoment (cs : List Char) : Bool :=
  match readDate? cs with
  | some [] => true
  | some (c :: rest) =>
    (c == 'T' || c == 't' || c == ' ') && ((readTime? rest).bind readOffset?) == some []
  | none => readTime? cs == some []

/-! ## All of them -/

def Node.ofScalar? (cs : List Char) : Option Node :=
  if cs = ['t', 'r', 'u', 'e'] then some (.boolean true)
  else if cs = ['f', 'a', 'l', 's', 'e'] then some (.boolean false)
  else if isMoment cs then some .moment
  else
    match integer? cs with
    | some n => if fits n then some (.integer n) else none
    | none => if float? cs = some true then some .float else none

def isScalarChar (c : Char) : Bool :=
  c.isAlphanum || c == '+' || c == '-' || c == '.' || c == '_' || c == ':'

/-- A value's characters; a date takes one space and a time along. -/
def scalarChars (cs : List Char) : List Char :=
  let first := cs.takeWhile isScalarChar
  match readDate? first, cs.drop first.length with
  | some [], ' ' :: c :: rest => if c.isDigit then first ++ ' ' :: (c :: rest).takeWhile isScalarChar else first
  | _, _ => first

def readScalar? (cs : List Char) : Option (Node × List Char) :=
  (Node.ofScalar? (scalarChars cs)).map fun n => (n, cs.drop (scalarChars cs).length)

end TableKeeper.Toml
