import TableKeeper.Number.Decimal

/-!
  TableKeeper.Number.Layout — the texts of a binary64 number.

  A layout is one record of decisions: which digits are taken, which leading exponents are
  written positionally, whether a whole number keeps `.0`, how an exponent is spelt, and
  the words for what has no digits. `Layout.text` writes every layout by the same rule.
-/

namespace TableKeeper.Number

/-- How many digits a number shows. -/
inductive Digits where
  | shortest (tie : Tie)
  | significant (count : Nat)

/-- The decisions of a number format. The leading exponent of `d.ddd * 10 ^ e` is `e`. -/
structure Layout where
  digits : Digits
  /-- The leading exponents that are written positionally. -/
  positional : Int → Bool
  /-- A whole number keeps a point and one zero; so does the mantissa before an exponent
  when `pointInMantissa` holds. -/
  keepsPoint : Bool
  pointInMantissa : Bool
  /-- Least count of digits in a written exponent. -/
  exponentWidth : Nat
  notANumber : String
  /-- The word for an infinity, by whether it is negative. -/
  infinite : Bool → String

namespace Layout

/-- Shortest digits, never an exponent. -/
def display : Layout where
  digits := .shortest .up
  positional := fun _ => true
  keepsPoint := false
  pointInMantissa := false
  exponentWidth := 1
  notANumber := "NaN"
  infinite := fun negative => if negative then "-inf" else "inf"

/-- Shortest digits, positional from `1e-5` up to but not including `1e16`. JSON has no
word for what is not finite and writes `null`. -/
def json : Layout where
  digits := .shortest .toEven
  positional := fun e => decide (-5 ≤ e) && decide (e < 16)
  keepsPoint := true
  pointInMantissa := false
  exponentWidth := 1
  notANumber := "null"
  infinite := fun _ => "null"

/-- Fifteen significant digits, positional from `1e-4` up to but not including `1e15`, and
always with a point: the text a number has inside the database. -/
def stored : Layout where
  digits := .significant 15
  positional := fun e => decide (-4 ≤ e) && decide (e < 15)
  keepsPoint := true
  pointInMantissa := true
  exponentWidth := 2
  notANumber := "NULL"
  infinite := fun negative => if negative then "-Inf" else "Inf"

def zeros (n : Nat) : List Char := List.replicate n '0'

/-- The digits of a numeral, most significant first. -/
def numeral (n : Nat) : List Char := Nat.toDigits 10 n

def signed (negative : Bool) (cs : List Char) : List Char := if negative then '-' :: cs else cs

/-- `ds` with the point after the digit of exponent 0; `p` is the exponent of the last digit. -/
def positionalText (keepsPoint : Bool) (ds : List Char) (p : Int) : List Char :=
  if 0 ≤ p then
    ds ++ zeros p.toNat ++ (if keepsPoint then ['.', '0'] else [])
  else
    let places := (-p).toNat
    if places < ds.length then
      ds.take (ds.length - places) ++ '.' :: ds.drop (ds.length - places)
    else
      '0' :: '.' :: zeros (places - ds.length) ++ ds

/-- `d.ddde+x`, with `e` the exponent of the leading digit. -/
def exponentText (point : Bool) (width : Nat) (ds : List Char) (e : Int) : List Char :=
  let mantissa :=
    match ds with
    | [] => []
    | [d] => if point then [d, '.', '0'] else [d]
    | d :: rest => d :: '.' :: rest
  let x := numeral e.natAbs
  mantissa ++ 'e' :: (if e < 0 then '-' else '+') :: zeros (width - x.length) ++ x

def text (l : Layout) (x : Binary64) : String :=
  if x.isNaN then l.notANumber
  else if x.isInfinite then l.infinite x.isNegative
  else
    let d := match l.digits with
      | .shortest tie => Decimal.shortest tie x
      | .significant n => (Decimal.significant n x).trimmed
    let ds := numeral d.digits
    let e : Int := d.exponent + (ds.length - 1 : Nat)
    .ofList <| signed x.isNegative <|
      if l.positional e then positionalText l.keepsPoint ds d.exponent
      else exponentText l.pointInMantissa l.exponentWidth ds e

end Layout

namespace Binary64

def display (x : Binary64) : String := Layout.display.text x

def json (x : Binary64) : String := Layout.json.text x

/-- The text of a stored number. A zero has no sign. -/
def stored (x : Binary64) : String := if x.isZero then "0.0" else Layout.stored.text x

end Binary64
end TableKeeper.Number
