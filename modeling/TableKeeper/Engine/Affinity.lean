import TableKeeper.Engine.Collation
import TableKeeper.Number.Numeric
import TableKeeper.Value

/-!
  TableKeeper.Engine.Affinity — what a column does to the values put into it.

  1. A column's affinity follows from its declared type.
  2. Storing: text affinity turns numbers into text; numeric and integer affinity turn
     numeric text into numbers and whole reals into integers; real affinity turns integers
     and numeric text into reals. Bytes and null are never converted.
  3. Comparing: the affinity of a column is applied to the other side the same way, except
     that numbers of either kind are left alone, since they compare by value.
-/

namespace TableKeeper.Engine

open Number Text

inductive Affinity where
  /-- That of what is no column: nothing is converted, and it decides no comparison. -/
  | absent
  | blob
  | text
  | numeric
  | integer
  | real
  deriving DecidableEq, Repr

namespace Affinity

def ofDeclared (declared : String) : Affinity :=
  let cs := foldName declared
  let has (part : String) : Bool := occurs part.toList cs
  if has "INT" then integer
  else if has "CHAR" || has "CLOB" || has "TEXT" then text
  else if has "BLOB" || declared == "" then blob
  else if has "REAL" || has "FLOA" || has "DOUB" then real
  else numeric

/-- The characters behind the last place of a part. -/
def behind? (part : List Char) : List Char → Option (List Char)
  | [] => none
  | c :: rest =>
    (behind? part rest).orElse fun _ =>
      if part.isPrefixOf (c :: rest) then some ((c :: rest).drop part.length) else none

/-- The first number in a text, or zero. -/
def firstNumber (cs : List Char) : Nat :=
  decimalValue ((cs.dropWhile fun c => !c.isDigit).takeWhile Char.isDigit)

/-- About how large a value of a declared type is, in units of four bytes. Text and bytes
have the length that the type gives, or twenty bytes. -/
def widthOf (declared : String) : Nat :=
  let cs := foldName declared
  match ofDeclared declared with
  | text | blob | absent =>
    if cs.isEmpty then 1
    else
      match (behind? "CHAR".toList cs).orElse fun _ => behind? "BLOB(".toList cs with
      | some rest => min 255 (firstNumber rest / 4 + 1)
      | none => 5
  | _ => 1

def isNumeric : Affinity → Bool
  | numeric | integer | real => true
  | _ => false

/-- The text of a number inside the database. -/
def numberText : Value → Value
  | .integer n => .text (toString n.toInt)
  | .real x => .text x.stored
  | v => v

def ofNumeric : Numeric → Value
  | .integer n => .integer n
  | .real x => .real x

/-- Numeric text as the number it spells. -/
def numberOf (v : Value) : Value :=
  match v with
  | .text s => match Numeric.ofText? s with
    | some n => ofNumeric n
    | none => v
  | v => v

/-- Whole reals as integers. -/
def narrowed : Value → Value
  | .real x => ofNumeric (.narrowed x)
  | v => v

def widened : Value → Value
  | .integer n => .real (.ofInt n.toInt)
  | v => v

/-- The value that a column of this affinity keeps. -/
def store : Affinity → Value → Value
  | absent, v | blob, v => v
  | text, v => numberText v
  | numeric, v => narrowed (numberOf v)
  | integer, v => narrowed (numberOf v)
  | real, v => widened (narrowed (numberOf v))

/-- The affinity applied to the operand beside a column. -/
def compared : Affinity → Value → Value
  | absent, v | blob, v => v
  | text, v => numberText v
  | _, v => numberOf v

end Affinity

/-- A NaN is kept as null. -/
def bindValue : Value → Value
  | .real x => if x.isNaN then .null else .real x
  | v => v

end TableKeeper.Engine
