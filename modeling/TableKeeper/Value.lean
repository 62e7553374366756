import TableKeeper.Number.Layout
import TableKeeper.Text.Blank
import TableKeeper.Text.Digits

/-!
  TableKeeper.Value — one column's value.

  A value has one of the five storage classes. `=` on the type is equality of
  representation; `eqv` is the program's own equality, which compares reals as numbers.
-/

namespace TableKeeper

open Number Text

inductive Value where
  | null
  | integer (n : Int64)
  | real (x : Binary64)
  | text (s : String)
  | blob (bytes : List UInt8)
  deriving DecidableEq, Inhabited

namespace Value

/-- Null, zero, NaN and empty text or bytes are not truthy: as a key they count as absent. -/
def truthy : Value → Bool
  | null => false
  | integer n => n != 0
  | real x => !x.isZero && !x.isNaN
  | text s => s != ""
  | blob bytes => !bytes.isEmpty

def isNull : Value → Bool
  | null => true
  | _ => false

def text? : Value → Option String
  | text s => some s
  | _ => none

def integer? : Value → Option Int64
  | integer n => some n
  | _ => none

/-- The number of a real, or of an integer to the nearest real. -/
def number? : Value → Option Binary64
  | real x => some x
  | integer n => some (.ofInt n.toInt)
  | _ => none

/-- The text of a value: digits without an exponent, bytes in hexadecimal. -/
def display : Value → String
  | null => "NULL"
  | integer n => toString n.toInt
  | real x => x.display
  | text s => s
  | blob bytes => hex bytes

/-- Equality of values; reals are equal as numbers, and classes never mix. -/
def eqv : Value → Value → Bool
  | null, null => true
  | integer m, integer n => m == n
  | real x, real y => x.eqv y
  | text s, text t => s == t
  | blob a, blob b => a == b
  | _, _ => false

def ofBool (b : Bool) : Value := integer (if b then 1 else 0)

end Value
end TableKeeper
