import TableKeeper.Engine.Arithmetic
import TableKeeper.Engine.Fault
import TableKeeper.Engine.Like
import TableKeeper.Engine.Order
import TableKeeper.Engine.Term
import TableKeeper.Number.Decimal
import TableKeeper.Text.Blank

/-!
  TableKeeper.Engine.Function — functions of values.

  1. Most functions of a null are null. Text functions take a number by its text.
  2. Places in text are counted in characters from one, and in bytes of a blob; a negative
     place counts from the end.
  3. What fails: a pattern that is too long, an escape that is not one character, and the
     magnitude of the smallest integer.
-/

namespace TableKeeper.Engine

open Number Sql Text

namespace Scalar

def nullOr (v : Value) (f : Value → Value) : Value := if v.isNull then .null else f v

def ofNat (n : Nat) : Value := .integer (.ofNat n)

/-- The characters of a text up to its first NUL. -/
def visible (v : Value) : List Char := (textOf v).toList.takeWhile (·.toNat ≠ 0)

def typeName : Value → String
  | .null => "null"
  | .integer _ => "integer"
  | .real _ => "real"
  | .text _ => "text"
  | .blob _ => "blob"

def absolute : Value → Except Fault Value
  | .null => .ok .null
  | .integer n => if n.toInt = -2 ^ 63 then .error .integerOverflow else .ok (.integer (if n < 0 then -n else n))
  | v =>
    let x := (numberOf? v).elim .zero realOf
    .ok (.real (if x.isNegative then x.neg else x))

def length : Value → Value
  | .null => .null
  | .blob bytes => ofNat bytes.length
  | v => ofNat (visible v).length

def upperHex (bytes : List UInt8) : String := .ofList ((hex bytes).toList.map upperChar)

/-- A value as a literal. -/
def quoted : Value → String
  | .null => "NULL"
  | .text s => "'" ++ .ofList (s.toList.flatMap fun c => if c = '\'' then [c, c] else [c]) ++ "'"
  | .blob bytes => "X'" ++ upperHex bytes ++ "'"
  | v => textOf v

/-- The sign of a value that is a number or the text of one. -/
def signOf (v : Value) : Value :=
  match Affinity.numberOf v with
  | .integer n => .integer (if n < 0 then -1 else if 0 < n then 1 else 0)
  | .real x => .integer (if x.isZero then 0 else if x.isNegative then -1 else 1)
  | _ => .null

/-- Where `part` first stands in `whole`, from one; zero when it does not. -/
def position {α : Type} [BEq α] (part : List α) : List α → Nat → Nat
  | [], n => if part.isEmpty then n else 0
  | x :: xs, n => if part.isPrefixOf (x :: xs) then n else position part xs (n + 1)

def instr (v w : Value) : Value :=
  match v, w with
  | .null, _ => .null
  | _, .null => .null
  | .blob a, .blob b => ofNat (position b a 1)
  | v, w => ofNat (position (textOf w).toList (textOf v).toList 1)

/-- The part of `xs` from place `start` on, `count` long; a negative count ends there. -/
def slice {α : Type} (xs : List α) (start : Int) (count : Int) : List α :=
  let n : Int := xs.length
  let (p, c) : Int × Int :=
    if start < 0 then
      if start + n < 0 then (0, if count < 0 then 0 else count + (start + n)) else (start + n, count)
    else if 0 < start then (start - 1, count)
    else (0, if 0 < count then count - 1 else count)
  let (p, c) := if c < 0 then (if -c ≤ p then (p + c, -c) else (0, p)) else (p, c)
  (xs.drop p.toNat).take c.toNat

def substr (v start : Value) (count : Option Value) : Value :=
  if v.isNull || start.isNull || count.any Value.isNull then .null
  else
    let p := (integerOf start).toInt
    let c := (count.map fun w => (integerOf w).toInt).getD (2 ^ 31)
    match v with
    | .blob bytes => .blob (slice bytes p c)
    | v => .text (.ofList (slice (visible v) p c))

/-- Takes off the characters at the ends that are among `cs`. -/
def trimmed (left right : Bool) (cs : List Char) (s : String) : String :=
  let front (xs : List Char) : List Char := xs.dropWhile cs.contains
  let xs := if left then front s.toList else s.toList
  .ofList (if right then (front xs.reverse).reverse else xs)

/-- Every place where `old` stands becomes `new`; `old` is not empty. -/
def replaced (old new : List Char) : Nat → List Char → List Char
  | 0, cs => cs
  | _ + 1, [] => []
  | fuel + 1, c :: cs =>
    if old.isPrefixOf (c :: cs) then new ++ replaced old new fuel ((c :: cs).drop old.length)
    else c :: replaced old new fuel cs

def replace (v old new : Value) : Value :=
  if v.isNull || old.isNull || new.isNull then .null
  else if textOf old == "" then .text (textOf v)
  else
    let cs := (textOf v).toList
    .text (.ofList (replaced (textOf old).toList (textOf new).toList cs.length cs))

/-- To `places` digits behind the point, a half away from zero. -/
def rounded (x : Binary64) (places : Nat) : Binary64 :=
  let d := Decimal.significant 18 x
  if -(places : Int) ≤ d.exponent then x
  else
    let n := Decimal.roundHalfUp d.digits (10 ^ (-(places : Int) - d.exponent).toNat)
    Twofold.ofDecimal x.isNegative n (-(places : Int))

def round (v : Value) (places : Value) : Value :=
  if v.isNull || places.isNull then .null
  else
    let n := max 0 (min 30 (integerOf places).toInt)
    let x := (numberOf? v).elim .zero realOf
    .real (if x.isInfinite || x.isZero then x else rounded x n.toNat)

def charOf (v : Value) : Char :=
  let n := (integerOf v).toInt
  if 0 ≤ n ∧ n.toNat.isValidChar then Char.ofNat n.toNat else replacement

/-- The greatest or least of values; null when one is null. -/
def extreme (c : Collation) (wanted : Ordering) : List Value → Value
  | [] => .null
  | v :: vs =>
    if v.isNull || vs.any Value.isNull then .null
    else vs.foldl (fun best w => if compareValues c w best == wanted then w else best) v

/-- Matches the second value with the pattern that is the first. -/
def patternTest (test : Value → Value → Bool) (pattern v : Value) : Except Fault Value :=
  if Like.isTooLong pattern then .error .patternTooLong
  else .ok (if v.isNull || pattern.isNull then .null else truthOf (test pattern v))

def like (pattern v : Value) (escape : Option Value) : Except Fault Value :=
  match escape with
  | none => patternTest (Like.like none) pattern v
  | some e =>
    if Like.isTooLong pattern then .error .patternTooLong
    else if e.isNull then .ok .null
    else
      match Like.subject e with
      | [c] => patternTest (Like.like (some c)) pattern v
      | _ => .error .badEscape

def joinedBy (separator : String) (vs : List Value) : String :=
  joined separator ((vs.filter fun v => !v.isNull).map textOf)

end Scalar

open Scalar

/-- The value of a function. Arguments are compared by the collation. -/
def Function.apply (f : Function) (c : Collation) (n : Counters) (args : List Value) : Except Fault Value :=
  match f, args with
  | .abs, [v] => absolute v
  | .changes, _ => .ok (ofNat n.changes)
  | .char, vs => .ok (.text (.ofList (vs.map charOf)))
  | .coalesce, vs => .ok ((vs.find? fun v => !v.isNull).getD .null)
  | .concat, vs => .ok (.text (joinedBy "" vs))
  | .concatBy, s :: vs => .ok (nullOr s fun s => .text (joinedBy (textOf s) vs))
  | .glob, [p, v] => patternTest Like.glob p v
  | .hex, [v] => .ok (.text (upperHex (bytesOfValue v)))
  | .instr, [v, w] => .ok (Scalar.instr v w)
  | .lastInsert, _ => .ok (.integer n.lastInsert)
  | .least, vs => .ok (extreme c .lt vs)
  | .length, [v] => .ok (Scalar.length v)
  | .like, [p, v] => Scalar.like p v none
  | .like, [p, v, e] => Scalar.like p v (some e)
  | .lower, [v] => .ok (nullOr v fun v => .text (.ofList ((textOf v).toList.map foldChar)))
  | .most, vs => .ok (extreme c .gt vs)
  | .nullif, [v, w] => .ok (if sameValue c v w then .null else v)
  | .octets, [v] => .ok (nullOr v fun v => ofNat (bytesOfValue v).length)
  | .quote, [v] => .ok (.text (quoted v))
  | .replace, [v, old, new] => .ok (Scalar.replace v old new)
  | .round, [v] => .ok (Scalar.round v (.integer 0))
  | .round, [v, places] => .ok (Scalar.round v places)
  | .sign, [v] => .ok (signOf v)
  | .substr, [v, p] => .ok (Scalar.substr v p none)
  | .substr, [v, p, count] => .ok (Scalar.substr v p (some count))
  | .trim left right, [v] => .ok (nullOr v fun v => .text (trimmed left right [' '] (textOf v)))
  | .trim left right, [v, w] =>
    .ok (nullOr v fun v => nullOr w fun w => .text (trimmed left right (textOf w).toList (textOf v)))
  | .typeof, [v] => .ok (.text (typeName v))
  | .unicode, [v] => .ok (((visible v).head?.map fun c => ofNat c.toNat).getD .null)
  | .upper, [v] => .ok (nullOr v fun v => .text (.ofList ((textOf v).toList.map upperChar)))
  | .version, _ => .ok (.text "3.50.4")
  | _, _ => .ok .null

end TableKeeper.Engine
