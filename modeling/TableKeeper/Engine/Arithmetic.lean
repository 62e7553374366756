import TableKeeper.Engine.Conversion
import TableKeeper.Sql.Syntax

/-!
  TableKeeper.Engine.Arithmetic — the operators that make a value.

  1. Null on either side gives null.
  2. Integers stay integers while the result fits 64 signed bits; a result that does not is
     a real. A quotient goes toward zero, and what is divided by zero is null.
  3. Bits and remainders are those of the integers that the operands count as.
-/

namespace TableKeeper.Engine

open Number Sql

namespace Arithmetic

/-- A real as a value. What has no value is null. -/
def ofReal (x : Binary64) : Value := if x.isNaN then .null else .real x

/-- An integer result, if it fits. -/
def ofInt? (n : Int) : Option Value :=
  if -2 ^ 63 ≤ n ∧ n < 2 ^ 63 then some (.integer (.ofInt n)) else none

/-- The exact result on integers; none where there is none. -/
def integerResult? (op : Operator) (m n : Int) : Option Int :=
  match op with
  | .add => some (m + n)
  | .subtract => some (m - n)
  | .multiply => some (m * n)
  | .divide => if n = 0 then none else some (m.tdiv n)
  | .remainder => if n = 0 then none else some (m.tmod n)
  | _ => none

def onReals (op : Operator) (x y : Binary64) : Value :=
  match op with
  | .add => ofReal (x.add y)
  | .subtract => ofReal (x.sub y)
  | .multiply => ofReal (x.mul y)
  | _ => if y.isZero then .null else ofReal (x.div y)

/-- Bits move to the left; a negative count moves them to the right, and what is moved by
64 or more leaves only the sign. -/
def shifted (n : Int64) (count : Int) : Int64 :=
  if 64 ≤ count then 0
  else if 0 ≤ count then n <<< Int64.ofInt count
  else if count ≤ -64 then (if n < 0 then -1 else 0)
  else n >>> Int64.ofInt (-count)

def onBits (op : Operator) (v w : Value) : Value :=
  let m := integerOf v
  let n := integerOf w
  .integer <| match op with
    | .bitAnd => m &&& n
    | .bitOr => m ||| n
    | .shiftLeft => shifted m n.toInt
    | _ => shifted m (-n.toInt)

/-- A remainder is an integer, but is kept as a real beside a real. -/
def remainder (v w : Value) (m n : Numeric) : Value :=
  match integerResult? .remainder (integerOf v).toInt (integerOf w).toInt, m, n with
  | none, _, _ => .null
  | some r, .integer _, .integer _ => .integer (.ofInt r)
  | some r, _, _ => .real (.ofInt r)

def onNumbers (op : Operator) (v w : Value) (m n : Numeric) : Value :=
  match op, m, n with
  | .remainder, _, _ => remainder v w m n
  | _, .integer a, .integer b =>
    match integerResult? op a.toInt b.toInt with
    | none => .null
    | some r => (ofInt? r).getD (onReals op (.ofInt a.toInt) (.ofInt b.toInt))
  | _, _, _ => onReals op (realOf m) (realOf n)

def combine (op : Operator) (v w : Value) : Value :=
  match numberOf? v, numberOf? w with
  | some m, some n =>
    match op with
    | .concat => .text (textOf v ++ textOf w)
    | .bitAnd | .bitOr | .shiftLeft | .shiftRight => onBits op v w
    | _ => onNumbers op v w m n
  | _, _ => .null

def signed (s : Sign) (v : Value) : Value :=
  match s with
  | .plus => v
  | .minus => combine .subtract (.integer 0) v
  | .complement => if v.isNull then .null else .integer (~~~ integerOf v)

end Arithmetic
end TableKeeper.Engine
