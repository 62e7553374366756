import TableKeeper.Engine.Function

/-!
  TableKeeper.Engine.Aggregate — functions of all the rows of a group.

  1. Nulls do not count. Without a value, a total is zero, a count is zero, and all else is
     null.
  2. A sum of integers is exact and must fit 64 signed bits. With a real among them the sum
     is a real, kept with what rounding takes off and corrected by it at the end.
-/

namespace TableKeeper.Engine

open Number Sql Text

/-- A running sum. -/
structure Sum where
  /-- The integers while there is nothing else. -/
  whole : Int64 := 0
  sum : Binary64 := .zero
  error : Binary64 := .zero
  approximate : Bool := false
  overflowed : Bool := false
  count : Nat := 0

namespace Sum

def magnitude (x : Binary64) : Binary64 := if x.isNegative then x.neg else x

/-- Adds a real, and what its rounding takes off to the error. -/
def addReal (s : Sum) (x : Binary64) : Sum :=
  let t := s.sum.add x
  let lost :=
    if (magnitude s.sum).compare (magnitude x) == .gt then (s.sum.sub t).add x else (x.sub t).add s.sum
  { s with sum := t, error := s.error.add lost }

/-- From here on an integer is added in two parts. -/
def wideFrom : Int := 2 ^ 52

def isWide (n : Int) : Bool := n ≤ -wideFrom || wideFrom ≤ n

def addInteger (s : Sum) (n : Int64) : Sum :=
  let n := n.toInt
  if isWide n then
    let low := n.tmod 16384
    (s.addReal (.ofInt (n - low))).addReal (.ofInt low)
  else s.addReal (.ofInt n)

/-- The integers so far as a real sum. -/
def approximated (s : Sum) : Sum :=
  let n := s.whole.toInt
  let low := if isWide n then n.tmod 16384 else 0
  { s with sum := .ofInt (n - low), error := .ofInt low, approximate := true }

def add (s : Sum) (v : Value) : Sum :=
  let s := { s with count := s.count + 1 }
  match Affinity.numberOf v, s.approximate with
  | .integer n, false =>
    match Arithmetic.ofInt? (s.whole.toInt + n.toInt) with
    | some (.integer m) => { s with whole := m }
    | _ => ({ s with overflowed := true }.approximated).addInteger n
  | .integer n, true => s.addInteger n
  | _, false => s.approximated.addReal ((numberOf? v).elim .zero realOf)
  | _, true => { s with overflowed := false }.addReal ((numberOf? v).elim .zero realOf)

def ofValues (vs : List Value) : Sum := vs.foldl add {}

def corrected (s : Sum) : Binary64 := if s.error.isFinite then s.sum.add s.error else s.sum

def real (s : Sum) : Binary64 := if s.approximate then s.corrected else .ofInt s.whole.toInt

end Sum

namespace Grouped

/-- The values without repetition. -/
def distinctValues (c : Collation) : List Value → List Value
  | [] => []
  | v :: vs => v :: (distinctValues c vs).filter fun w => !sameValue c v w

def total (vs : List Value) : Value := Arithmetic.ofReal (Sum.ofValues vs).real

def sum (vs : List Value) : Except Fault Value :=
  let s := Sum.ofValues vs
  if s.count = 0 then .ok .null
  else if !s.approximate then .ok (.integer s.whole)
  else if s.overflowed then .error .integerOverflow
  else .ok (Arithmetic.ofReal s.corrected)

def average (vs : List Value) : Value :=
  let s := Sum.ofValues vs
  if s.count = 0 then .null else Arithmetic.ofReal (s.real.div (.ofNat s.count))

/-- Texts one behind the other, each but the first behind its separator. -/
def concatenated : List (List Value) → Value
  | [] => .null
  | row :: rest =>
    .text (textOf (row.headD .null) ++ String.join (rest.map fun r => separator r ++ textOf (r.headD .null)))
where
  separator : List Value → String
    | [_, s] => textOf s
    | _ => ","

/-- Of the values of rows in turn, the place of the row whose other columns go with the
least or greatest: the first that has it, or the last while all are null. -/
def chosen (c : Collation) (wanted : Ordering) (vs : List Value) : Nat :=
  (vs.zipIdx.foldl (fun (best : Value × Nat) (v, n) =>
    if best.1.isNull then (v, n)
    else if !v.isNull && compareValues c v best.1 == wanted then (v, n)
    else best) (.null, 0)).2

end Grouped

open Grouped

/-- The value over the arguments of each row. -/
def Aggregate.value (g : Aggregate) (distinct : Bool) (c : Collation) (rows : List (List Value)) : Except Fault Value :=
  let known := rows.filter fun r => !(r.headD (.integer 0)).isNull
  let vs := known.map (·.headD .null)
  let vs := if distinct then distinctValues c vs else vs
  match g with
  | .count => .ok (.integer (.ofNat (if rows.any (·.isEmpty) then rows.length else vs.length)))
  | .sum => Grouped.sum vs
  | .total => .ok (Grouped.total vs)
  | .avg => .ok (average vs)
  | .min => .ok (Scalar.extreme c .lt vs)
  | .max => .ok (Scalar.extreme c .gt vs)
  | .concat => .ok (concatenated (if distinct then vs.map ([·]) else known))

end TableKeeper.Engine
