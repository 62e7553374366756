import TableKeeper.Engine.Collation
import TableKeeper.Value

/-!
  TableKeeper.Engine.Order — the order of stored values.

  Null comes first, then numbers, then text, then bytes. An integer and a real compare by
  their exact values, text by a collation, which without a wish of its own is the order of
  its bytes, and bytes one by one. In a comparison, null makes the result unknown.
-/

namespace TableKeeper.Engine

open Number

def classRank : Value → Nat
  | .null => 0
  | .integer _ => 1
  | .real _ => 1
  | .text _ => 2
  | .blob _ => 3

def compareValues (c : Collation) : Value → Value → Ordering
  | .integer m, .integer n => Ord.compare m.toInt n.toInt
  | .integer m, .real y => Binary64.compareInt m.toInt y
  | .real x, .integer n => (Binary64.compareInt n.toInt x).swap
  | .real x, .real y => x.compare y
  | .text s, .text t => c.compare s t
  | .blob a, .blob b => compareLists (fun a b => Ord.compare a.toNat b.toNat) a b
  | v, w => Ord.compare (classRank v) (classRank w)

/-- The same value, null being no value. -/
def sameValue (c : Collation) (v w : Value) : Bool := !v.isNull && !w.isNull && compareValues c v w == .eq

end TableKeeper.Engine
