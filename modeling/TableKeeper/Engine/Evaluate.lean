import TableKeeper.Engine.Aggregate
import TableKeeper.Engine.Table

/-!
  TableKeeper.Engine.Evaluate — the value of a term on a row.

  1. Truth is 1, 0 or null, which is unknown. AND and OR do not look right when the left
     side decides.
  2. A comparison applies the affinity of the side that is a column to the other side. An
     IN list applies the affinity of its left side to each item.
  3. An aggregate is evaluated on every row of the group, and all else on one row of it.
  4. Of a query only the first row is asked for, except when it is looked through for a row.
-/

namespace TableKeeper.Engine

open Number Sql

/-- The operands of a comparison after the affinity of the columns among them. -/
def alike (a b : Option Affinity) (v w : Value) : Value × Value :=
  match a, b with
  | none, none => (v, w)
  | some a, none => (v, a.compared w)
  | none, some b => (b.compared v, w)
  | some a, some b =>
    if a.isNumeric || b.isNumeric then (Affinity.numeric.compared v, Affinity.numeric.compared w) else (v, w)

def compareBy (op : Comparison) (c : Collation) (v w : Value) : Value :=
  if (v.isNull || w.isNull) && !op.seesNull then .null else truthOf (op.holds (compareValues c v w))

def not3 (v : Value) : Value := truthValue ((truth? v).map (!·))

/-- The conjunction of two truths. -/
def and3 (a b : Option Bool) : Option Bool :=
  match a, b with
  | some false, _ | _, some false => some false
  | some true, some true => some true
  | _, _ => none

def or3 (a b : Option Bool) : Option Bool :=
  match a, b with
  | some true, _ | _, some true => some true
  | some false, some false => some false
  | _, _ => none

/-- The value is among the items; null among them leaves a miss unknown. -/
def member (c : Collation) (v : Value) (items : List Value) : Value :=
  if items.isEmpty then truthOf false
  else if v.isNull then .null
  else if items.any (sameValue c v) then truthOf true
  else if items.any Value.isNull then .null
  else truthOf false

/-- Two values are equal; unknown with a null among them. -/
def equal3 (c : Collation) (v w : Value) : Option Bool :=
  if v.isNull || w.isNull then none else some (sameValue c v w)

/-- A row of values is equal to another in all places. -/
def equalRows (sides : List (Option Affinity × Option Affinity × Collation)) (vs ws : List Value) : Option Bool :=
  ((sides.zip (vs.zip ws)).map fun ((a, b, c), v, w) =>
    let (v, w) := alike a b v w
    equal3 c v w).foldl and3 (some true)

/-- What each value of a row and the column that it is compared with bring. -/
def sidesOf (row : List Term) (q : Subquery) : List (Option Affinity × Option Affinity × Collation) :=
  (row.zip q.columns).map fun (t, c) =>
    (t.affinity?, Term.affinity?.present c.affinity, (t.collation?.orElse fun _ => c.collation).getD .binary)

/-- The first of some rows; nothing is asked of the others. -/
def firstRow? : List (Except Fault (List Value)) → Except Fault (Option (List Value))
  | [] => .ok none
  | r :: _ => return some (← r)

/-- The arguments that a filter at their end lets through. -/
def filtered (rows : List (List Value)) : List (List Value) :=
  rows.filterMap fun vs => if (vs.getLast?).bind truth? == some true then some vs.dropLast else none

mutual

def evaluate (f : Frame) : Term → Except Fault Value
  | .literal v => .ok v
  | .parameter i => .ok (bindValue ((f.params[i]?).getD .null))
  | .column n i _ _ => .ok ((f.row? n).elim .null (·.cell i))
  | .rowid n => .ok ((f.row? n).elim .null fun r => .integer r.rowid)
  | .excluded i _ _ => .ok (f.excluded.cell i)
  | .excludedRowid => .ok (.integer f.excluded.rowid)
  | .call g args => do g.apply (Term.collationOf args) f.counters (← evaluateList f args)
  | .aggregate g args => do
    let rows ← f.group.mapM fun rows => evaluateList { f with rows, group := [] } args
    g.kind.value g.distinct (Term.collationOf args) (if g.filtered then filtered rows else rows)
  | .signed s t => return Arithmetic.signed s (← evaluate f t)
  | .not t => return not3 (← evaluate f t)
  | .and a b => do
    let v ← evaluate f a
    if truth? v == some false then return truthOf false
    return truthValue (and3 (truth? v) (truth? (← evaluate f b)))
  | .or a b => do
    let v ← evaluate f a
    if truth? v == some true then return truthOf true
    return truthValue (or3 (truth? v) (truth? (← evaluate f b)))
  | .compare op a b => do
    let (v, w) := alike a.affinity? b.affinity? (← evaluate f a) (← evaluate f b)
    return compareBy op (Term.commonCollation a b) v w
  | .combine op a b => return Arithmetic.combine op (← evaluate f a) (← evaluate f b)
  | .isIn a items => do
    let v ← evaluate f a
    let ws ← evaluateList f items
    return member a.collation v (ws.map (((a.affinity?).getD .blob).compared ·))
  | .isNull t => return truthOf (← evaluate f t).isNull
  | .isTruth t expected => return truthOf (truth? (← evaluate f t) == some expected)
  | .choose c a b => do
    if truth? (← evaluate f c) == some true then evaluate f a else evaluate f b
  | .cast t a => return castTo a (← evaluate f t)
  | .collate t _ => evaluate f t
  | .outer depth t => evaluate (f.around depth) t
  | .query q i => return ((← firstRow? (q.rows f.inner)).bind (·[i]?)).getD .null
  | .hasRows q => return truthOf (← firstRow? (q.rows f.inner)).isSome
  | .isAmong row q => do
    let vs ← evaluateList f row
    let found ← (q.rows f.inner).mapM fun r => return equalRows (sidesOf row q) vs (← r)
    return truthValue (found.foldl or3 (some false))

def evaluateList (f : Frame) : List Term → Except Fault (List Value)
  | [] => .ok []
  | t :: ts => return (← evaluate f t) :: (← evaluateList f ts)

end

/-- Every conjunct is true; none after the first that is not is looked at. -/
def allTrue (f : Frame) : List Term → Except Fault Bool
  | [] => .ok true
  | t :: ts => do
    if truth? (← evaluate f t) == some true then allTrue f ts else return false

end TableKeeper.Engine
