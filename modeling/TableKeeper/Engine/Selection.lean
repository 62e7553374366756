import TableKeeper.Engine.Reading

/-!
  TableKeeper.Engine.Selection — the rows of a query.

  1. Without groups a row goes out for each row that is read, and with groups one for each
     group: the groups in the order of their values, and a group of no values even when
     nothing is read. What is no aggregate is taken from the group's first row, or from that
     of its least or greatest value.
  2. DISTINCT keeps the first of equal rows. Sorted rows that tie stay as they were.
  3. A set operation other than UNION ALL leaves each row once, in order.
  4. OFFSET and LIMIT are applied last, as rows go out, so a fault shows only when the row
     that has it is reached; what is sorted or grouped is read to its end first. A bound
     must be an integer; a negative limit bounds nothing.
  5. A recursive query begins with the rows of some parts; each row that goes out is then
     what its other parts go on from.
-/

namespace TableKeeper.Engine

open Sql

/-! ## Prepared queries -/

structure OutputColumn where
  name : String
  term : Term

structure SortTerm where
  term : Term
  descending : Bool := false
  nullsLast : Option Bool := none

structure PreparedCore where
  distinct : Bool
  columns : List OutputColumn
  reading : Reading
  /-- One row goes out for each group. -/
  grouping : Bool
  groups : List Term
  having : Option Term

inductive PreparedPart where
  | core (c : PreparedCore)
  | values (rows : List (List Term))

structure PreparedSelect where
  columns : List String
  first : PreparedPart
  others : List (SetOperation × PreparedPart)
  /-- Terms over the rows that are read, or with several parts over the rows that go out. -/
  order : List SortTerm
  limit : Option Term
  offset : Option Term

namespace PreparedPart

/-- The columns that go out of a part. -/
def terms : PreparedPart → List Term
  | core c => c.columns.map (·.term)
  | values rows => rows.headD []

def names : PreparedPart → List String
  | core c => c.columns.map (·.name)
  | values rows => (List.range (rows.headD []).length).map fun i => "column" ++ toString (i + 1)

def isGrouping : PreparedPart → Bool
  | core c => c.grouping
  | values _ => false

end PreparedPart

/-- The collation of a column of all the parts: that of the first that has one. -/
def partsCollation (ps : List PreparedPart) (i : Nat) : Collation :=
  (ps.findSome? fun p => (p.terms[i]?).bind Term.collation?).getD .binary

/-- A row that goes out, or the fault in its place. -/
abbrev Item := Except Fault (List Value)

/-- The cells of a row that goes out, and what it is sorted by. -/
abbrev Outgoing := List Value × List Value

/-! ## Order -/

/-- The order of two rows by their values. -/
def compareCells : List Collation → List Value → List Value → Ordering
  | c :: cs, v :: vs, w :: ws => (compareValues c v w).then (compareCells cs vs ws)
  | _, _, _ => .eq

def SortTerm.compare (s : SortTerm) (v w : Value) : Ordering :=
  match s.nullsLast, v.isNull, w.isNull with
  | some l, true, false => if l then .gt else .lt
  | some l, false, true => if l then .lt else .gt
  | _, _, _ =>
    let o := compareValues s.term.collation v w
    if s.descending then o.swap else o

def compareKeys : List SortTerm → List Value → List Value → Ordering
  | s :: ss, v :: vs, w :: ws => (s.compare v w).then (compareKeys ss vs ws)
  | _, _, _ => .eq

/-- The first of each kind of equal rows. -/
def distinctBy {α : Type} (same : α → α → Bool) : List α → List α
  | [] => []
  | a :: rest => a :: (distinctBy same rest).filter fun b => !same a b

/-- Runs of neighbours that are equal. -/
def runsBy {α : Type} (same : α → α → Bool) : List α → List (List α)
  | [] => []
  | a :: rest =>
    match runsBy same rest with
    | [] => [[a]]
    | [] :: runs => [a] :: runs
    | (b :: run) :: runs => if same a b then (a :: b :: run) :: runs else [a] :: (b :: run) :: runs

/-! ## Groups -/

/-- The place of the row that the last least or greatest value is in, if one is computed. -/
def extremePlace? (f : Frame) (calls : List (AggregateCall × List Term)) (rows : List Rows) :
    Except Fault (Option Nat) :=
  let extreme := calls.filterMap fun (g, args) =>
    match g.kind with
    | .min => some (Ordering.lt, args)
    | .max => some (Ordering.gt, args)
    | _ => none
  match extreme.getLast? with
  | none => .ok none
  | some (wanted, args) => do
    let vs ← rows.mapM fun rows => evaluateList { f with rows } args
    return some (Grouped.chosen (Term.collationOf args) wanted (vs.map (·.headD .null)))

namespace PreparedCore

/-- The aggregates of a query: in its columns, its order and HAVING. -/
def calls (c : PreparedCore) (order : List SortTerm) : List (AggregateCall × List Term) :=
  (c.columns.map (·.term) ++ order.map (·.term) ++ c.having.toList).flatMap Term.aggregates

/-- A frame on a group. -/
def groupFrame (c : PreparedCore) (order : List SortTerm) (f : Frame) (rows : List Rows) : Except Fault Frame := do
  let place ← extremePlace? f (c.calls order) rows
  return { f with rows := (rows[place.getD 0]?).getD [], group := rows }

/-- The rows by their groups. -/
def grouped (c : PreparedCore) (f : Frame) (rows : List Rows) : Except Fault (List (List Rows)) := do
  if c.groups.isEmpty then return [rows]
  let collations := c.groups.map Term.collation
  let keyed ← rows.mapM fun rows => return (← evaluateList { f with rows } c.groups, rows)
  let sorted := keyed.mergeSort fun a b => compareCells collations a.1 b.1 != .gt
  return (runsBy (fun a b => compareCells collations a.1 b.1 == .eq) sorted).map fun run => run.map (·.2)

/-- What each row goes out of: a row that is read, or a group. -/
def frames (c : PreparedCore) (order : List SortTerm) (f : Frame) : List (Except Fault Frame) :=
  let read := c.reading.rows f
  if !c.grouping then read.map fun r => r.map fun rows => { f with rows }
  else
    let groups : Except Fault (List Frame) := do
      let groups ← c.grouped f (← Reading.sequence read)
      groups.mapM (c.groupFrame order f)
    match groups with
    | .error e => [.error e]
    | .ok fs => Reading.keeping (fun f => allTrue f c.having.toList) (fs.map .ok)

/-- The rows of one SELECT. -/
def outgoing (c : PreparedCore) (order : List SortTerm) (f : Frame) : List (Except Fault Outgoing) :=
  let out := (c.frames order f).map fun g => do
    let g ← g
    let cells ← evaluateList g (c.columns.map (·.term))
    return (cells, ← evaluateList g (order.map (·.term)))
  let collations := c.columns.map (·.term.collation)
  let same (a b : Except Fault Outgoing) : Bool :=
    match a, b with
    | .ok a, .ok b => compareCells collations a.1 b.1 == .eq
    | _, _ => false
  if c.distinct then distinctBy same out else out

end PreparedCore

/-- All rows in order, or the one fault that reading them meets. -/
def sorted (order : List SortTerm) (rows : List (Except Fault Outgoing)) : List Item :=
  if order.isEmpty then rows.map fun r => r.map (·.1)
  else
    match Reading.sequence rows with
    | .error e => [.error e]
    | .ok rs => (rs.mergeSort fun a b => compareKeys order a.2 b.2 != .gt).map fun r => .ok r.1

/-! ## Set operations -/

def PreparedPart.items (p : PreparedPart) (f : Frame) : List Item :=
  match p with
  | .core c => sorted [] (c.outgoing [] f)
  | .values rows => rows.map (evaluateList f)

/-- Each row once, in order; of equal rows the last. -/
def asSet (cs : List Collation) (rows : List (List Value)) : List (List Value) :=
  let kept := (distinctBy (fun a b => compareCells cs a b == .eq) rows.reverse).reverse
  kept.mergeSort fun a b => compareCells cs a b != .gt

def combined (cs : List Collation) (op : SetOperation) (xs ys : List Item) : List Item :=
  let setwise (f : List (List Value) → List (List Value) → List (List Value)) : List Item :=
    match (do return f (← Reading.sequence xs) (← Reading.sequence ys) : Except Fault (List (List Value))) with
    | .error e => [.error e]
    | .ok rows => rows.map .ok
  let among (rows : List (List Value)) (r : List Value) : Bool := rows.any fun s => compareCells cs r s == .eq
  match op with
  | .unionAll => Reading.upToFault (xs ++ ys)
  | .union => setwise fun a b => asSet cs (a ++ b)
  | .intersect => setwise fun a b => asSet cs (a.filter (among b))
  | .except => setwise fun a b => asSet cs (a.filter fun r => !among b r)

namespace PreparedSelect

/-- The collations that the columns of all parts are compared by. -/
def collations (q : PreparedSelect) : List Collation :=
  (List.range q.columns.length).map (partsCollation (q.first :: q.others.map (·.2)))

/-- A row that goes out, with what it is sorted by. -/
def keyed (q : PreparedSelect) (f : Frame) (item : Item) : Except Fault Outgoing := do
  let cells ← item
  return (cells, ← evaluateList { f with rows := [some ⟨0, cells⟩] } (q.order.map (·.term)))

/-- The rows in order, before the bounds. -/
def ordered (q : PreparedSelect) (f : Frame) : List Item :=
  match q.first, q.others with
  | .core c, [] => sorted (if c.grouping && c.groups.isEmpty then [] else q.order) (c.outgoing q.order f)
  | first, others =>
    let items := others.foldl (fun xs (op, p) => combined q.collations op xs (p.items f)) (first.items f)
    sorted q.order (items.map (q.keyed f))

end PreparedSelect

/-! ## Bounds -/

/-- A bound as a number; text and reals count when they are whole. -/
def boundOf (v : Value) : Except Fault Int :=
  match Affinity.store .integer v with
  | .integer n => .ok n.toInt
  | _ => .error .mismatch

/-- Leaves out the first `n` rows; a fault before the last of them stands. -/
def skipping {α : Type} : Nat → List (Except Fault α) → List (Except Fault α)
  | 0, xs => xs
  | _ + 1, [] => []
  | _ + 1, .error e :: _ => [.error e]
  | n + 1, .ok _ :: rest => skipping n rest

/-- The limit and the offset. A limit of zero leaves the offset alone. -/
def bounds (limit offset : Option Term) (f : Frame) : Except Fault (Option Int × Int) := do
  let limit ← limit.mapM fun t => do boundOf (← evaluate f t)
  if limit = some 0 then return (limit, 0)
  let offset ← offset.mapM fun t => do boundOf (← evaluate f t)
  return (limit, offset.getD 0)

/-- The rows within the bounds. -/
def bounded {α : Type} (limit : Option Int) (offset : Int) (items : List (Except Fault α)) : List (Except Fault α) :=
  let items := skipping offset.toNat items
  match limit with
  | some n => if n < 0 then items else items.take n.toNat
  | none => items

def runSelect (f : Frame) (q : PreparedSelect) : List Item :=
  match bounds q.limit q.offset f with
  | .error e => [.error e]
  | .ok (limit, offset) => bounded limit offset (q.ordered f)

/-! ## Recursion -/

/-- A query that goes on from its own rows. -/
structure Recursion where
  /-- What it begins with. -/
  first : PreparedSelect
  steps : List PreparedPart
  /-- Of equal rows only the first counts. -/
  distinct : Bool
  /-- Terms over the rows that go out. -/
  order : List SortTerm
  limit : Option Term
  offset : Option Term

/-- The rows that have not gone out, and all that ever waited if equal ones count once. -/
structure Waiting where
  rows : List Outgoing := []
  seen : List (List Value) := []

namespace Recursion

/-- How many rows go out at most. -/
def rowLimit : Nat := 2 ^ 16

def collations (r : Recursion) : List Collation :=
  (List.range r.first.columns.length).map (partsCollation (r.first.first :: r.first.others.map (·.2) ++ r.steps))

def keyed (r : Recursion) (f : Frame) (cells : List Value) : Except Fault Outgoing :=
  return (cells, ← evaluateList { f with rows := [some ⟨0, cells⟩] } (r.order.map (·.term)))

/-- One more row waits, unless it is one that did. -/
def enqueue (r : Recursion) (w : Waiting) (row : Outgoing) : Waiting :=
  if !r.distinct then { w with rows := w.rows ++ [row] }
  else if w.seen.any fun s => compareCells r.collations s row.1 == .eq then w
  else { rows := w.rows ++ [row], seen := row.1 :: w.seen }

def enqueueAll (r : Recursion) (f : Frame) (w : Waiting) (found : List Item) : Except Fault Waiting := do
  let rows ← (← Reading.sequence found).mapM (r.keyed f)
  return rows.foldl r.enqueue w

/-- The first of the rows in order, and the others. -/
def next? (r : Recursion) (w : Waiting) : Option (Outgoing × Waiting) :=
  match w.rows with
  | [] => none
  | row :: rest =>
    if r.order.isEmpty then some (row, { w with rows := rest })
    else
      match w.rows.mergeSort fun a b => compareKeys r.order a.2 b.2 != .gt with
      | [] => none
      | least :: rest => some (least, { w with rows := rest })

/-- The rows that go out, the last first; `out` are those that did. -/
def outgoing (r : Recursion) (f : Frame) : Nat → Waiting → List Item → List Item
  | 0, _, out => out
  | fuel + 1, w, out =>
    match r.next? w with
    | none => out
    | some (row, w) =>
      let found := r.steps.flatMap fun p => p.items { f with current := row.1 }
      match r.enqueueAll f w found with
      | .error e => .error e :: .ok row.1 :: out
      | .ok w => r.outgoing f fuel w (.ok row.1 :: out)

def rows (r : Recursion) (f : Frame) : List Item :=
  match bounds r.limit r.offset f with
  | .error e => [.error e]
  | .ok (limit, offset) =>
    match r.enqueueAll f {} (runSelect f r.first) with
    | .error e => [.error e]
    | .ok w =>
      let most := match limit with
        | some n => if n < 0 then rowLimit else min rowLimit (n + offset).toNat
        | none => rowLimit
      bounded limit offset (r.outgoing f most w []).reverse

end Recursion

/-! ## Queries inside others -/

namespace PreparedCore

def terms (c : PreparedCore) : List Term :=
  c.columns.map (·.term) ++ c.reading.constants ++ c.reading.conditions ++ c.reading.sources.filterMap (·.condition)
    ++ c.groups ++ c.having.toList

/-- What it reads of the queries around. -/
def reads (c : PreparedCore) : List OuterColumn :=
  c.terms.flatMap Term.outerReads ++ (c.reading.sources.filterMap (·.query)).flatMap (·.reads)

end PreparedCore

def PreparedPart.reads : PreparedPart → List OuterColumn
  | .core c => c.reads
  | .values rows => rows.flatten.flatMap Term.outerReads

/-- The columns that parts give together: of each the affinity of the first that has one. -/
def givenColumns (names : List String) (ps : List PreparedPart) : List GivenColumn :=
  names.zipIdx.map fun (name, i) =>
    let terms := ps.filterMap fun p => p.terms[i]?
    { name
      affinity := (terms.findSome? Term.affinity?).getD .absent
      collation := (terms.head?).bind Term.collation? }

namespace PreparedSelect

def parts (q : PreparedSelect) : List PreparedPart := q.first :: q.others.map (·.2)

/-- The query as a part of something else. -/
def subquery (q : PreparedSelect) : Subquery where
  columns := givenColumns q.columns q.parts
  reads := q.parts.flatMap (·.reads) ++ (q.order.map (·.term)).flatMap Term.outerReads
  rows f := runSelect f q

end PreparedSelect

def Recursion.subquery (r : Recursion) : Subquery where
  columns := givenColumns r.first.columns r.first.parts
  reads := (r.first.parts ++ r.steps).flatMap (·.reads)
  rows f := r.rows f

end TableKeeper.Engine
