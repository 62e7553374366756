import TableKeeper.Engine.Affinity
import TableKeeper.Engine.Fault
import TableKeeper.Engine.Frame

/-!
  TableKeeper.Engine.Term — expressions whose names are resolved.

  1. A column is the number of the table that it is read from, its place in the row, and
     what it brings to a comparison: affinity and collation.
  2. The affinity of a term is that of the column or the cast that it is; a collation stays
     with a column under a plus or a cast as well. One that is asked for by name wins over
     any that a column brings, and the left side over the right.
  3. A query inside a term is what it gives in a frame. What it reads of the queries around
     it is kept beside that, since a query that reads nothing of them is constant.
-/

namespace TableKeeper.Engine

open Sql

/-- A function of the values of its arguments. -/
inductive Function where
  | abs
  | changes
  | char
  | coalesce
  | concat
  | concatBy
  | glob
  | hex
  | instr
  | lastInsert
  | least
  | length
  | like
  | lower
  | most
  | nullif
  | octets
  | quote
  | replace
  | round
  | same
  | sign
  | substr
  | trim (left right : Bool)
  | typeof
  | unicode
  | upper
  | version
  deriving DecidableEq, Repr

/-- A function of all the rows of a group. -/
inductive Aggregate where
  | count
  | sum
  | total
  | avg
  | min
  | max
  | concat
  deriving DecidableEq, Repr

/-- A call of an aggregate, with its name as it is written and its place. -/
structure AggregateCall where
  kind : Aggregate
  distinct : Bool
  name : String
  offset : Nat
  /-- The last argument is a condition that lets rows through. -/
  filtered : Bool := false

/-- A column of a table of a query around, by how many queries further out that is; no place
is the rowid. -/
structure OuterColumn where
  depth : Nat
  source : Nat
  index : Option Nat

/-- A column that a query gives. -/
structure GivenColumn where
  name : String
  affinity : Affinity := .absent
  collation : Option Collation := none

/-- A query inside something else. -/
structure Subquery where
  columns : List GivenColumn
  reads : List OuterColumn
  /-- Its rows up to the first fault. -/
  rows : Frame → List (Except Fault (List Value))

namespace Subquery

/-- The query reads nothing of the query right around it. -/
def isConstant (q : Subquery) : Bool := q.reads.all (·.depth != 0)

/-- The columns of the first table of the query right around it that it reads. -/
def columnsRead (q : Subquery) : List Nat :=
  q.reads.filterMap fun c => if c.depth = 0 ∧ c.source = 0 then c.index else none

/-- What it reads, as the query right around it sees that. -/
def readsFurther (q : Subquery) : List OuterColumn :=
  q.reads.filterMap fun c => if c.depth = 0 then none else some { c with depth := c.depth - 1 }

/-- What a column of its first row brings to a comparison. -/
def affinity (q : Subquery) (i : Nat) : Affinity := ((q.columns[i]?).map (·.affinity)).getD .absent

end Subquery

inductive Term where
  | literal (v : Value)
  | parameter (index : Nat)
  | column (source index : Nat) (affinity : Affinity) (collation : Collation)
  | rowid (source : Nat)
  /-- A cell of the row that was to be inserted. -/
  | excluded (index : Nat) (affinity : Affinity) (collation : Collation)
  | excludedRowid
  | call (f : Function) (args : List Term)
  | aggregate (g : AggregateCall) (args : List Term)
  | signed (s : Sign) (t : Term)
  | not (t : Term)
  | and (a b : Term)
  | or (a b : Term)
  | compare (op : Comparison) (a b : Term)
  | combine (op : Operator) (a b : Term)
  | isIn (a : Term) (items : List Term)
  | isNull (t : Term)
  /-- The term is true, or with `expected` false, false; and never unknown. -/
  | isTruth (t : Term) (expected : Bool)
  | choose (c a b : Term)
  | cast (t : Term) (affinity : Affinity)
  | collate (t : Term) (c : Collation)
  /-- A term of a query around, by how many queries further out that is. -/
  | outer (depth : Nat) (t : Term)
  /-- A column of the first row of a query. -/
  | query (q : Subquery) (column : Nat)
  | hasRows (q : Subquery)
  /-- A row of terms is among the rows of a query. -/
  | isAmong (row : List Term) (q : Subquery)
  deriving Inhabited

namespace Term

def affinity? : Term → Option Affinity
  | column _ _ a _ | excluded _ a _ | cast _ a => present a
  | rowid _ | excludedRowid => some .integer
  | query q i => present (q.affinity i)
  | collate t _ | outer _ t => affinity? t
  | _ => none
where
  present (a : Affinity) : Option Affinity := if a = .absent then none else some a

mutual

/-- The collation that the term asks for by name. -/
def named? : Term → Option Collation
  | .collate _ c => some c
  | .signed _ t | .not t | .isNull t | .isTruth t _ | .cast t _ => named? t
  | .and a b | .or a b | .compare _ a b | .combine _ a b => (named? a).orElse fun _ => named? b
  | .call _ args | .aggregate _ args => namedAmong? args
  | .isIn a items => (named? a).orElse fun _ => namedAmong? items
  | .choose c a b => (named? c).orElse fun _ => (named? a).orElse fun _ => named? b
  | .outer _ t => named? t
  | .isAmong row _ => namedAmong? row
  | _ => none

def namedAmong? : List Term → Option Collation
  | [] => none
  | t :: ts => (named? t).orElse fun _ => namedAmong? ts

end

/-- The collation that the term brings as a column. -/
def brought? : Term → Option Collation
  | column _ _ _ c => some c
  | excluded _ _ c => some c
  | signed .plus t => brought? t
  | cast t _ | outer _ t => brought? t
  | _ => none

def collation? (t : Term) : Option Collation := t.named?.orElse fun _ => t.brought?

/-- The collation of a term by itself. -/
def collation (t : Term) : Collation := t.collation?.getD .binary

/-- The collation that two terms are compared by. -/
def commonCollation (a b : Term) : Collation :=
  (a.named?.orElse fun _ => b.named?.orElse fun _ => a.brought?.orElse fun _ => b.brought?).getD .binary

/-- The collation of the arguments of a call: that of the first that has one. -/
def collationOf (args : List Term) : Collation := (args.findSome? collation?).getD .binary

mutual

/-- The aggregates that are computed in the term, left to right. -/
def aggregates : Term → List (AggregateCall × List Term)
  | .aggregate g args => [(g, args)]
  | .call _ args => aggregatesAmong args
  | .signed _ t | .not t | .isNull t | .isTruth t _ | .cast t _ | .collate t _ => aggregates t
  | .and a b | .or a b | .compare _ a b | .combine _ a b => aggregates a ++ aggregates b
  | .isIn a items => aggregates a ++ aggregatesAmong items
  | .choose c a b => aggregates c ++ (aggregates a ++ aggregates b)
  | .isAmong row _ => aggregatesAmong row
  | _ => []

def aggregatesAmong : List Term → List (AggregateCall × List Term)
  | [] => []
  | t :: ts => aggregates t ++ aggregatesAmong ts

end

def hasAggregate (t : Term) : Bool := !t.aggregates.isEmpty

mutual

/-- No column is read in the term. -/
def isConstant : Term → Bool
  | .literal _ | .parameter _ => true
  | .column _ _ _ _ | .rowid _ | .excluded _ _ _ | .excludedRowid | .aggregate _ _ => false
  | .call _ args => areConstant args
  | .signed _ t | .not t | .isNull t | .isTruth t _ | .cast t _ | .collate t _ => isConstant t
  | .and a b | .or a b | .compare _ a b | .combine _ a b => isConstant a && isConstant b
  | .isIn a items => isConstant a && areConstant items
  | .choose c a b => isConstant c && isConstant a && isConstant b
  | .outer _ _ => true
  | .query q _ | .hasRows q => q.isConstant
  | .isAmong row q => areConstant row && q.isConstant

def areConstant : List Term → Bool
  | [] => true
  | t :: ts => isConstant t && areConstant ts

end

mutual

/-- The columns of the first table that are read in the term. -/
def columnsRead : Term → List Nat
  | .column 0 i _ _ => [i]
  | .call _ args | .aggregate _ args => columnsReadAmong args
  | .signed _ t | .not t | .isNull t | .isTruth t _ | .cast t _ | .collate t _ => columnsRead t
  | .and a b | .or a b | .compare _ a b | .combine _ a b => columnsRead a ++ columnsRead b
  | .isIn a items => columnsRead a ++ columnsReadAmong items
  | .choose c a b => columnsRead c ++ (columnsRead a ++ columnsRead b)
  | .query q _ | .hasRows q => q.columnsRead
  | .isAmong row q => columnsReadAmong row ++ q.columnsRead
  | _ => []

def columnsReadAmong : List Term → List Nat
  | [] => []
  | t :: ts => columnsRead t ++ columnsReadAmong ts

end

mutual

/-- What is read in the term of the queries around. -/
def outerReads : Term → List OuterColumn
  | .outer depth (.column source i _ _) => [⟨depth, source, some i⟩]
  | .outer depth (.rowid source) => [⟨depth, source, none⟩]
  | .outer depth t => [⟨depth, 0, t.columnsRead.head?⟩]
  | .call _ args | .aggregate _ args => outerReadsAmong args
  | .signed _ t | .not t | .isNull t | .isTruth t _ | .cast t _ | .collate t _ => outerReads t
  | .and a b | .or a b | .compare _ a b | .combine _ a b => outerReads a ++ outerReads b
  | .isIn a items => outerReads a ++ outerReadsAmong items
  | .choose c a b => outerReads c ++ (outerReads a ++ outerReads b)
  | .query q _ | .hasRows q => q.readsFurther
  | .isAmong row q => outerReadsAmong row ++ q.readsFurther
  | _ => []

def outerReadsAmong : List Term → List OuterColumn
  | [] => []
  | t :: ts => outerReads t ++ outerReadsAmong ts

end

/-- The terms of a conjunction, left to right. -/
def conjuncts : Term → List Term
  | and a b => a.conjuncts ++ b.conjuncts
  | t => [t]

end Term
end TableKeeper.Engine
