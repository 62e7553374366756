import TableKeeper.Value

/-!
  TableKeeper.Engine.Frame — what an expression is evaluated on.

  1. A frame holds one row of each table, or on a group the rows of all of it, and the values
     of the parameters.
  2. A query inside an expression sees the frames of the queries around it, the nearest
     first.
-/

namespace TableKeeper.Engine

structure Row where
  rowid : Int64
  cells : List Value
  deriving DecidableEq

def Row.cell (r : Row) (i : Nat) : Value := (r.cells[i]?).getD .null

/-- A row of each table; none where an outer join found no row. -/
abbrev Rows := List (Option Row)

/-- What a connection counts. -/
structure Counters where
  lastInsert : Int64 := 0
  changes : Nat := 0

structure Frame where
  rows : Rows := []
  /-- The row that was to be inserted. -/
  excluded : Row := ⟨0, []⟩
  group : List Rows := []
  params : Array Value
  counters : Counters := {}
  outer : List Frame := []
  /-- The row that a recursive query goes on from. -/
  current : List Value := []

namespace Frame

def row? (f : Frame) (source : Nat) : Option Row := (f.rows[source]?).join

/-- The frame of a query beside this one, in which nothing is read yet. -/
def fresh (f : Frame) : Frame :=
  { params := f.params, counters := f.counters, outer := f.outer, current := f.current }

/-- The frame of a query inside this one. -/
def inner (f : Frame) : Frame := { params := f.params, counters := f.counters, outer := f :: f.outer }

/-- The frame that is so many queries further out. -/
def around (f : Frame) (depth : Nat) : Frame := (f.outer[depth]?).getD f.fresh

end Frame
end TableKeeper.Engine
