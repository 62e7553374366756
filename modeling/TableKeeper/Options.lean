import TableKeeper.Text.Blank
import TableKeeper.Error

/-!
  TableKeeper.Options — projection, order, pagination, and how lists reach the database.

  An order entry carries a raw direction, of which only `1` and `-1` have a meaning; a limit
  or an offset of zero counts as unset.
-/

namespace TableKeeper

open Text

structure QueryOptions where
  /-- The columns to project; all of them when unset. -/
  fields : Option (List String) := none
  order : List (String × Int64) := []
  limit : Option UInt64 := none
  offset : Option UInt64 := none
  deriving DecidableEq, Inhabited

namespace QueryOptions

def ascending : Int64 := 1

def descending : Int64 := -1

/-- The limit, if it bounds anything. -/
def limit? (o : QueryOptions) : Option UInt64 := o.limit.filter (· ≠ 0)

/-- The offset, if it skips anything. -/
def offset? (o : QueryOptions) : Option UInt64 := o.offset.filter (· ≠ 0)

end QueryOptions

/-- How the items of a list constraint reach the database. -/
inductive ListBinding where
  /-- One parameter per item. -/
  | bound
  /-- Each item is a literal in the text. -/
  | inline
  deriving DecidableEq, Repr, Inhabited

namespace ListBinding

def name : ListBinding → String
  | bound => "bound"
  | inline => "inline"

/-- The binding of exactly this name. -/
def ofName? (s : String) : Option ListBinding :=
  if s = "bound" then some bound else if s = "inline" then some inline else none

/-- Reads a name, whatever its case and the blanks around it. -/
def parse? (s : String) : Option ListBinding := ofName? (fold (trim s))

def parse (s : String) : Except Error ListBinding :=
  match parse? s with
  | some b => .ok b
  | none => .error (.invalidInput ("unknown list binding: " ++ s))

/-- The constructor's own name, as it is shown when a store is inspected. -/
def inspect : ListBinding → String
  | bound => "Bound"
  | inline => "Inline"

end ListBinding
end TableKeeper
