import TableKeeper.OrderedMap
import TableKeeper.Value

/-!
  TableKeeper.Record — a row: columns with values, in column order.

  The order of the columns is the order of a generated INSERT or UPDATE, and of a row that
  was read.
-/

namespace TableKeeper

abbrev Record := OrderedMap Value

namespace Record

/-- The column that holds a row's key. -/
def idColumn : String := "id"

def eqv (r s : Record) : Bool := OrderedMap.eqvBy Value.eqv r s

/-- The record with a key: a column of that name keeps the value it has. -/
def withId (r : Record) (id : Value) : Record :=
  if r.contains idColumn then r else r.put idColumn id

end Record
end TableKeeper
