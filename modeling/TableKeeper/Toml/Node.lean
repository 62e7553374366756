import TableKeeper.OrderedMap

/-!
  TableKeeper.Toml.Node — what a TOML text describes, and how its tables grow.

  1. A name is given a value once.
  2. A table remembers how it came to be. One that a longer header implied may still get a
     header of its own, once; one that dotted keys made never does, and one that was written
     as a value stays as it is.
  3. A header may lead through every table but those written as values. A dotted key may
     lead through what dotted keys or longer headers made; the table that takes the value
     must be one that dotted keys made, or the one where the line stands.
  4. A step through a list of tables leads to its newest one.
-/

namespace TableKeeper.Toml

open OrderedMap

/-- How a table came to be. -/
inductive Making where
  | implied
  | header
  | dotted
  | inline
  deriving DecidableEq, Repr

inductive Node where
  | text (s : String)
  | integer (n : Int)
  | boolean (b : Bool)
  | float
  /-- A date, a time, or both. -/
  | moment
  | array (items : List Node)
  | table (made : Making) (entries : List (String × Node))
  /-- Tables under one repeated header. -/
  | tables (newest : List (String × Node)) (older : List (List (String × Node)))

abbrev Entries := List (String × Node)

namespace Entries

def get? (es : Entries) (name : String) : Option Node := findEntry? name es

/-- Gives a new name its value. -/
def add? (name : String) (v : Node) (es : Entries) : Option Entries :=
  if (es.get? name).isSome then none else some (putEntry name v es)

/-! ## Headers -/

/-- Changes the table that a header's path leads to; what is absent on the way is implied. -/
def within? (change : Entries → Option Entries) : List String → Entries → Option Entries
  | [], es => change es
  | k :: path, es =>
    match es.get? k with
    | none => (within? change path []).map fun sub => putEntry k (.table .implied sub) es
    | some (.table .inline _) => none
    | some (.table made sub) => (within? change path sub).map fun sub => putEntry k (.table made sub) es
    | some (.tables newest older) => (within? change path newest).map fun sub => putEntry k (.tables sub older) es
    | some _ => none

/-- Opens a table by its header. -/
def openTable? (name : String) (es : Entries) : Option Entries :=
  match es.get? name with
  | none => some (putEntry name (.table .header []) es)
  | some (.table .implied sub) => some (putEntry name (.table .header sub) es)
  | some _ => none

/-- Starts another table of a list of tables. -/
def openRow? (name : String) (es : Entries) : Option Entries :=
  match es.get? name with
  | none => some (putEntry name (.tables [] []) es)
  | some (.tables newest older) => some (putEntry name (.tables [] (newest :: older)) es)
  | some _ => none

/-! ## Values -/

/-- Gives a name its value below the tables of a dotted key. -/
def assign? (name : String) (v : Node) : List String → Entries → Option Entries
  | [], es => es.add? name v
  | k :: path, es =>
    match es.get? k with
    | none => (assign? name v path []).map fun sub => putEntry k (.table .dotted sub) es
    | some (.table .dotted sub) => (assign? name v path sub).map fun sub => putEntry k (.table .dotted sub) es
    | some (.table .implied sub) =>
      if path.isEmpty then none
      else (assign? name v path sub).map fun sub => putEntry k (.table .implied sub) es
    | some (.tables newest older) =>
      if path.isEmpty then none
      else (assign? name v path newest).map fun sub => putEntry k (.tables sub older) es
    | some _ => none

end Entries
end TableKeeper.Toml
