import TableKeeper.Error
import TableKeeper.Record

/-!
  TableKeeper.Filter — which rows an operation is about.

  A filter holds one constraint per field, in the order in which the fields came; every
  constraint must hold of a row, so the empty filter accepts all rows. An identifier is a
  shorter way to say a filter on the key.
-/

namespace TableKeeper

open Text

/-! ## Patterns -/

/-- The body of a LIKE pattern. -/
structure Pattern where
  body : String
  deriving DecidableEq, Inhabited

namespace Pattern

inductive Fault where
  | noOpening (literal : String)
  | noClosing (literal : String)
  deriving DecidableEq, Repr

def Fault.error : Fault → Error
  | noOpening literal => .invalidInput ("pattern must start with '/': " ++ literal)
  | noClosing literal => .invalidInput ("pattern has no closing '/': " ++ literal)

/-- Reads `/body/flags`: the body ends at the last slash, and the flags are dropped. -/
def parse (literal : String) : Except Fault Pattern :=
  match literal.toList with
  | '/' :: rest =>
    match splitLast? '/' rest with
    | some (body, _) => .ok ⟨.ofList body⟩
    | none => .error (.noClosing literal)
  | _ => .error (.noOpening literal)

def display (p : Pattern) : String := "/" ++ p.body ++ "/"

end Pattern

/-! ## Constraints and filters -/

inductive Constraint where
  | equals (v : Value)
  | oneOf (vs : List Value)
  | matches (p : Pattern)
  deriving DecidableEq, Inhabited

namespace Constraint

def eqvList : List Value → List Value → Bool
  | [], [] => true
  | v :: vs, w :: ws => v.eqv w && eqvList vs ws
  | _, _ => false

def eqv : Constraint → Constraint → Bool
  | equals v, equals w => v.eqv w
  | oneOf vs, oneOf ws => eqvList vs ws
  | .matches p, .matches q => p == q
  | _, _ => false

end Constraint

abbrev Filter := OrderedMap Constraint

namespace Filter

def eqv (f g : Filter) : Bool := OrderedMap.eqvBy Constraint.eqv f g

/-! Each of these replaces a constraint that the field already has. -/

def eq (f : Filter) (field : String) (v : Value) : Filter := f.put field (.equals v)

def oneOf (f : Filter) (field : String) (vs : List Value) : Filter := f.put field (.oneOf vs)

def matching (f : Filter) (field : String) (p : Pattern) : Filter := f.put field (.matches p)

/-- The rows with this key. -/
def byId (id : Value) : Filter := OrderedMap.empty.put Record.idColumn (.equals id)

end Filter

/-- The rows that an operation targets. -/
inductive Identifier where
  | key (v : Value)
  | keys (vs : List Value)
  | filter (f : Filter)

def Identifier.toFilter : Identifier → Filter
  | key v => .byId v
  | keys vs => OrderedMap.empty.put Record.idColumn (.oneOf vs)
  | filter f => f

end TableKeeper
