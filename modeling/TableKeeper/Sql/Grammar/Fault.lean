import TableKeeper.Text.Blank

/-!
  TableKeeper.Sql.Grammar.Fault — why a text is no statement.

  Most faults have a place, which is counted in bytes.
-/

namespace TableKeeper.Sql.Grammar

/-- The largest number of a parameter. -/
def parameterLimit : Nat := 32766

/-- The largest depth of an expression. -/
def heightLimit : Nat := 1000

/-- How much a text may hold; what is unset has no bound. -/
structure Limits where
  parameters : Option Nat := none
  height : Option Nat := none

namespace Limits

/-- The bounds of the engine. -/
def engine : Limits := { parameters := some parameterLimit, height := some heightLimit }

/-- A parameter may have the number. -/
def allowsParameter (l : Limits) (n : Nat) : Bool := l.parameters.all fun most => n ≤ most

/-- An expression may be so deep. -/
def allowsHeight (l : Limits) (n : Nat) : Bool := l.height.all fun most => n ≤ most

end Limits

inductive Fault where
  | unexpected (token : String) (offset : Nat)
  | unreadable (token : String) (offset : Nat)
  | incomplete
  | parameterRange (offset : Nat)
  | tooManyParameters (offset : Nat)
  | tooDeep
  | unevenValues
  | unevenMember (count expected : Nat)
  | unevenAssignment (columns values : Nat)
  | unknownJoin (words : List String) (offset : Nat)
  /-- ON or USING where nothing is joined. -/
  | missingJoin (clause : String)
  | duplicateNamed (name : String)
  | unknownOption (name : String)
  /-- An order or a bound in front of a set operation. -/
  | early (clause operation : String)
  deriving DecidableEq, Repr

namespace Fault

def message : Fault → String
  | unexpected token _ => "near \"" ++ token ++ "\": syntax error"
  | unreadable token _ => "unrecognized token: \"" ++ token ++ "\""
  | incomplete => "incomplete input"
  | parameterRange _ => "variable number must be between ?1 and ?" ++ toString parameterLimit
  | tooManyParameters _ => "too many SQL variables"
  | tooDeep => "Expression tree is too large (maximum depth " ++ toString heightLimit ++ ")"
  | unevenValues => "all VALUES must have the same number of terms"
  | unevenMember count expected =>
    "IN(...) element has " ++ toString count ++ " term" ++ (if count = 1 then "" else "s") ++ " - expected "
      ++ toString expected
  | unevenAssignment columns values => toString columns ++ " columns assigned " ++ toString values ++ " values"
  | unknownJoin words _ => "unknown join type: " ++ Text.joined " " words
  | missingJoin clause => "a JOIN clause is required before " ++ clause
  | duplicateNamed name => "duplicate WITH table name: " ++ name
  | unknownOption name => "unknown table option: " ++ name
  | early clause operation => clause ++ " clause should come after " ++ operation ++ " not before"

def offset? : Fault → Option Nat
  | unexpected _ offset | unreadable _ offset | parameterRange offset | tooManyParameters offset | unknownJoin _ offset =>
    some offset
  | _ => none

end Fault
end TableKeeper.Sql.Grammar
