import TableKeeper.Config.Layer

/-!
  TableKeeper.Logging.Settings — where the log goes, what of it, and in which form.

  The program's own variable for the filter wins over the common one. A variable that is
  blank counts as unset, and a format of another name is passed over with a warning.
-/

namespace TableKeeper

open Text

inductive LogFormat where
  /-- One JSON object per event. -/
  | json
  /-- One line of text per event. -/
  | pretty
  deriving DecidableEq, Repr, Inhabited

namespace LogFormat

def name : LogFormat → String
  | json => "json"
  | pretty => "pretty"

def standard : LogFormat := pretty

/-- Reads a name, whatever its case and the blanks around it. -/
def parse? (s : String) : Option LogFormat :=
  let word := fold (trim s)
  if word = "json" then some json else if word = "pretty" ∨ word = "text" then some pretty else none

def parse (s : String) : Except Error LogFormat :=
  match parse? s with
  | some f => .ok f
  | none => .error (.config ("unknown log format '" ++ s ++ "'"))

end LogFormat

structure LogSettings where
  filter : String := "warn"
  format : LogFormat := .standard
  /-- A file to append to, instead of standard error. -/
  file : Option String := none
  deriving DecidableEq

namespace LogSettings

/-- The settings under the variables, and the warnings on the way. -/
def ofVariables (vars : Variables) : LogSettings × List Notice :=
  let filter := ((vars.nonBlank? "LITESTORE_LOG").or (vars.nonBlank? "RUST_LOG")).getD "warn"
  let file := vars.nonBlank? "LITESTORE_LOG_FILE"
  match vars.nonBlank? "LITESTORE_LOG_FORMAT" with
  | none => ({ filter, file }, [])
  | some raw =>
    match LogFormat.parse? raw with
    | some format => ({ filter, format, file }, [])
    | none =>
      ({ filter, file }, [.warn .logging "ignoring invalid LITESTORE_LOG_FORMAT" [("value", .text raw)]])

end LogSettings
end TableKeeper
