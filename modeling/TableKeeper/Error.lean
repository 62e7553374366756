/-!
  TableKeeper.Error — what an operation can fail with.

  The kinds are few and part of the answer: a database that cannot be opened, an argument
  that has no meaning, a statement that failed (with the operation that ran it), and a
  configuration that cannot be used. `message` is the one place with the wording.
-/

namespace TableKeeper

inductive Error where
  | connection (path cause : String)
  | invalidInput (text : String)
  | operationFailed (operation cause : String)
  | config (text : String)
  deriving DecidableEq, Repr

namespace Error

def message : Error → String
  | connection path cause => "cannot connect to '" ++ path ++ "': " ++ cause
  | invalidInput text => "invalid input: " ++ text
  | operationFailed operation cause => "operation '" ++ operation ++ "' failed: " ++ cause
  | config text => "configuration error: " ++ text

end Error
end TableKeeper
