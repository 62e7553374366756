import TableKeeper.Options
import TableKeeper.Telemetry
import TableKeeper.Text.Digits

/-!
  TableKeeper.Config.Layer — what a store is opened with, in layers that cover one another.

  1. A layer sets some fields and leaves the others as they are below it.
  2. The variables make a layer: named texts from outside, such as a process's environment. A
     descriptor or a directory that is blank counts as unset, and one that is not is taken as it
     is, with its blanks.
  3. A value that cannot be read sets nothing; the observers are warned of it.
-/

namespace TableKeeper

open Text

structure ConnectionSettings where
  /-- How long to wait for a locked database, in milliseconds. -/
  busyTimeout : UInt64 := 5000
  /-- File databases keep a write-ahead log. -/
  wal : Bool := true
  deriving DecidableEq

structure StoreConfig where
  database : Option String := none
  baseDir : String := "."
  listBinding : ListBinding := .bound
  connection : ConnectionSettings := {}
  deriving DecidableEq

/-- Fields that are set; a field without a value keeps what is below. -/
structure Layer where
  database : Option String := none
  baseDir : Option String := none
  listBinding : Option ListBinding := none
  busyTimeout : Option UInt64 := none
  wal : Option Bool := none
  deriving DecidableEq

namespace Layer

/-- The configuration with the layer on top. -/
def onto (l : Layer) (c : StoreConfig) : StoreConfig :=
  { database := l.database.or c.database
    baseDir := l.baseDir.getD c.baseDir
    listBinding := l.listBinding.getD c.listBinding
    connection :=
      { busyTimeout := l.busyTimeout.getD c.connection.busyTimeout
        wal := l.wal.getD c.connection.wal } }

end Layer

/-! ## From variables -/

/-- The value of each variable that is set. -/
abbrev Variables := String → Option String

namespace Variables

/-- Of several values for one name the last counts. -/
def ofList (es : List (String × String)) : Variables := fun name =>
  (es.reverse.find? (·.1 == name)).map (·.2)

/-- The value, unless it is blank. -/
def nonBlank? (vars : Variables) (name : String) : Option String := (vars name).filter (!isBlankText ·)

end Variables

/-- A yes or no in the words that people use, whatever their case and the blanks around. -/
def Flag.parse? (s : String) : Option Bool :=
  let word := fold (trim s)
  if word = "1" ∨ word = "true" ∨ word = "yes" ∨ word = "on" then some true
  else if word = "0" ∨ word = "false" ∨ word = "no" ∨ word = "off" then some false
  else none

/-- Decimal digits after an optional plus, with blanks around, of a value below `2 ^ 64`. -/
def Milliseconds.parse? (s : String) : Option UInt64 :=
  ((unsigned? (trimChars s.toList)).filter (· < UInt64.size)).map .ofNat

/-- A variable read by `parse?`, with a warning when it is set to something else. -/
def Variables.read {α : Type} (vars : Variables) (parse? : String → Option α) (name : String) :
    Option α × List Notice :=
  match vars name with
  | none => (none, [])
  | some raw =>
    match parse? raw with
    | some a => (some a, [])
    | none => (none, [.warn .configuration ("ignoring invalid " ++ name) [("value", .text raw)]])

/-- The layer that the variables make, and the warnings on the way. -/
def Layer.ofVariables (vars : Variables) : Layer × List Notice :=
  let (listBinding, w₁) := vars.read ListBinding.parse? "LITESTORE_LIST_BINDING"
  let (busyTimeout, w₂) := vars.read Milliseconds.parse? "LITESTORE_BUSY_TIMEOUT_MS"
  let (wal, w₃) := vars.read Flag.parse? "LITESTORE_WAL"
  ({ database := vars.nonBlank? "LITESTORE_DATABASE"
     baseDir := vars.nonBlank? "LITESTORE_BASE_DIR"
     listBinding, busyTimeout, wal }, w₁ ++ w₂ ++ w₃)

/-- The configuration under the variables, and the warnings on the way. -/
def StoreConfig.withVariables (c : StoreConfig) (vars : Variables) : StoreConfig × List Notice :=
  ((Layer.ofVariables vars).1.onto c, (Layer.ofVariables vars).2)

end TableKeeper
