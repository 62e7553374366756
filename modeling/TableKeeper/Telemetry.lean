/-!
  TableKeeper.Telemetry — what the library tells its observers.

  A notice is a span that opens or closes, an event, a counter step or a histogram sample.
  Durations and times are not part of a notice.
-/

namespace TableKeeper

inductive Level where
  | error
  | warn
  | info
  | debug
  | trace
  deriving DecidableEq, Repr

namespace Level

/-- Severity: a more verbose level has a higher rank. -/
def rank : Level → Nat
  | error => 1
  | warn => 2
  | info => 3
  | debug => 4
  | trace => 5

def name : Level → String
  | error => "ERROR"
  | warn => "WARN"
  | info => "INFO"
  | debug => "DEBUG"
  | trace => "TRACE"

end Level

inductive FieldValue where
  | text (s : String)
  | number (n : Nat)
  deriving DecidableEq, Repr

abbrev FieldList := List (String × FieldValue)

/-- The part of the library that a notice comes from. -/
inductive Origin where
  | store
  | handle
  | lock
  | configuration
  | logging
  deriving DecidableEq, Repr

def Origin.target : Origin → String
  | store => "litestore::storage::record_store"
  | handle => "litestore::storage::sqlite::handle"
  | lock => "litestore::storage::sqlite::connection"
  | configuration => "litestore::config"
  | logging => "litestore::observability::logging"

/-- A stretch of work with a name. Every span is of level INFO. -/
structure Span where
  name : String
  origin : Origin
  fields : FieldList
  deriving DecidableEq, Repr

structure Event where
  level : Level
  origin : Origin
  message : String
  fields : FieldList
  deriving DecidableEq, Repr

inductive Notice where
  | enter (s : Span)
  | leave
  | event (e : Event)
  | counter (name : String) (labels : List (String × String)) (step : Nat)
  | histogram (name : String) (labels : List (String × String))
  deriving DecidableEq, Repr

namespace Notice

def debug (origin : Origin) (message : String) (fields : FieldList) : Notice :=
  .event ⟨.debug, origin, message, fields⟩

def warn (origin : Origin) (message : String) (fields : FieldList) : Notice :=
  .event ⟨.warn, origin, message, fields⟩

/-- How many spans are open after these notices. -/
def openSpans (ns : List Notice) : Nat :=
  ns.foldl (fun n notice =>
    match notice with
    | enter _ => n + 1
    | leave => n - 1
    | _ => n) 0

/-- The notices with every span closed: a panic leaves them all. -/
def closed (ns : List Notice) : List Notice := ns ++ List.replicate (openSpans ns) leave

end Notice
end TableKeeper
