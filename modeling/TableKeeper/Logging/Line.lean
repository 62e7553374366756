import TableKeeper.Json.Quoted
import TableKeeper.Logging.Filter
import TableKeeper.Logging.Settings

/-!
  TableKeeper.Logging.Line — events as lines of a log.

  1. An event is logged if the filter lets it through, together with those of the spans
     around it that the filter lets through. Other notices leave no line.
  2. In JSON a span has its fields and its name; the innermost one comes by itself and then
     all of them, outermost first. Numbers stay numbers.
  3. A line of text shows texts as they are, so it breaks where they do.
-/

namespace TableKeeper

open Text

/-- An event and the spans around it, outermost first. -/
structure LogLine where
  event : Event
  spans : List Span
  deriving DecidableEq, Repr

namespace LogLine

/-! ## JSON -/

def jsonOfValue : FieldValue → String
  | .text s => Json.quote s
  | .number n => toString n

def jsonObject (fields : List (String × String)) : String :=
  "\x7b" ++ joined "," (fields.map fun f => Json.quote f.1 ++ ":" ++ f.2) ++ "\x7d"

def jsonFields (fields : FieldList) : List (String × String) := fields.map fun f => (f.1, jsonOfValue f.2)

def jsonOfSpan (s : Span) : String := jsonObject (jsonFields s.fields ++ [("name", Json.quote s.name)])

def jsonOfSpans (spans : List Span) : List (String × String) :=
  match spans.getLast? with
  | none => []
  | some innermost =>
    [("span", jsonOfSpan innermost), ("spans", "[" ++ joined "," (spans.map jsonOfSpan) ++ "]")]

def json (l : LogLine) : String :=
  jsonObject ([("level", Json.quote l.event.level.name),
    ("fields", jsonObject (("message", Json.quote l.event.message) :: jsonFields l.event.fields)),
    ("target", Json.quote l.event.origin.target)] ++ jsonOfSpans l.spans)

/-! ## Text -/

def plainOfValue : FieldValue → String
  | .text s => s
  | .number n => toString n

def plainFields (fields : FieldList) : String := joined " " (fields.map fun f => f.1 ++ "=" ++ plainOfValue f.2)

def plainOfSpan (s : Span) : String := s.name ++ "\x7b" ++ plainFields s.fields ++ "\x7d:"

def plain (l : LogLine) : String :=
  joined " " ([l.event.level.name] ++ l.spans.map plainOfSpan ++ [l.event.origin.target ++ ":", l.event.message]
    ++ if l.event.fields.isEmpty then [] else [plainFields l.event.fields])

def text (l : LogLine) : LogFormat → String
  | .json => l.json ++ "\n"
  | .pretty => l.plain ++ "\n"

end LogLine

/-! ## From notices to lines -/

/-- The lines for notices that come while `around` are the open spans, innermost first. -/
def LogFilter.lines (f : LogFilter) : List Span → List Notice → List LogLine
  | _, [] => []
  | around, .enter s :: rest => f.lines (s :: around) rest
  | around, .leave :: rest => f.lines around.tail rest
  | around, .event e :: rest =>
    if f.admits e.origin e.level then
      ⟨e, (around.filter fun s => f.admits s.origin .info).reverse⟩ :: f.lines around rest
    else f.lines around rest
  | around, _ :: rest => f.lines around rest

end TableKeeper
