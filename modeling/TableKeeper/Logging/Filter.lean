import TableKeeper.Telemetry
import TableKeeper.Text.Blank
import TableKeeper.Text.Digits
import TableKeeper.Text.Letter

/-!
  TableKeeper.Logging.Filter — which notices reach the log.

  1. A filter is a list of directives with commas between them. A directive is a threshold,
     a target that lets everything through, or a target, `=` and a threshold.
  2. A threshold is a level's name, whatever its case, or its rank; `off` and `0` let nothing
     through, and nothing at all after `=` lets everything through.
  3. The `=` is looked for in the directive without the blanks around it, and the directive is
     then cut, blanks and all, after as many bytes as stood before the `=`. So blanks belong
     to a target or a level, and in front of a target with a level they spoil both.
  4. The directive with the longest target that a notice's target starts with decides, and
     of two with the same target the later one. A filter without directives lets errors
     through.

  This reads the filters whose directives name targets and levels. What may be said of spans and
  their fields is not read here; nothing about a log depends on who reads its filter.
-/

namespace TableKeeper

open Text

/-- The most verbose level that passes, if any does. -/
abbrev Threshold := Option Level

namespace Threshold

def admits (t : Threshold) (l : Level) : Bool :=
  match t with
  | none => false
  | some most => l.rank ≤ most.rank

def ofRank? : Nat → Option Threshold
  | 0 => some none
  | 1 => some (some .error)
  | 2 => some (some .warn)
  | 3 => some (some .info)
  | 4 => some (some .debug)
  | 5 => some (some .trace)
  | _ => none

def ofName? (s : String) : Option Threshold :=
  if s = "off" then some none
  else if s = "error" then some (some .error)
  else if s = "warn" then some (some .warn)
  else if s = "info" then some (some .info)
  else if s = "debug" then some (some .debug)
  else if s = "trace" then some (some .trace)
  else none

def parse? (cs : List Char) : Option Threshold :=
  match unsigned? cs with
  | some n => ofRank? n
  | none => ofName? (fold (.ofList cs))

end Threshold

structure Directive where
  /-- What a notice's target must start with. -/
  target : List Char := []
  threshold : Threshold
  deriving DecidableEq

namespace Directive

/-- A target starts with a letter, a digit or one of three marks. -/
def opensTarget (c : Char) : Bool := isLetterOrDigit c || c == '-' || c == ':' || c == '_'

/-- A directive without `=`. -/
def ofWord (cs : List Char) : Directive :=
  match Threshold.parse? cs with
  | some t => { threshold := t }
  | none => { target := cs, threshold := some .trace }

def ofLevel? (target level : List Char) : Option Directive :=
  if level.isEmpty then some { target, threshold := some .trace }
  else (Threshold.parse? level).map fun t => { target, threshold := t }

/-- Reads a directive for a target. -/
def parse? (cs : List Char) : Option Directive :=
  let trimmed := trimChars cs
  let before := trimmed.takeWhile fun c => c != '=' && c != '['
  match trimmed.head?.filter opensTarget, trimmed.drop before.length with
  | none, _ => none
  | some _, [] => some (ofWord cs)
  | some _, '=' :: _ => do
    let (target, _) ← splitBytes? (byteLength before) cs
    let (_, level) ← splitBytes? (byteLength before + 1) cs
    ofLevel? target level
  | some _, _ => none

def applies (d : Directive) (target : List Char) : Bool := (after? d.target target).isSome

end Directive

structure LogFilter where
  directives : List Directive
  deriving DecidableEq

namespace LogFilter

/-- The texts between the commas. -/
def parts : List Char → List (List Char)
  | [] => [[]]
  | c :: rest =>
    if c = ',' then [] :: parts rest
    else match parts rest with
      | [] => [[c]]
      | p :: more => (c :: p) :: more

def parse? (s : String) : Option LogFilter :=
  (((parts s.toList).filter (!·.isEmpty)).mapM Directive.parse?).map .mk

/-- Reads a filter. What is wrong with it is not told any closer. -/
def read (s : String) : Except String LogFilter :=
  match parse? s with
  | some f => .ok f
  | none => .error "invalid filter directive"

/-- The directive that decides between two that apply: the second, unless its target is shorter. -/
def closer (best : Option Directive) (d : Directive) : Option Directive :=
  match best with
  | none => some d
  | some b => if d.target.length < b.target.length then some b else some d

def threshold (f : LogFilter) (target : String) : Threshold :=
  if f.directives.isEmpty then some .error
  else
    match (f.directives.filter (·.applies target.toList)).foldl closer none with
    | some d => d.threshold
    | none => none

def admits (f : LogFilter) (origin : Origin) (l : Level) : Bool := (f.threshold origin.target).admits l

end LogFilter
end TableKeeper
