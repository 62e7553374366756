import TableKeeper.Program

/-!
  TableKeeper.Script — a handle that answers from a list.

  Each statement takes the next reply; when none is left it succeeds, having changed
  nothing or with no rows. A reply may be an error, and otherwise holds both what a change
  did and the rows of a query, of which the statement takes the part that it needs.
-/

namespace TableKeeper

open Sql

namespace Script

structure Answer where
  refusal : Option Error := none
  outcome : WriteOutcome := {}
  rows : List RowItem := []

/-- The next answer and the script after it. -/
def take (script : List Answer) : Answer × List Answer :=
  match script with
  | [] => ({}, [])
  | a :: rest => (a, rest)

def reply {α : Type} (part : Answer → α) (script : List Answer) : Reply (List Answer) α :=
  let (a, rest) := take script
  match a.refusal with
  | some e => { result := .error e, state := rest }
  | none => { result := .ok (part a), state := rest }

def handle : Handle (List Answer) where
  execute script _ := reply Answer.outcome script
  query script _ := reply Answer.rows script
  release := id
  unwind := id

end Script
end TableKeeper
