import TableKeeper.Reader
import TableKeeper.Sql.Command
import TableKeeper.Telemetry

/-!
  TableKeeper.Program — what a call asks of a database, as data.

  1. A program is a tree of requests: execute a statement, query rows, give the rows back,
     tell the observers something. Each reply selects the branch to go on with, so one tree
     describes the call under every behaviour of the database.
  2. `run` drives a program against a handle and records its history.
  3. A query holds the handle until its rows are given back. A panic ends the program with
     the handle still held, which the handle learns through `unwind`.
-/

namespace TableKeeper

open Sql

/-- What a statement that changes rows did. -/
structure WriteOutcome where
  rowsAffected : Nat := 0
  lastInsertRowid : Int64 := 0
  deriving DecidableEq, Repr

inductive Program (α : Type) where
  | done (a : α)
  | panic
  | tell (n : Notice) (rest : Program α)
  | execute (s : Statement) (k : Except Error WriteOutcome → Program α)
  | query (s : Statement) (k : Except Error (List RowItem) → Program α)
  | release (s : Statement) (taken : Nat) (rest : Program α)

namespace Program

variable {α β : Type}

def bind : Program α → (α → Program β) → Program β
  | done a, f => f a
  | panic, _ => panic
  | tell n rest, f => tell n (rest.bind f)
  | execute s k, f => execute s fun r => (k r).bind f
  | query s k, f => query s fun r => (k r).bind f
  | release s taken rest, f => release s taken (rest.bind f)

instance : Monad Program where
  pure := done
  bind := bind

end Program

/-- A program that ends with a value or an error. -/
abbrev Call (α : Type) := ExceptT Error Program α

namespace Call

variable {α : Type}

def tell (n : Notice) : Call Unit := ExceptT.mk (.tell n (.done (.ok ())))

def execute (s : Statement) : Call WriteOutcome := ExceptT.mk (.execute s .done)

/-- Queries rows and lets `reader` consume them. -/
def read (s : Statement) (reader : Reader α) : Call α :=
  ExceptT.mk <| .query s fun
    | .error e => .done (.error e)
    | .ok items =>
      let reading := reader.run items
      match reading.result with
      | none => .panic
      | some r => .release s reading.taken (.done r)

def fetchAll (s : Statement) : Call (List Record) := read s .all

def fetchRow (s : Statement) : Call (Option Record) := read s .first

/-- The first column of a record, or null. -/
def firstValue (r : Option Record) : Value :=
  match r with
  | some r => (r.values.head?).getD .null
  | none => .null

/-- The first column of the first row, or null. -/
def fetchScalar (s : Statement) : Call Value := do
  return firstValue (← fetchRow s)

end Call

/-! ## Running -/

/-- A handle's reply, the handle after it, and what it told the observers before. -/
structure Reply (σ α : Type) where
  result : Except Error α
  state : σ
  notices : List Notice := []

/-- Something that executes statements. -/
structure Handle (σ : Type) where
  execute : σ → Statement → Reply σ WriteOutcome
  query : σ → Statement → Reply σ (List RowItem)
  /-- Ends a query normally. -/
  release : σ → σ
  /-- Ends a query by a panic. -/
  unwind : σ → σ

/-- What happened, in order. -/
inductive Entry where
  | told (n : Notice)
  | executed (s : Statement) (r : Except Error WriteOutcome)
  /-- A query was refused, or began with these rows to hand out. -/
  | queried (s : Statement) (r : Except Error (List RowItem))
  /-- A query's rows were given back, after this many were pulled. -/
  | released (s : Statement) (taken : Nat)

/-- How a program ended: `none` is a panic. -/
structure Outcome (σ α : Type) where
  result : Option α
  state : σ
  history : List Entry

namespace Outcome

variable {σ α : Type}

def after (entries : List Entry) (o : Outcome σ α) : Outcome σ α :=
  { o with history := entries ++ o.history }

/-- What the observers were told; a panic has left its spans too. -/
def notices (o : Outcome σ α) : List Notice :=
  Notice.closed (o.history.filterMap fun
    | .told n => some n
    | _ => none)

end Outcome

def Program.run {σ α : Type} (h : Handle σ) : Program α → σ → Outcome σ α
  | done a, st => ⟨some a, st, []⟩
  | panic, st => ⟨none, h.unwind st, []⟩
  | tell n rest, st => (run h rest st).after [.told n]
  | execute s k, st =>
    let r := h.execute st s
    (run h (k r.result) r.state).after (r.notices.map .told ++ [.executed s r.result])
  | query s k, st =>
    let r := h.query st s
    (run h (k r.result) r.state).after (r.notices.map .told ++ [.queried s r.result])
  | release s taken rest, st => (run h rest (h.release st)).after [.released s taken]

end TableKeeper
