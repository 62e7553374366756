import Mathlib.Logic.Function.Iterate
import TableKeeper.Proofs.Interleaving

/-!
  TableKeeper.Proofs.Turns — programs that hold their handle from a query to the end of it.

  1. A turn is a step, and with a query also what ends it: the rows are given back, or the
     reader has panicked and the handle learns of that (`Program.turn`). Nobody else has the
     handle in between.
  2. All turns of a program, one after the other, are its run (`Program.turns_run`).
-/

namespace TableKeeper

open Sql

variable {α σ : Type}

namespace Program

/-- What ends a query belongs to the turn that began it. -/
def givenBack (h : Handle σ) : Program α → σ → List Entry → Stepped σ α
  | panic, st, xs => ⟨panic, h.unwind st, xs⟩
  | release s taken rest, st, xs => rest.givenBack h (h.release st) (xs ++ [.released s taken])
  | m, st, xs => ⟨m, st, xs⟩

def turn (h : Handle σ) (m : Program α) (st : σ) : Stepped σ α :=
  let x := m.step h st
  x.rest.givenBack h x.state x.entries

def isPanic : Program α → Bool
  | panic => true
  | _ => false

theorem turn_execute (h : Handle σ) (s : Statement) (k : Except Error WriteOutcome → Program α) (st : σ) :
    (execute s k).turn h st = (k (h.execute st s).result).givenBack h (h.execute st s).state
      ((h.execute st s).notices.map .told ++ [.executed s (h.execute st s).result]) := rfl

theorem turn_query (h : Handle σ) (s : Statement) (k : Except Error (List RowItem) → Program α) (st : σ) :
    (query s k).turn h st = (k (h.query st s).result).givenBack h (h.query st s).state
      ((h.query st s).notices.map .told ++ [.queried s (h.query st s).result]) := rfl

variable {h : Handle σ} {m : Program α} {p : Statement → Prop}

theorem sends_givenBack (hm : m.Sends p) (st : σ) (xs : List Entry) : (m.givenBack h st xs).rest.Sends p := by
  induction m generalizing st xs with
  | release s taken rest ih => exact ih hm _ _
  | _ => exact hm

theorem sends_turn (hm : m.Sends p) (st : σ) : (m.turn h st).rest.Sends p := by
  refine sends_givenBack ?_ _ _
  cases m with
  | execute s k => exact hm.2 _
  | query s k => exact hm.2 _
  | _ => exact hm

theorem yields_givenBack (hm : m.Yields fun _ _ => True) (st : σ) (xs : List Entry) :
    (m.givenBack h st xs).rest.Yields fun _ _ => True := by
  induction m generalizing st xs with
  | release s taken rest ih => exact ih hm _ _
  | _ => exact hm

theorem yields_turn (hm : m.Yields fun _ _ => True) (st : σ) : (m.turn h st).rest.Yields fun _ _ => True :=
  yields_givenBack (yields_step h hm st) _ _

/-- A program that ends whatever the replies has not panicked. -/
theorem not_isPanic (hm : m.Yields fun _ _ => True) : m.isPanic = false := by
  cases m with
  | panic => exact hm.elim
  | _ => rfl

theorem turn_isPanic (hm : m.isPanic = true) (st : σ) : (m.turn h st).rest.isPanic = true := by
  cases m with
  | panic => rfl
  | _ => cases hm

end Program

/-! ## Turn by turn -/

namespace Stepped

variable {h : Handle σ}

/-- After one more turn. -/
def next (h : Handle σ) (x : Stepped σ α) : Stepped σ α :=
  let y := x.rest.turn h x.state
  { y with entries := x.entries ++ y.entries }

/-- What a run has come to. -/
def ended (o : Outcome σ α) : Stepped σ α := ⟨o.result.elim .panic .done, o.state, o.history⟩

def before (xs : List Entry) (x : Stepped σ α) : Stepped σ α := { x with entries := xs ++ x.entries }

theorem before_ended (xs : List Entry) (o : Outcome σ α) : (ended o).before xs = ended (o.after xs) := rfl

theorem next_before (xs : List Entry) (x : Stepped σ α) : (x.before xs).next h = (x.next h).before xs := by
  simp only [next, before, List.append_assoc]

theorem iterate_before (xs : List Entry) (n : Nat) (x : Stepped σ α) :
    (next h)^[n] (x.before xs) = ((next h)^[n] x).before xs := by
  induction n generalizing x with
  | zero => rfl
  | succ n ih => rw [Function.iterate_succ_apply, Function.iterate_succ_apply, next_before, ih]

theorem givenBack_before (m : Program α) (st : σ) (xs ys : List Entry) :
    m.givenBack h st (xs ++ ys) = (m.givenBack h st ys).before xs := by
  induction m generalizing st ys with
  | release s taken rest ih =>
    show rest.givenBack h (h.release st) (xs ++ ys ++ [.released s taken]) = _
    rw [List.append_assoc, ih]
    rfl
  | _ => rfl

end Stepped

namespace Program

open Stepped

variable {h : Handle σ}

/-- After the first step a program can be gone on with. -/
theorem turns_of_step {m : Program α} {st : σ}
    (h' : ∃ n, (Stepped.next h)^[n] ((m.step h st).rest.givenBack h (m.step h st).state []) =
      ended ((m.step h st).rest.run h (m.step h st).state)) :
    ∃ n, (Stepped.next h)^[n] ⟨m, st, []⟩ = ended (m.run h st) := by
  obtain ⟨n, hn⟩ := h'
  have hnext : Stepped.next h ⟨m, st, []⟩ =
      ((m.step h st).rest.givenBack h (m.step h st).state []).before (m.step h st).entries := by
    rw [← givenBack_before, List.append_nil]
    rfl
  refine ⟨n + 1, ?_⟩
  rw [Function.iterate_succ_apply, hnext, iterate_before, hn, before_ended, ← run_step]

/-- Turn by turn a program comes to what its run comes to. What ends a query may be left to
the next turn or be done already. -/
theorem turns_from (m : Program α) (st : σ) :
    (∃ n, (Stepped.next h)^[n] ⟨m, st, []⟩ = ended (m.run h st)) ∧
      ∃ n, (Stepped.next h)^[n] (m.givenBack h st []) = ended (m.run h st) := by
  induction m generalizing st with
  | done a => exact ⟨⟨0, rfl⟩, ⟨0, rfl⟩⟩
  | panic => exact ⟨⟨1, rfl⟩, ⟨0, rfl⟩⟩
  | tell n rest ih =>
    have hrun := turns_of_step (m := tell n rest) (ih st).2
    exact ⟨hrun, hrun⟩
  | execute s k ih =>
    have hrun := turns_of_step (m := execute s k) (ih _ (h.execute st s).state).2
    exact ⟨hrun, hrun⟩
  | query s k ih =>
    have hrun := turns_of_step (m := query s k) (ih _ (h.query st s).state).2
    exact ⟨hrun, hrun⟩
  | release s taken rest ih =>
    refine ⟨turns_of_step (m := release s taken rest) (ih _).2, ?_⟩
    obtain ⟨n, hn⟩ := (ih (h.release st)).2
    refine ⟨n, ?_⟩
    have hback : (release s taken rest).givenBack h st [] = (rest.givenBack h (h.release st) []).before [.released s taken] :=
      givenBack_before rest (h.release st) [.released s taken] []
    rw [hback, iterate_before, hn, before_ended]
    rfl

/-- All turns of a program, one after the other, are its run. -/
theorem turns_run (m : Program α) (st : σ) : ∃ n, (Stepped.next h)^[n] ⟨m, st, []⟩ = ended (m.run h st) :=
  (turns_from m st).1

end Program
end TableKeeper
