import TableKeeper.Proofs.Outcome
import TableKeeper.Store.Observed

/-!
  TableKeeper.Proofs.Store.Measured — the run of an operation, from the run of its body.

  A measured operation runs its body between the ends of a span. At the end stands its account:
  the count, the sample, and a warning if the operation fails (`closing`). It replies with what
  came of the body, and changes nothing else (`run_measured`).
-/

namespace TableKeeper.Store

open Sql

variable {α σ : Type} {h : Handle σ}

def statusOf : Except Error α → String
  | .ok _ => "success"
  | .error _ => "error"

def warningOf (operation table : String) : Except Error α → List Notice
  | .ok _ => []
  | .error e => [.warn .store "record store operation failed"
      [("operation", .text operation), ("table", .text table), ("error", .text e.message)]]

/-- The account of an operation with this result: one count and one sample with its name and
status, and a warning if it failed. -/
def closing (operation table : String) (r : Except Error α) : List Notice :=
  .counter "litestore_operations_total"
      [("backend", "sqlite"), ("operation", operation), ("status", statusOf r)] 1 ::
    .histogram "litestore_operation_duration_ms"
      [("backend", "sqlite"), ("operation", operation), ("status", statusOf r)] ::
    warningOf operation table r

theorem run_tellAll (ns : List Notice) (r : Except Error α) (st : σ) :
    (tellAll ns r).run h st = ⟨some r, st, ns.map .told⟩ := by
  induction ns with
  | nil => rfl
  | cons n ns ih =>
    show ((tellAll ns r).run h st).after [.told n] = _
    rw [ih]
    rfl

theorem run_observe (operation table : String) (c : Call α) (st : σ) :
    (observe operation table c).run.run h st = (c.run.run h st).andThen fun r st' =>
      ⟨some (r.mapError (attributed operation)), st',
        (closing operation table (r.mapError (attributed operation))).map .told⟩ := by
  refine (Program.run_bind _ _ st).trans ?_
  congr 1
  funext r st'
  cases r with
  | ok a => exact run_tellAll _ _ st'
  | error e => exact run_tellAll _ _ st'

theorem run_inSpan (s : Span) (c : Call α) (st : σ) :
    (inSpan s c).run.run h st =
      ((c.run.run h st).andThen fun r st' => ⟨some r, st', [.told .leave]⟩).after [.told (.enter s)] :=
  congrArg (Outcome.after [.told (.enter s)]) (Program.run_bind _ _ st)

/-- The whole run of a measured operation. -/
theorem run_measured (s : Span) (operation table : String) (c : Call α) (st : σ) :
    (inSpan s (observe operation table c)).run.run h st =
      ((c.run.run h st).andThen fun r st' => ⟨some (r.mapError (attributed operation)), st',
        (closing operation table (r.mapError (attributed operation)) ++ [Notice.leave]).map .told⟩).after
          [.told (.enter s)] := by
  rw [run_inSpan, run_observe]
  congr 1
  cases hresult : (c.run.run h st).result with
  | none => rw [Outcome.andThen_none hresult, Outcome.andThen_none rfl, Outcome.andThen_none hresult]
  | some r =>
    rw [Outcome.andThen_some hresult, Outcome.andThen_after, Outcome.andThen_some rfl, Outcome.andThen_some hresult,
      List.map_append]
    rfl

/-- A measured operation asks what its body asks. -/
theorem exchanges_measured (s : Span) (operation table : String) (c : Call α) (st : σ) :
    ((inSpan s (observe operation table c)).run.run h st).exchanges = (c.run.run h st).exchanges := by
  rw [run_measured, Outcome.exchanges_after]
  cases hresult : (c.run.run h st).result with
  | none =>
    rw [Outcome.andThen_none hresult]
    rfl
  | some r =>
    rw [Outcome.andThen_some hresult, Outcome.exchanges_after, Outcome.exchanges, Outcome.exchanges_told,
      List.append_nil]
    rfl

theorem result_inSpan (s : Span) (c : Call α) (st : σ) :
    ((inSpan s c).run.run h st).result = (c.run.run h st).result := by
  rw [run_inSpan]
  cases hresult : (c.run.run h st).result with
  | none => rw [Outcome.andThen_none hresult]; rfl
  | some r => rw [Outcome.andThen_some hresult]; rfl

theorem result_observe (operation table : String) (c : Call α) (st : σ) :
    ((observe operation table c).run.run h st).result =
      (c.run.run h st).result.map (·.mapError (attributed operation)) := by
  rw [run_observe]
  cases hresult : (c.run.run h st).result with
  | none => rw [Outcome.andThen_none hresult]; rfl
  | some r => rw [Outcome.andThen_some hresult]; rfl

theorem result_measured (s : Span) (operation table : String) (c : Call α) (st : σ) :
    ((inSpan s (observe operation table c)).run.run h st).result =
      (c.run.run h st).result.map (·.mapError (attributed operation)) :=
  (result_inSpan s _ st).trans (result_observe operation table c st)

/-! ## What is told -/

theorem tells_tellAll (ns : List Notice) (r : Except Error α) (st : σ) : (tellAll ns r).tells h st = ns := by
  induction ns with
  | nil => rfl
  | cons n ns ih => exact congrArg (n :: ·) ih

theorem tells_observe (operation table : String) (c : Call α) (st : σ) :
    (observe operation table c).run.tells h st = c.run.tells h st ++
      (c.run.run h st).next fun r _ => closing operation table (r.mapError (attributed operation)) := by
  refine (Program.tells_bind _ _ st).trans ?_
  congr 2
  funext r st'
  cases r with
  | ok a => exact tells_tellAll _ _ st'
  | error e => exact tells_tellAll _ _ st'

theorem tells_inSpan (s : Span) (c : Call α) (st : σ) :
    (inSpan s c).run.tells h st =
      .enter s :: (c.run.tells h st ++ (c.run.run h st).next fun _ _ => [.leave]) :=
  congrArg (Notice.enter s :: ·) (Program.tells_bind _ _ st)

/-- The account of a measured operation is told of its result, at the end of its span. -/
theorem tells_measured (s : Span) (operation table : String) (c : Call α) (st : σ) :
    (inSpan s (observe operation table c)).run.tells h st =
      .enter s :: (c.run.tells h st ++ ((inSpan s (observe operation table c)).run.run h st).next fun r _ =>
        closing operation table r ++ [.leave]) := by
  rw [tells_inSpan, tells_observe, Outcome.next_result, Outcome.next_result, Outcome.next_result, result_measured,
    result_observe, List.append_assoc]
  cases (c.run.run h st).result <;> rfl

end TableKeeper.Store
