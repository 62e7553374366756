import TableKeeper.Proofs.Exchange

/-!
  TableKeeper.Proofs.Outcome — runs of programs that are put together.

  1. A run of one program and then another is the first run, gone on with where it ended
     (`Program.run_bind`). A panic stays what it is.
  2. The history of the whole is that of the parts, one behind the other, so its exchanges and
     its notices are too.
  3. The observers hear of a run from the program (`Program.tells`) and from the handle
     (`Program.hears`). Nothing else is told (`countP_told`).
-/

namespace TableKeeper

open Sql

variable {α β σ : Type} {h : Handle σ}

/-- What an entry tells the observers. -/
def Entry.notice? : Entry → Option Notice
  | told n => some n
  | executed _ _ | queried _ _ | released _ _ => none

namespace Outcome

/-- Goes on from where a run ended; a panic is the end. -/
def andThen (o : Outcome σ α) (f : α → σ → Outcome σ β) : Outcome σ β :=
  match o.result with
  | some a => (f a o.state).after o.history
  | none => ⟨none, o.state, o.history⟩

/-- What was told, by the program and by the handle. -/
def told (o : Outcome σ α) : List Notice := o.history.filterMap Entry.notice?

/-- The observers are told this, and a panic leaves its spans. -/
theorem notices_eq (o : Outcome σ α) : o.notices = Notice.closed o.told := by
  unfold notices told
  congr 2
  funext x
  cases x <;> rfl

variable {o : Outcome σ α} {f : α → σ → Outcome σ β} {a : α}

theorem andThen_some (ha : o.result = some a) : o.andThen f = (f a o.state).after o.history := by
  rw [andThen, ha]

theorem andThen_none (hnone : o.result = none) : o.andThen f = ⟨none, o.state, o.history⟩ := by
  rw [andThen, hnone]

theorem after_append (xs ys : List Entry) (o : Outcome σ α) : o.after (xs ++ ys) = (o.after ys).after xs := by
  simp only [after, List.append_assoc]

theorem andThen_after (xs : List Entry) : (o.after xs).andThen f = (o.andThen f).after xs := by
  cases hresult : o.result with
  | none => rw [andThen_none hresult, andThen_none (o := o.after xs) hresult]; rfl
  | some a =>
    rw [andThen_some hresult, andThen_some (o := o.after xs) hresult, ← after_append]
    rfl

theorem exchanges_after (xs : List Entry) (o : Outcome σ α) :
    (o.after xs).exchanges = xs.filter Entry.isExchange ++ o.exchanges := List.filter_append ..

/-- What is to be told from where a run ended; a panic is the end. -/
def next (o : Outcome σ α) (f : α → σ → List Notice) : List Notice :=
  match o.result with
  | some a => f a o.state
  | none => []

theorem next_some {f : α → σ → List Notice} (ha : o.result = some a) : o.next f = f a o.state := by rw [next, ha]

theorem next_none {f : α → σ → List Notice} (hnone : o.result = none) : o.next f = [] := by rw [next, hnone]

theorem next_result (f : α → List Notice) : (o.next fun a _ => f a) = (o.result.map f).getD [] := by
  unfold next
  cases o.result <;> rfl

theorem countP_notices {p : Notice → Bool} (hp : p .leave = false) (o : Outcome σ α) :
    o.notices.countP p = o.told.countP p := by
  have hleaves : ∀ n, (List.replicate n Notice.leave).countP p = 0 := fun n => by
    rw [List.countP_eq_zero]
    intro x hx
    rw [List.eq_of_mem_replicate hx, hp]
    decide
  rw [notices_eq, Notice.closed, List.countP_append, hleaves, Nat.add_zero]

end Outcome

theorem Program.run_bind (m : Program α) (f : α → Program β) (st : σ) :
    (m.bind f).run h st = (m.run h st).andThen fun a st' => (f a).run h st' := by
  induction m generalizing st with
  | done a => rfl
  | panic => rfl
  | tell n rest ih =>
    show ((rest.bind f).run h st).after _ = _
    rw [ih, run, Outcome.andThen_after]
  | execute s k ih =>
    show (((k _).bind f).run h _).after _ = _
    rw [ih, run, Outcome.andThen_after]
  | query s k ih =>
    show (((k _).bind f).run h _).after _ = _
    rw [ih, run, Outcome.andThen_after]
  | release s taken rest ih =>
    show ((rest.bind f).run h _).after _ = _
    rw [ih, run, Outcome.andThen_after]

/-! ## Who tells what -/

namespace Program

/-- What a run of the program tells by itself. -/
def tells (h : Handle σ) : Program α → σ → List Notice
  | done _, _ => []
  | panic, _ => []
  | tell n rest, st => n :: tells h rest st
  | execute s k, st => tells h (k (h.execute st s).result) (h.execute st s).state
  | query s k, st => tells h (k (h.query st s).result) (h.query st s).state
  | release _ _ rest, st => tells h rest (h.release st)

/-- What the handle tells in a run of the program. -/
def hears (h : Handle σ) : Program α → σ → List Notice
  | done _, _ => []
  | panic, _ => []
  | tell _ rest, st => hears h rest st
  | execute s k, st => (h.execute st s).notices ++ hears h (k (h.execute st s).result) (h.execute st s).state
  | query s k, st => (h.query st s).notices ++ hears h (k (h.query st s).result) (h.query st s).state
  | release _ _ rest, st => hears h rest (h.release st)

theorem tells_bind (m : Program α) (f : α → Program β) (st : σ) :
    (m.bind f).tells h st = m.tells h st ++ (m.run h st).next fun a st' => (f a).tells h st' := by
  induction m generalizing st with
  | done a => rfl
  | panic => rfl
  | tell n rest ih => exact congrArg (n :: ·) (ih st)
  | execute s k ih => exact ih _ _
  | query s k ih => exact ih _ _
  | release s taken rest ih => exact ih _

theorem told_exchange (ns : List Notice) {e : Entry} (he : e.notice? = none) (o : Outcome σ α) :
    (o.after (ns.map .told ++ [e])).told = ns ++ o.told := by
  have hns : (ns.map Entry.told).filterMap Entry.notice? = ns := by
    rw [List.filterMap_map]
    exact List.filterMap_some
  simp only [Outcome.told, Outcome.after, List.filterMap_append, hns, List.filterMap_cons, he, List.filterMap_nil,
    List.append_nil]

/-- What the program tells is among what is told, in its order. -/
theorem tells_sublist (m : Program α) (st : σ) : (m.tells h st).Sublist (m.run h st).told := by
  induction m generalizing st with
  | done a => exact List.Sublist.refl _
  | panic => exact List.Sublist.refl _
  | tell n rest ih => exact (ih st).cons_cons n
  | execute s k ih =>
    rw [run, told_exchange _ rfl]
    exact (ih _ _).trans (List.sublist_append_right _ _)
  | query s k ih =>
    rw [run, told_exchange _ rfl]
    exact (ih _ _).trans (List.sublist_append_right _ _)
  | release s taken rest ih => exact ih _

/-- Whatever is told is told by the program or by the handle. -/
theorem countP_told (p : Notice → Bool) (m : Program α) (st : σ) :
    (m.run h st).told.countP p = (m.tells h st).countP p + (m.hears h st).countP p := by
  induction m generalizing st with
  | done a => rfl
  | panic => rfl
  | tell n rest ih =>
    have htold : ((tell n rest).run h st).told = n :: (rest.run h st).told := rfl
    rw [htold, tells, hears, List.countP_cons, List.countP_cons, ih]
    omega
  | execute s k ih =>
    rw [run, told_exchange _ rfl, hears, List.countP_append, List.countP_append, ih, tells]
    omega
  | query s k ih =>
    rw [run, told_exchange _ rfl, hears, List.countP_append, List.countP_append, ih, tells]
    omega
  | release s taken rest ih => exact ih _

end Program
end TableKeeper
