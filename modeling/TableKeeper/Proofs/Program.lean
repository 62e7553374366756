import TableKeeper.Program

/-!
  TableKeeper.Proofs.Program — what a program sends, whatever the database replies.

  1. `Sends p` holds of a program when `p` holds of every statement on every branch. It is
     proved of a call from its parts (`sends_bind`).
  2. A run takes one branch at each reply, so its history has no other statement
     (`sends_run`).
  3. `SendsList ss` holds of a program that sends just these statements on every branch, and
     a run of it has sent them (`statements_run`).
  4. `Ends` says what a run against a handle comes to: its result and the handle after it.
     `runAll` runs programs one after the other.
  5. A program that submits one statement ends with what becomes of it (`ends_of_submits`).
-/

namespace TableKeeper

open Sql

variable {α β : Type} {p : Statement → Prop} {σ : Type} {h : Handle σ} {st st' st'' : σ}

/-- Every statement that the program sends on any branch has the property. -/
def Program.Sends (p : Statement → Prop) : Program α → Prop
  | done _ => True
  | panic => True
  | tell _ rest => Sends p rest
  | execute s k => p s ∧ ∀ r, Sends p (k r)
  | query s k => p s ∧ ∀ r, Sends p (k r)
  | release _ _ rest => Sends p rest

/-- The statements that the program sends, one after the other, on every branch. -/
def Program.SendsList (ss : List Statement) : Program α → Prop
  | done _ => ss = []
  | panic => ss = []
  | tell _ rest => SendsList ss rest
  | execute s k => ss.head? = some s ∧ ∀ r, SendsList ss.tail (k r)
  | query s k => ss.head? = some s ∧ ∀ r, SendsList ss.tail (k r)
  | release _ _ rest => SendsList ss rest

/-- A run from `st` gives `a`, and the handle is in `st'` then. -/
def Program.Ends (h : Handle σ) (m : Program α) (st : σ) (a : α) (st' : σ) : Prop :=
  (m.run h st).result = some a ∧ (m.run h st).state = st'

/-- Runs one program after the other: how each ended, and the handle in the end. -/
def Program.runAll (h : Handle σ) : List (Program α) → σ → List (Option α) × σ
  | [], st => ([], st)
  | m :: ms, st =>
    let o := m.run h st
    let rest := runAll h ms o.state
    (o.result :: rest.1, rest.2)

/-- The statements that reached the handle, in order. -/
def Outcome.statements {σ : Type} (o : Outcome σ α) : List Statement :=
  o.history.filterMap fun
    | .executed s _ => some s
    | .queried s _ => some s
    | _ => none

namespace Program

theorem sends_bind {m : Program α} {f : α → Program β} (hm : Sends p m) (hf : ∀ a, Sends p (f a)) :
    Sends p (m.bind f) := by
  induction m with
  | done a => exact hf a
  | panic => trivial
  | tell n rest ih => exact ih hm
  | execute s k ih => exact ⟨hm.1, fun r => ih r (hm.2 r)⟩
  | query s k ih => exact ⟨hm.1, fun r => ih r (hm.2 r)⟩
  | release s taken rest ih => exact ih hm

theorem sends_mono {m : Program α} {q : Statement → Prop} (hm : Sends p m) (h : ∀ s, p s → q s) : Sends q m := by
  induction m with
  | done a => trivial
  | panic => trivial
  | tell n rest ih => exact ih hm
  | execute s k ih => exact ⟨h s hm.1, fun r => ih r (hm.2 r)⟩
  | query s k ih => exact ⟨h s hm.1, fun r => ih r (hm.2 r)⟩
  | release s taken rest ih => exact ih hm

/-- What a handle tells the observers is no statement. -/
theorem statements_told {σ : Type} (ns : List Notice) (e : Entry) (o : Outcome σ α) :
    (o.after (ns.map .told ++ [e])).statements = (o.after [e]).statements := by
  simp only [Outcome.after, Outcome.statements, List.filterMap_append, List.append_assoc]
  induction ns with
  | nil => rfl
  | cons n ns ih => exact ih

theorem sends_run {σ : Type} (h : Handle σ) {m : Program α} (hm : Sends p m) (st : σ) :
    ∀ s ∈ (m.run h st).statements, p s := by
  induction m generalizing st with
  | done a => intro s hs; cases hs
  | panic => intro s hs; cases hs
  | tell n rest ih => exact ih hm st
  | execute s k ih =>
    intro t ht
    rw [run, statements_told] at ht
    rcases List.mem_cons.mp ht with rfl | ht
    · exact hm.1
    · exact ih _ (hm.2 _) _ t ht
  | query s k ih =>
    intro t ht
    rw [run, statements_told] at ht
    rcases List.mem_cons.mp ht with rfl | ht
    · exact hm.1
    · exact ih _ (hm.2 _) _ t ht
  | release s taken rest ih => exact ih hm _

theorem sendsList_bind {ss : List Statement} {m : Program α} {f : α → Program β} (hm : SendsList ss m)
    (hf : ∀ a, SendsList [] (f a)) : SendsList ss (m.bind f) := by
  induction m generalizing ss with
  | done a => exact hm ▸ hf a
  | panic => exact hm
  | tell n rest ih => exact ih hm
  | execute s k ih => exact ⟨hm.1, fun r => ih r (hm.2 r)⟩
  | query s k ih => exact ⟨hm.1, fun r => ih r (hm.2 r)⟩
  | release s taken rest ih => exact ih hm

theorem statements_run {σ : Type} (h : Handle σ) {ss : List Statement} {m : Program α} (hm : SendsList ss m)
    (st : σ) :
    (m.run h st).statements = ss := by
  induction m generalizing ss st with
  | done a => exact hm.symm
  | panic => exact hm.symm
  | tell n rest ih => exact ih hm st
  | execute s k ih =>
    obtain ⟨more, rfl⟩ := List.head?_eq_some_iff.mp hm.1
    rw [run, statements_told]
    exact congrArg (s :: ·) (ih _ (hm.2 _) _)
  | query s k ih =>
    obtain ⟨more, rfl⟩ := List.head?_eq_some_iff.mp hm.1
    rw [run, statements_told]
    exact congrArg (s :: ·) (ih _ (hm.2 _) _)
  | release s taken rest ih => exact ih hm _

theorem ends_bind {m : Program α} {f : α → Program β} {a : α} {b : β} (hm : m.Ends h st a st')
    (hf : (f a).Ends h st' b st'') : (m.bind f).Ends h st b st'' := by
  induction m generalizing st with
  | done a' =>
    obtain ⟨hresult, hstate⟩ := hm
    cases hresult
    cases hstate
    exact hf
  | panic => cases hm.1
  | tell n rest ih => exact ih hm
  | execute s k ih => exact ih _ hm
  | query s k ih => exact ih _ hm
  | release s taken rest ih => exact ih hm

theorem ends_query {s : Statement} {f : Except Error (List RowItem) → Program α} {a : α}
    (hf : (f (h.query st s).result).Ends h (h.query st s).state a st') : (query s f).Ends h st a st' :=
  hf

/-! ### One statement -/

/-- The program ends with the value and sends nothing before that. -/
def Settles (a : α) : Program α → Prop
  | done b => b = a
  | tell _ rest => Settles a rest
  | _ => False

/-- The program sends the statement, and when it is applied ends with the outcome. -/
def Submits (s : Statement) : Program (Except Error WriteOutcome) → Prop
  | tell _ rest => Submits s rest
  | execute t k => t = s ∧ ∀ w, (k (.ok w)).Settles (.ok w)
  | _ => False

theorem settles_bind {m : Program α} {f : α → Program β} {a : α} {b : β} (hm : m.Settles a)
    (hf : (f a).Settles b) : (m.bind f).Settles b := by
  induction m with
  | done a' => exact (show a' = a from hm) ▸ hf
  | tell n rest ih => exact ih hm
  | _ => exact hm.elim

theorem submits_bind {s : Statement} {m : Program (Except Error WriteOutcome)}
    {f : Except Error WriteOutcome → Program (Except Error WriteOutcome)} (hm : m.Submits s)
    (hf : ∀ w, (f (.ok w)).Settles (.ok w)) : (m.bind f).Submits s := by
  induction m with
  | tell n rest ih => exact ih hm
  | execute t k => exact ⟨hm.1, fun w => settles_bind (hm.2 w) (hf w)⟩
  | _ => exact hm.elim

theorem ends_of_settles {m : Program α} {a : α} (hm : m.Settles a) : m.Ends h st a st := by
  induction m with
  | done b => exact ⟨congrArg some hm, rfl⟩
  | tell n rest ih => exact ih hm
  | _ => exact hm.elim

/-- Run by itself, the program comes to what its statement does. -/
theorem ends_of_submits {s : Statement} {m : Program (Except Error WriteOutcome)} {w : WriteOutcome} {ns : List Notice}
    (hm : m.Submits s) (hs : h.execute st s = ⟨.ok w, st', ns⟩) : m.Ends h st (.ok w) st' := by
  induction m with
  | tell n rest ih => exact ih hm
  | execute t k =>
    obtain ⟨rfl, hk⟩ := hm
    have hrest : (k (.ok w)).Ends h st' (.ok w) st' := ends_of_settles (hk w)
    unfold Ends run
    rw [hs]
    exact hrest
  | _ => exact hm.elim

end Program

/-! ## Calls -/

namespace Call

/-- Every statement of the call has the property. -/
def Sends (p : Statement → Prop) (c : Call α) : Prop := Program.Sends p c.run

theorem sends_pure (a : α) : Sends p (pure a : Call α) := trivial

theorem sends_bind {c : Call α} {f : α → Call β} (hc : Sends p c) (hf : ∀ a, Sends p (f a)) : Sends p (c >>= f) :=
  Program.sends_bind hc fun
    | .ok a => hf a
    | .error _ => trivial

/-- A run of the call comes to this. -/
abbrev Ends (h : Handle σ) (c : Call α) (st : σ) (r : Except Error α) (st' : σ) : Prop :=
  Program.Ends h c.run st r st'

/-- Run one after the other, the calls all end with a value, and the handle is in `st'` then. -/
def AllEnd (h : Handle σ) (cs : List (Call α)) (st st' : σ) : Prop :=
  (∀ r ∈ (Program.runAll h (cs.map (·.run)) st).1, ∃ a, r = some (.ok a)) ∧
    (Program.runAll h (cs.map (·.run)) st).2 = st'

theorem allEnd_cons {c : Call α} {cs : List (Call α)} {a : α} (hc : c.Ends h st (.ok a) st')
    (hcs : AllEnd h cs st' st'') : AllEnd h (c :: cs) st st'' := by
  obtain ⟨hresult, hstate⟩ := hc
  refine ⟨fun r hr => ?_, ?_⟩
  · rcases List.mem_cons.mp hr with rfl | hr
    · exact ⟨a, hresult⟩
    · rw [hstate] at hr
      exact hcs.1 r hr
  · show (Program.runAll h (cs.map (·.run)) (c.run.run h st).state).2 = st''
    rw [hstate]
    exact hcs.2

theorem allEnd_singleton {c : Call α} : AllEnd h [c] st st' ↔ ∃ a, c.Ends h st (.ok a) st' := by
  constructor
  · rintro ⟨hall, hstate⟩
    obtain ⟨a, ha⟩ := hall _ List.mem_cons_self
    exact ⟨a, ha, hstate⟩
  · rintro ⟨a, ha⟩
    exact allEnd_cons ha ⟨nofun, rfl⟩

theorem ends_pure (a : α) : (pure a : Call α).Ends h st (.ok a) st := ⟨rfl, rfl⟩

theorem ends_tell (n : Notice) : (tell n).Ends h st (.ok ()) st := ⟨rfl, rfl⟩

theorem ends_bind {c : Call α} {f : α → Call β} {a : α} {r : Except Error β} (hc : c.Ends h st (.ok a) st')
    (hf : (f a).Ends h st' r st'') : (c >>= f).Ends h st r st'' :=
  Program.ends_bind hc hf

theorem ends_execute {s : Statement} {r : Except Error WriteOutcome} (hr : (h.execute st s).result = r)
    (hs : (h.execute st s).state = st') : (execute s).Ends h st r st' :=
  ⟨congrArg some hr, hs⟩

theorem ends_read {s : Statement} {reader : Reader α} {items : List RowItem} {r : Except Error α}
    (hq : (h.query st s).result = .ok items) (hr : (reader.run items).result = some r)
    (hs : h.release (h.query st s).state = st') : (read s reader).Ends h st r st' := by
  unfold read
  refine Program.ends_query ?_
  simp only [hq, hr]
  exact ⟨rfl, hs⟩

theorem ends_read_error {s : Statement} {reader : Reader α} {e : Error} (hq : (h.query st s).result = .error e)
    (hs : (h.query st s).state = st') : (read s reader).Ends h st (.error e) st' := by
  unfold read
  refine Program.ends_query ?_
  simp only [hq]
  exact ⟨rfl, hs⟩

/-- Every row is handed over. -/
theorem ends_fetchAll {s : Statement} {rows : List Record} (hq : (h.query st s).result = .ok (rows.map .ok))
    (hs : h.release (h.query st s).state = st') : (fetchAll s).Ends h st (.ok rows) st' := by
  have hdrained : ∀ rs : List Record, Reader.drained (rs.map .ok) = (.ok rs, rs.length) := by
    intro rs
    induction rs with
    | nil => rfl
    | cons r rs ih =>
      simp only [List.map_cons, Reader.drained, ih]
      rfl
  refine ends_read hq ?_ hs
  simp only [Reader.all, Reader.run, hdrained]

theorem ends_fetchRow {s : Statement} {rows : List Record} (hq : (h.query st s).result = .ok (rows.map .ok))
    (hs : h.release (h.query st s).state = st') : (fetchRow s).Ends h st (.ok rows.head?) st' := by
  refine ends_read hq ?_ hs
  cases rows with
  | nil => rfl
  | cons r rows => rfl

theorem sends_tell (n : Notice) : Sends p (tell n) := trivial

theorem sends_execute {s : Statement} (h : p s) : Sends p (execute s) := ⟨h, fun _ => trivial⟩

theorem sends_read {s : Statement} (h : p s) (reader : Reader α) : Sends p (read s reader) := by
  unfold read
  refine ⟨h, fun r => ?_⟩
  cases r with
  | error e => trivial
  | ok items =>
    dsimp only
    split <;> trivial

theorem sendsList_read (s : Statement) (reader : Reader α) : Program.SendsList [s] (read s reader).run := by
  unfold read
  refine ⟨rfl, fun r => ?_⟩
  cases r with
  | error e => rfl
  | ok items =>
    simp only
    split <;> rfl

end Call
end TableKeeper
