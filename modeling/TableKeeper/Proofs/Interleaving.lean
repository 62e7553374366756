import TableKeeper.Proofs.Exchange

/-!
  TableKeeper.Proofs.Interleaving — callers that take turns on one handle.

  1. A program is run step by step, a statement with its reply being one step (`Program.step`).
     All steps of one program, one after the other, are its run (`Program.run_step`).
  2. A caller makes its calls in turn, and every caller has the same handle. Who takes the
     next step is up to a schedule, so the schedules are the interleavings (`System.run`). The
     log has every exchange, whose it was, and the handle right after it.
  3. What a step of one activity keeps holds of every activity and of the whole log, whatever
     the schedule (`Kept.run`). Each caller's part of the log is what its calls exchanged, in
     the order of the calls (`Orderly.run`).
  4. From wherever it has come to, a system of programs that do not panic can go on to its end
     (`System.finishes`).
-/

namespace TableKeeper

open Sql

variable {α κ σ : Type}

/-! ## Steps of a program -/

/-- A program after a step, the handle then, and what happened. -/
structure Stepped (σ α : Type) where
  rest : Program α
  state : σ
  entries : List Entry

namespace Program

/-- The next step. A program that is over stays as it is. -/
def step (h : Handle σ) : Program α → σ → Stepped σ α
  | done a, st => ⟨done a, st, []⟩
  | panic, st => ⟨panic, st, []⟩
  | tell n rest, st => ⟨rest, st, [.told n]⟩
  | execute s k, st =>
    let r := h.execute st s
    ⟨k r.result, r.state, r.notices.map .told ++ [.executed s r.result]⟩
  | query s k, st =>
    let r := h.query st s
    ⟨k r.result, r.state, r.notices.map .told ++ [.queried s r.result]⟩
  | release s taken rest, st => ⟨rest, h.release st, [.released s taken]⟩

/-- A run begins with a step and goes on from there. -/
theorem run_step (h : Handle σ) (m : Program α) (st : σ) :
    m.run h st = ((m.step h st).rest.run h (m.step h st).state).after (m.step h st).entries := by
  cases m <;> rfl

theorem yields_step (h : Handle σ) {m : Program α} (hm : m.Yields fun _ _ => True) (st : σ) :
    (m.step h st).rest.Yields fun _ _ => True := by
  cases m with
  | done a => exact hm
  | panic => exact hm
  | tell n rest => exact hm
  | execute s k => exact hm _
  | query s k => exact hm _
  | release s taken rest => exact hm

def isDone : Program α → Bool
  | done _ => true
  | _ => false

end Program

/-! ## Callers -/

/-- A call, what has happened in it, and what is left of it. -/
structure Activity (κ α : Type) where
  call : κ
  past : List Entry := []
  rest : Program α

namespace Activity

/-- The statements that the call has sent, with their replies. -/
def exchanges (a : Activity κ α) : List Entry := a.past.filter Entry.isExchange

def step (h : Handle σ) (a : Activity κ α) (st : σ) : Activity κ α :=
  let x := a.rest.step h st
  { a with past := a.past ++ x.entries, rest := x.rest }

/-- The handle after the next step. -/
def stateAfter (h : Handle σ) (a : Activity κ α) (st : σ) : σ := (a.rest.step h st).state

/-- The exchanges of the next step, of which there is one at most. -/
def news (h : Handle σ) (a : Activity κ α) (st : σ) : List Entry := (a.rest.step h st).entries.filter Entry.isExchange

/-- The exchanges, each with its call. -/
def sent (a : Activity κ α) : List (κ × Entry) := a.exchanges.map (a.call, ·)

/-- A step is an exchange, or nothing that the handle takes notice of. -/
theorem news_cases {h : Handle σ} (hrelease : ∀ st, h.release st = st) (a : Activity κ α) (st : σ) :
    (a.news h st = [] ∧ a.stateAfter h st = st) ∨ ∃ x, a.news h st = [x] := by
  unfold news stateAfter
  cases a.rest with
  | done b => exact .inl ⟨rfl, rfl⟩
  | panic => exact .inl ⟨rfl, rfl⟩
  | tell n rest => exact .inl ⟨rfl, rfl⟩
  | execute s k => exact .inr ⟨_, by simp only [Program.step, List.filter_append, Outcome.exchanges_told]; rfl⟩
  | query s k => exact .inr ⟨_, by simp only [Program.step, List.filter_append, Outcome.exchanges_told]; rfl⟩
  | release s taken rest => exact .inl ⟨rfl, hrelease st⟩

theorem exchanges_step (h : Handle σ) (a : Activity κ α) (st : σ) :
    (a.step h st).exchanges = a.exchanges ++ a.news h st :=
  List.filter_append ..

end Activity

/-- The calls of a caller: those that have ended, and those to come, of which the first is
being made. -/
structure Caller (κ α : Type) where
  ended : List (Activity κ α) := []
  waiting : List (Activity κ α)

namespace Caller

def activities (c : Caller κ α) : List (Activity κ α) := c.ended ++ c.waiting

/-- The exchanges of the calls, in the order of the calls. -/
def sent (c : Caller κ α) : List (κ × Entry) := c.activities.flatMap Activity.sent

/-- The caller after the activity at its turn has become another. -/
def advanced (c : Caller κ α) (a : Activity κ α) (rest : List (Activity κ α)) : Caller κ α :=
  if a.rest.isDone then { ended := c.ended ++ [a], waiting := rest } else { c with waiting := a :: rest }

theorem activities_advanced (c : Caller κ α) (a : Activity κ α) (rest : List (Activity κ α)) :
    (c.advanced a rest).activities = c.ended ++ a :: rest := by
  unfold advanced activities
  split
  · exact List.append_assoc ..
  · rfl

end Caller

/-! ## Systems -/

/-- An exchange, whose it was and in which call, and the handle right after it. -/
structure Exchanged (κ σ : Type) where
  caller : Nat
  call : κ
  entry : Entry
  after : σ

/-- The next step as it is logged for the caller with this number. -/
def Activity.logged (h : Handle σ) (a : Activity κ α) (st : σ) (i : Nat) : List (Exchanged κ σ) :=
  (a.news h st).map fun x => ⟨i, a.call, x, a.stateAfter h st⟩

structure System (κ σ α : Type) where
  state : σ
  callers : List (Caller κ α)
  log : List (Exchanged κ σ) := []

namespace System

/-- The activity takes its step for the caller with this number. -/
def take (h : Handle σ) (y : System κ σ α) (i : Nat) (c : Caller κ α) (a : Activity κ α)
    (rest : List (Activity κ α)) : System κ σ α where
  state := a.stateAfter h y.state
  callers := y.callers.set i (c.advanced (a.step h y.state) rest)
  log := y.log ++ a.logged h y.state i

/-- The caller with this number takes a step, if there is one to take. -/
def step (h : Handle σ) (y : System κ σ α) (i : Nat) : System κ σ α :=
  match y.callers[i]? with
  | none => y
  | some c =>
    match c.waiting with
    | [] => y
    | a :: rest => y.take h i c a rest

/-- The callers take their steps as the schedule has them. -/
def run (h : Handle σ) (y : System κ σ α) (schedule : List Nat) : System κ σ α := schedule.foldl (step h) y

/-- Nobody has begun; each caller has calls to make. -/
def start (program : κ → Program α) (state : σ) (calls : List (List κ)) : System κ σ α where
  state
  callers := calls.map fun cs => { waiting := cs.map fun c => { call := c, rest := program c } }

def activities (y : System κ σ α) : List (Activity κ α) := y.callers.flatMap Caller.activities

/-- Every call has ended. -/
def IsFinished (y : System κ σ α) : Prop := ∀ c ∈ y.callers, c.waiting = []

variable {h : Handle σ} {y : System κ σ α}

/-- Nothing happens, or the activity whose turn it is takes its step. -/
theorem step_cases (h : Handle σ) (y : System κ σ α) (i : Nat) :
    y.step h i = y ∨ ∃ c a rest, y.callers[i]? = some c ∧ c.waiting = a :: rest ∧ y.step h i = y.take h i c a rest := by
  unfold step
  cases hc : y.callers[i]? with
  | none => exact .inl rfl
  | some c =>
    cases hw : c.waiting with
    | nil => exact .inl (by simp [hw])
    | cons a rest => exact .inr ⟨c, a, rest, rfl, hw, by simp [hw]⟩

theorem run_append (h : Handle σ) (y : System κ σ α) (before after : List Nat) :
    y.run h (before ++ after) = (y.run h before).run h after :=
  List.foldl_append ..

/-! ## What every schedule keeps -/

/-- The exchanges lead from one state of the handle to another, each from where the one before
it ended, and `link` holds of each and the state that it found. -/
def Linked (link : σ → Exchanged κ σ → Prop) : σ → List (Exchanged κ σ) → σ → Prop
  | st, [], st' => st = st'
  | st, e :: es, st' => link st e ∧ Linked link e.after es st'

theorem Linked.append {link : σ → Exchanged κ σ → Prop} {st st' st'' : σ} {es fs : List (Exchanged κ σ)}
    (h : Linked link st es st') (hf : Linked link st' fs st'') : Linked link st (es ++ fs) st'' := by
  induction es generalizing st with
  | nil => exact h.symm ▸ hf
  | cons e es ih => exact ⟨h.1, ih h.2⟩

/-- Every exchange is linked to the state that it found. -/
theorem Linked.exists_before {link : σ → Exchanged κ σ → Prop} {st st' : σ} {es : List (Exchanged κ σ)}
    (h : Linked link st es st') {e : Exchanged κ σ} (he : e ∈ es) : ∃ found, link found e := by
  induction es generalizing st with
  | nil => cases he
  | cons e' es ih =>
    rcases List.mem_cons.mp he with rfl | he
    · exact ⟨st, h.1⟩
    · exact ih h.2 he

/-- What a step keeps: of the handle and of each activity, and how its exchange is linked. -/
structure Kept (h : Handle σ) (state : σ → Prop) (activity : Activity κ α → Prop) (link : σ → Exchanged κ σ → Prop) :
    Prop where
  step : ∀ {a : Activity κ α} {st : σ}, activity a → state st → state (a.stateAfter h st) ∧ activity (a.step h st)
  link : ∀ {a : Activity κ α} {st : σ}, activity a → state st → ∀ i, Linked link st (a.logged h st i) (a.stateAfter h st)

/-- The handle and every activity are as they are to be, and the log leads here from `first`. -/
structure Holds (state : σ → Prop) (activity : Activity κ α → Prop) (link : σ → Exchanged κ σ → Prop) (first : σ)
    (y : System κ σ α) : Prop where
  state : state y.state
  activity : ∀ c ∈ y.callers, ∀ a ∈ c.activities, activity a
  linked : Linked link first y.log y.state

variable {state : σ → Prop} {activity : Activity κ α → Prop} {link : σ → Exchanged κ σ → Prop} {first : σ}

theorem Kept.take (hk : Kept h state activity link) (hy : Holds state activity link first y) {i : Nat}
    {c : Caller κ α} {a : Activity κ α} {rest : List (Activity κ α)} (hc : y.callers[i]? = some c)
    (hw : c.waiting = a :: rest) : Holds state activity link first (y.take h i c a rest) := by
  have hmem := hy.activity c (List.mem_of_getElem? hc)
  have ha : activity a := hmem a (by simp [Caller.activities, hw])
  obtain ⟨hstate, hstep⟩ := hk.step ha hy.state
  refine ⟨hstate, fun c' hc' b hb => ?_, hy.linked.append (hk.link ha hy.state i)⟩
  rcases List.mem_or_eq_of_mem_set hc' with hc' | rfl
  · exact hy.activity c' hc' b hb
  · rw [Caller.activities_advanced] at hb
    rcases List.mem_append.mp hb with hb | hb
    · exact hmem b (by simp [Caller.activities, hb])
    · rcases List.mem_cons.mp hb with rfl | hb
      · exact hstep
      · exact hmem b (by simp [Caller.activities, hw, hb])

/-- What every step keeps holds after every schedule. -/
theorem Kept.run (hk : Kept h state activity link) (hy : Holds state activity link first y) (schedule : List Nat) :
    Holds state activity link first (y.run h schedule) := by
  induction schedule generalizing y with
  | nil => exact hy
  | cons i schedule ih =>
    refine ih ?_
    rcases step_cases h y i with hnone | ⟨c, a, rest, hc, hw, htake⟩
    · exact hnone.symm ▸ hy
    · exact htake ▸ hk.take hy hc hw

/-- What nobody has begun is the program of a call. -/
theorem activities_start {program : κ → Program α} {calls : List (List κ)} {q : Activity κ α → Prop}
    (hq : ∀ cs ∈ calls, ∀ c ∈ cs, q { call := c, rest := program c }) :
    ∀ c ∈ (start program first calls).callers, ∀ a ∈ c.activities, q a := by
  intro c hc a ha
  obtain ⟨cs, hcs, rfl⟩ := List.mem_map.mp hc
  obtain ⟨call, hcall, rfl⟩ := List.mem_map.mp ha
  exact hq cs hcs call hcall

/-- What holds of all calls to begin with holds of every call and of every exchange. -/
theorem calls_run {p : κ → Prop} (hrelease : ∀ st, h.release st = st) {program : κ → Program α}
    {calls : List (List κ)} (hcalls : ∀ cs ∈ calls, ∀ c ∈ cs, p c) (schedule : List Nat) :
    (∀ c ∈ ((start program first calls).run h schedule).callers, ∀ a ∈ c.activities, p a.call) ∧
      ∀ e ∈ ((start program first calls).run h schedule).log, p e.call := by
  have hkept : Kept h (fun _ => True) (fun a : Activity κ α => p a.call) (fun _ e => p e.call) := by
    refine ⟨fun ha _ => ⟨trivial, ha⟩, fun {a st} ha _ i => ?_⟩
    unfold Activity.logged
    rcases Activity.news_cases hrelease a st with ⟨hnone, hsame⟩ | ⟨x, hone⟩
    · rw [hnone]
      exact hsame.symm
    · rw [hone]
      exact ⟨ha, rfl⟩
  have hstart : Holds (fun _ => True) (fun a : Activity κ α => p a.call) (fun _ e => p e.call) first
      (start program first calls) := ⟨trivial, activities_start hcalls, rfl⟩
  have hholds := hkept.run hstart schedule
  exact ⟨hholds.activity, fun e he => (hholds.linked.exists_before he).elim fun _ hp => hp⟩

/-! ## The log of each caller -/

/-- The part of the log that is a caller's. -/
def logOf (y : System κ σ α) (i : Nat) : List (κ × Entry) :=
  (y.log.filter fun e => e.caller == i).map fun e => (e.call, e.entry)

/-- Each caller makes its calls in turn, and its part of the log is what they have exchanged. -/
structure Orderly (calls : List (List κ)) (y : System κ σ α) : Prop where
  calls : y.callers.map (fun c => c.activities.map (·.call)) = calls
  ended : ∀ c ∈ y.callers, ∀ a ∈ c.ended, a.rest.isDone = true
  unbegun : ∀ c ∈ y.callers, ∀ a ∈ c.waiting.tail, a.past = []
  log : ∀ i c, y.callers[i]? = some c → y.logOf i = c.sent

theorem orderly_start (program : κ → Program α) (state : σ) (calls : List (List κ)) :
    Orderly calls (start program state calls) where
  calls := by
    simp [start, Caller.activities, Function.comp_def]
  ended c hc a ha := by
    obtain ⟨cs, -, rfl⟩ := List.mem_map.mp hc
    cases ha
  unbegun c hc a ha := by
    obtain ⟨cs, -, rfl⟩ := List.mem_map.mp hc
    obtain ⟨call, -, rfl⟩ := List.mem_map.mp (List.mem_of_mem_tail ha)
    rfl
  log i c hc := by
    obtain ⟨cs, -, rfl⟩ := List.mem_map.mp (List.mem_of_getElem? hc)
    simp [logOf, start, Caller.sent, Caller.activities, Activity.sent, Activity.exchanges]

theorem logOf_take (h : Handle σ) (y : System κ σ α) (i j : Nat) (c : Caller κ α) (a : Activity κ α)
    (rest : List (Activity κ α)) :
    (y.take h i c a rest).logOf j =
      y.logOf j ++ if i = j then (a.news h y.state).map (a.call, ·) else [] := by
  have hnews : (a.logged h y.state i).filter (fun e => e.caller == j) = if i = j then a.logged h y.state i else [] := by
    by_cases hij : i = j
    · rw [if_pos hij, List.filter_eq_self]
      simp [Activity.logged, hij]
    · rw [if_neg hij, List.filter_eq_nil_iff]
      simp [Activity.logged, hij]
  simp only [logOf, take, List.filter_append, List.map_append, hnews]
  by_cases hij : i = j
  · simp [hij, Activity.logged, Function.comp_def]
  · simp [hij]

/-- Calls that nobody has begun have exchanged nothing. -/
theorem sent_unbegun {as : List (Activity κ α)} (h : ∀ a ∈ as, a.past = []) : as.flatMap Activity.sent = [] := by
  refine List.flatMap_eq_nil_iff.mpr fun a ha => ?_
  simp [Activity.sent, Activity.exchanges, h a ha]

theorem Orderly.take {calls : List (List κ)} (hy : Orderly calls y) {i : Nat} {c : Caller κ α} {a : Activity κ α}
    {rest : List (Activity κ α)} (hc : y.callers[i]? = some c) (hw : c.waiting = a :: rest) :
    Orderly calls (y.take h i c a rest) := by
  have hunbegun : ∀ b ∈ rest, b.past = [] := fun b hb =>
    hy.unbegun c (List.mem_of_getElem? hc) b (by simpa [hw] using hb)
  obtain ⟨hi, hget⟩ := List.getElem?_eq_some_iff.mp hc
  refine ⟨?_, fun c' hc' b hb => ?_, fun c' hc' b hb => ?_, fun j d hd => ?_⟩
  · have hsame : (c.advanced (a.step h y.state) rest).activities.map (·.call) = c.activities.map (·.call) := by
      rw [Caller.activities_advanced]
      simp [Caller.activities, hw, Activity.step]
    have hcall : y.callers[i].activities.map (·.call) = c.activities.map (·.call) := by rw [hget]
    show (y.callers.set i _).map _ = calls
    rw [List.map_set, hsame, ← hcall, ← List.map_set, List.set_getElem_self, hy.calls]
  · rcases List.mem_or_eq_of_mem_set hc' with hc' | rfl
    · exact hy.ended c' hc' b hb
    · have hold := hy.ended c (List.mem_of_getElem? hc)
      unfold Caller.advanced at hb
      split at hb
      next hdone =>
        rcases List.mem_append.mp hb with hb | hb
        · exact hold b hb
        · exact List.mem_singleton.mp hb ▸ hdone
      · exact hold b hb
  · rcases List.mem_or_eq_of_mem_set hc' with hc' | rfl
    · exact hy.unbegun c' hc' b hb
    · unfold Caller.advanced at hb
      split at hb
      · exact hunbegun b (List.mem_of_mem_tail hb)
      · exact hunbegun b hb
  · have hd' : (y.callers.set i (c.advanced (a.step h y.state) rest))[j]? = some d := hd
    rw [logOf_take]
    by_cases hij : i = j
    · subst hij
      rw [List.getElem?_set_self hi] at hd'
      obtain rfl := Option.some.inj hd'
      rw [if_pos rfl, hy.log i c hc, Caller.sent, Caller.sent, Caller.activities_advanced, Caller.activities, hw]
      simp [sent_unbegun hunbegun, Activity.sent, Activity.exchanges_step]
      rfl
    · rw [List.getElem?_set_ne hij] at hd'
      rw [if_neg hij, List.append_nil]
      exact hy.log j d hd'

theorem Orderly.run {calls : List (List κ)} (hy : Orderly calls y) (schedule : List Nat) :
    Orderly calls (y.run h schedule) := by
  induction schedule generalizing y with
  | nil => exact hy
  | cons i schedule ih =>
    refine ih ?_
    rcases step_cases h y i with hnone | ⟨c, a, rest, hc, hw, htake⟩
    · exact hnone.symm ▸ hy
    · exact htake ▸ hy.take hc hw

/-! ## Going on to the end -/

/-- Wherever the program is the one that a caller is at, the caller can go on to the end of it. -/
def Completes (h : Handle σ) (i : Nat) (rest : List (Activity κ α)) (m : Program α) : Prop :=
  ∀ {y : System κ σ α} {c : Caller κ α} {a : Activity κ α}, y.callers[i]? = some c → c.waiting = a :: rest → a.rest = m →
    ∃ more c', (y.run h more).callers = y.callers.set i c' ∧ c'.waiting = rest

variable {i : Nat} {rest : List (Activity κ α)} {m : Program α}

/-- One step, and either that was the last or what is left can be gone on with. -/
theorem completes_of_step
    (hm : ∀ st, (m.step h st).rest.isDone = false → Completes h i rest (m.step h st).rest) : Completes h i rest m := by
  intro y c a hc hw ha
  have hturn : (y.step h i).callers = y.callers.set i (c.advanced (a.step h y.state) rest) := by
    simp [step, hc, hw, take]
  have hleft : (a.step h y.state).rest = (m.step h y.state).rest := by rw [← ha]; rfl
  cases hdone : (m.step h y.state).rest.isDone with
  | true =>
    refine ⟨[i], _, hturn, ?_⟩
    rw [Caller.advanced, hleft, if_pos hdone]
  | false =>
    have hcaller : (y.step h i).callers[i]? = some { c with waiting := a.step h y.state :: rest } := by
      rw [hturn, List.getElem?_set_self (List.getElem?_eq_some_iff.mp hc).1, Caller.advanced, hleft, hdone]
      rfl
    obtain ⟨more, c', hcallers, hrest⟩ := hm y.state hdone hcaller rfl hleft
    refine ⟨i :: more, c', ?_, hrest⟩
    show ((y.step h i).run h more).callers = _
    rw [hcallers, hturn, List.set_set]

theorem completes (hm : m.Yields fun _ _ => True) : Completes h i rest m := by
  induction m with
  | done a => exact completes_of_step fun _ hdone => by cases hdone
  | panic => exact hm.elim
  | tell n left ih => exact completes_of_step fun _ _ => ih hm
  | execute s k ih => exact completes_of_step fun _ _ => ih _ (hm _)
  | query s k ih => exact completes_of_step fun _ _ => ih _ (hm _)
  | release s taken left ih => exact completes_of_step fun _ _ => ih hm

/-- A caller can go on to the end of its calls. -/
theorem finishes_caller {ws : List (Activity κ α)} (hws : ∀ a ∈ ws, a.rest.Yields fun _ _ => True)
    {y : System κ σ α} {c : Caller κ α} (hc : y.callers[i]? = some c) (hw : c.waiting = ws) :
    ∃ more c', (y.run h more).callers = y.callers.set i c' ∧ c'.waiting = [] := by
  induction ws generalizing y c with
  | nil =>
    refine ⟨[], c, ?_, hw⟩
    obtain ⟨hi, rfl⟩ := List.getElem?_eq_some_iff.mp hc
    exact (List.set_getElem_self hi).symm
  | cons a rest ih =>
    obtain ⟨first, c', hfirst, hrest⟩ := completes (h := h) (hws a List.mem_cons_self) hc hw rfl
    have hi := (List.getElem?_eq_some_iff.mp hc).1
    have hc' : (y.run h first).callers[i]? = some c' := by rw [hfirst, List.getElem?_set_self hi]
    obtain ⟨more, c'', hmore, hend⟩ := ih (fun b hb => hws b (List.mem_cons_of_mem a hb)) hc' hrest
    refine ⟨first ++ more, c'', ?_, hend⟩
    rw [run_append, hmore, hfirst, List.set_set]

/-- Callers whose programs all end can go on to the end of all their calls. -/
theorem finishes (h : Handle σ) (hy : ∀ c ∈ y.callers, ∀ a ∈ c.activities, a.rest.Yields fun _ _ => True) :
    ∃ more, (y.run h more).IsFinished := by
  -- The callers finish in the order of their numbers, and the others stay where they are.
  have hupTo : ∀ n ≤ y.callers.length, ∃ more, (y.run h more).callers.length = y.callers.length ∧
      (∀ j < n, ∀ c, (y.run h more).callers[j]? = some c → c.waiting = []) ∧
      ∀ j ≥ n, (y.run h more).callers[j]? = y.callers[j]? := by
    intro n
    induction n with
    | zero => exact fun _ => ⟨[], rfl, fun j hj => by omega, fun _ _ => rfl⟩
    | succ n ih =>
      intro hn
      obtain ⟨before, hlength, hdone, hsame⟩ := ih (by omega)
      have hc : (y.run h before).callers[n]? = some y.callers[n] := by
        rw [hsame n (Nat.le_refl n), List.getElem?_eq_getElem hn]
      have hwaiting : ∀ a ∈ y.callers[n].waiting, a.rest.Yields fun _ _ => True := fun a ha =>
        hy _ (List.getElem_mem hn) a (List.mem_append_right _ ha)
      obtain ⟨more, c', hmore, hend⟩ := finishes_caller (h := h) hwaiting hc rfl
      refine ⟨before ++ more, ?_, fun j hj c hcj => ?_, fun j hj => ?_⟩
      · rw [run_append, hmore, List.length_set, hlength]
      · rw [run_append, hmore] at hcj
        by_cases hjn : n = j
        · subst hjn
          rw [List.getElem?_set_self (by omega)] at hcj
          exact Option.some.inj hcj ▸ hend
        · rw [List.getElem?_set_ne hjn] at hcj
          exact hdone j (by omega) c hcj
      · rw [run_append, hmore, List.getElem?_set_ne (by omega)]
        exact hsame j (by omega)
  obtain ⟨more, hlength, hdone, -⟩ := hupTo y.callers.length (Nat.le_refl _)
  refine ⟨more, fun c hc => ?_⟩
  obtain ⟨j, hj⟩ := List.mem_iff_getElem?.mp hc
  exact hdone j (by rw [← hlength]; exact (List.getElem?_eq_some_iff.mp hj).1) c hj

end System
end TableKeeper
