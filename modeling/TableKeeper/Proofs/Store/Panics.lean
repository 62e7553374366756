import TableKeeper.Proofs.Client
import TableKeeper.Proofs.Store.Bindings
import TableKeeper.Proofs.Store.Provenance

/-!
  TableKeeper.Proofs.Store.Panics — calls that share a client, some of which panic.

  1. Each turn is one call's, and whose it is is up to a schedule (`Sharing`). With its turns in a
     row, a call comes to what its run comes to (`run_alone`), so some schedules make the calls
     one after the other.
  2. Only a call with a reader of its own can panic (`ends_perform`), and what it sends is a
     query (`sends_queries`). So each of its turns leaves a client at rest as it was.
  3. At every moment the calls that do not panic have come as far as if those that do had never
     been made, and so has the client. A poisoned lock is acquired like any other, and no
     statement sees the poison (`panics_isolated`).
-/

namespace TableKeeper

open Sql Client

/-! ## What is sent -/

namespace Operation

/-- The caller reads the rows. -/
def isIterate : Operation → Bool
  | iterate _ _ _ => true
  | _ => false

end Operation

namespace Store

variable {st : Store} {op : Operation}

theorem requested_verb {q : Request} {s : Statement} (h : st.requested q = .ok s) : HasVerbAmong s := by
  have hcommand : ∀ c : Command, s.sql = c.text → HasVerbAmong s := fun c hc =>
    ⟨c.verb, c.verb_mem, hc ▸ c.hasVerb⟩
  cases q with
  | rows f o =>
    cases h
    exact hcommand (.select st.table o.fields (compile st.binding f o).text) rfl
  | row key =>
    cases h
    exact hcommand (.selectById st.table) rfl
  | count f =>
    cases h
    exact hcommand (.count st.table (compile st.binding f {}).text) rfl
  | delete f =>
    cases h
    exact hcommand (.delete st.table (compile st.binding f {}).text) rfl
  | insert r =>
    obtain ⟨command, -, rfl⟩ := shaped_eq_ok h
    exact hcommand command rfl
  | update key r =>
    obtain ⟨command, -, rfl⟩ := shaped_eq_ok h
    exact hcommand command rfl
  | upsert r =>
    obtain ⟨command, -, rfl⟩ := shaped_eq_ok h
    exact hcommand command rfl

/-- An operation sends queries and changes. -/
theorem sends_verbs (st : Store) (op : Operation) : (st.perform op).Sends HasVerbAmong :=
  Program.sends_mono (sends_requested st op) fun _ hs => by
    obtain ⟨q, -, hq⟩ := hs
    exact requested_verb hq

/-- A call whose caller reads the rows sends queries only. -/
theorem sends_queries (st : Store) (h : op.isIterate = true) :
    (st.perform op).Sends fun s => HasVerb "SELECT" s.sql := by
  cases op with
  | iterate f o reader =>
    refine Program.sends_mono (sends_requested st (.iterate f o reader)) fun s hs => ?_
    obtain ⟨q, hq, hst⟩ := hs
    cases List.mem_singleton.mp hq
    cases hst
    exact (Command.select st.table o.fields _).hasVerb
  | _ => cases h

/-- Such a call panics where its reader does. -/
theorem result_iterate {σ α : Type} (h : Handle σ) (start : σ) (st : Store) (f : Filter) (o : QueryOptions)
    (reader : Reader α) : (Program.run h (st.iterate f o reader).run start).result =
      (Call.consumed reader (h.query start (st.selectStatement f o)).result).map (·.mapError (attributed "iterate")) := by
  obtain ⟨-, hresult⟩ := Call.run_read h (st.selectStatement f o) reader start
  unfold iterate
  rw [result_measured, ← hresult]
  rfl

/-- Every other call ends, whatever the replies. -/
theorem ends_perform (st : Store) (h : op.isIterate = false) : (st.perform op).Yields fun _ _ => True := by
  cases op with
  | «exists» i => exact Program.yields_mono (blames_exists i) fun _ _ _ => trivial
  | read i => exact Program.yields_mono (blames_read i) fun _ _ _ => trivial
  | write id r => exact Program.yields_mono (blames_write id r) fun _ _ _ => trivial
  | writeChecked id r => exact Program.yields_mono (blames_writeChecked id r) fun _ _ _ => trivial
  | create id r => exact Program.yields_mono (blames_create id r) fun _ _ _ => trivial
  | update id r => exact Program.yields_mono (blames_update id r) fun _ _ _ => trivial
  | remove i => exact Program.yields_mono (blames_remove i) fun _ _ _ => trivial
  | list f o => exact Program.yields_mono (blames_list f o) fun _ _ _ => trivial
  | iterate f o reader => cases h
  | count f o => exact Program.yields_mono (blames_count f o) fun _ _ _ => trivial

end Store

/-! ## Calls that share a client -/

/-- A call that was made on a store, and what is left of it. -/
structure Made where
  store : Store
  operation : Operation
  rest : Program (Except Error operation.Result)

namespace Made

def begun (call : Store × Operation) : Made := ⟨call.1, call.2, (call.1.perform call.2).run⟩

def call (m : Made) : Store × Operation := (m.store, m.operation)

/-- The call after its next turn. -/
def advanced (m : Made) (c : Client) : Made := { m with rest := (m.rest.turn handle c).rest }

def clientAfter (m : Made) (c : Client) : Client := (m.rest.turn handle c).state

theorem advanced_same {c c' : Client} (h : Same c c') (m : Made) :
    m.advanced c = m.advanced c' ∧ Same (m.clientAfter c) (m.clientAfter c') := by
  obtain ⟨hrest, hclient⟩ := turn_same m.rest h
  exact ⟨by rw [advanced, advanced, hrest], hclient⟩

/-- What is left of the call is left of its operation. -/
structure OnCourse (m : Made) : Prop where
  sends : m.rest.Sends HasVerbAmong
  queries : m.operation.isIterate = true → m.rest.Sends fun s => HasVerb "SELECT" s.sql
  ends : m.operation.isIterate = false → m.rest.Yields fun _ _ => True

theorem onCourse_begun (call : Store × Operation) : (begun call).OnCourse where
  sends := Store.sends_verbs call.1 call.2
  queries := Store.sends_queries call.1
  ends := Store.ends_perform call.1

theorem OnCourse.advanced {m : Made} (h : m.OnCourse) (c : Client) : (m.advanced c).OnCourse where
  sends := Program.sends_turn h.sends c
  queries hiterate := Program.sends_turn (h.queries hiterate) c
  ends hiterate := Program.yields_turn (h.ends hiterate) c

/-- Only where the caller reads the rows can a call have panicked. -/
theorem OnCourse.isIterate {m : Made} (h : m.OnCourse) (hpanic : m.rest.isPanic = true) : m.operation.isIterate = true := by
  by_contra hiterate
  rw [Program.not_isPanic (h.ends (Bool.eq_false_iff.mpr hiterate))] at hpanic
  cases hpanic

end Made

/-- A client, and the calls that are made on it. -/
structure Sharing where
  client : Client
  made : List Made

namespace Sharing

/-- The call with this number takes its turn. -/
def turn (y : Sharing) (i : Nat) : Sharing :=
  match y.made[i]? with
  | none => y
  | some m => { client := m.clientAfter y.client, made := y.made.set i (m.advanced y.client) }

/-- The calls take their turns as the schedule has them. -/
def run (y : Sharing) (schedule : List Nat) : Sharing := schedule.foldl turn y

/-- No call has had a turn. -/
def start (c : Client) (calls : List (Store × Operation)) : Sharing := ⟨c, calls.map Made.begun⟩

/-- The call with this number has panicked. -/
def panicked (y : Sharing) (i : Nat) : Bool := y.made[i]?.any fun m => m.rest.isPanic

variable {y y' : Sharing} {i j : Nat} {m : Made} {calls : List (Store × Operation)} {c : Client} {gone : Nat → Bool}

theorem run_append (y : Sharing) (before after : List Nat) : y.run (before ++ after) = (y.run before).run after :=
  List.foldl_append ..

theorem panicked_iff : y.panicked i = true ↔ ∃ m, y.made[i]? = some m ∧ m.rest.isPanic = true := by
  rw [panicked, Option.any_eq_true]

/-- Only the call whose turn it is comes any further. -/
theorem made_turn (y : Sharing) (i j : Nat) :
    (y.turn i).made[j]? = if i = j then y.made[i]?.map (·.advanced y.client) else y.made[j]? := by
  unfold turn
  cases hm : y.made[i]? with
  | none =>
    by_cases hij : i = j
    · rw [if_pos hij, ← hij]
      exact hm
    · rw [if_neg hij]
  | some m =>
    obtain ⟨hi, -⟩ := List.getElem?_eq_some_iff.mp hm
    by_cases hij : i = j
    · rw [if_pos hij, ← hij]
      exact List.getElem?_set_self hi
    · rw [if_neg hij]
      exact List.getElem?_set_ne hij

theorem client_turn (y : Sharing) (i : Nat) :
    (y.turn i).client = y.made[i]?.elim y.client fun m => m.clientAfter y.client := by
  unfold turn
  cases y.made[i]? <;> rfl

/-- What every turn keeps is kept by every schedule. -/
theorem run_keeps {p : Sharing → Prop} (hturn : ∀ {y}, p y → ∀ i, p (y.turn i)) (h : p y) (schedule : List Nat) :
    p (y.run schedule) := by
  induction schedule generalizing y with
  | nil => exact h
  | cons i schedule ih => exact ih (hturn h i)

/-- A call without a turn comes no further. -/
theorem made_run {schedule : List Nat} (h : i ∉ schedule) : (y.run schedule).made[i]? = y.made[i]? := by
  induction schedule generalizing y with
  | nil => rfl
  | cons j schedule ih =>
    obtain ⟨hij, hrest⟩ := not_or.mp (mt List.mem_cons.mpr h)
    show ((y.turn j).run schedule).made[i]? = _
    rw [ih hrest, made_turn, if_neg (Ne.symm hij)]

/-! ### One call after the other -/

theorem run_replicate (n : Nat) (h : y.made[i]? = some m) (xs : List Entry) :
    y.run (List.replicate n i) = {
      client := ((Stepped.next handle)^[n] ⟨m.rest, y.client, xs⟩).state
      made := y.made.set i { m with rest := ((Stepped.next handle)^[n] ⟨m.rest, y.client, xs⟩).rest } } := by
  induction n generalizing y m xs with
  | zero =>
    obtain ⟨hi, rfl⟩ := List.getElem?_eq_some_iff.mp h
    exact congrArg (Sharing.mk y.client) (List.set_getElem_self hi).symm
  | succ n ih =>
    have hnext : (y.turn i).made[i]? = some (m.advanced y.client) := by rw [made_turn, if_pos rfl, h, Option.map_some]
    have hturn : y.turn i = ⟨m.clientAfter y.client, y.made.set i (m.advanced y.client)⟩ := by rw [turn, h]
    show (y.turn i).run (List.replicate n i) = _
    rw [ih hnext (xs ++ (m.rest.turn handle y.client).entries), hturn, List.set_set]
    rfl

/-- Left to itself, a call comes to what its run comes to. -/
theorem run_alone (h : y.made[i]? = some m) : ∃ n, y.run (List.replicate n i) = {
    client := (m.rest.run handle y.client).state
    made := y.made.set i { m with rest := (m.rest.run handle y.client).result.elim .panic .done } } := by
  obtain ⟨n, hn⟩ := Program.turns_run (h := handle) m.rest y.client
  exact ⟨n, by rw [run_replicate n h [], hn]; rfl⟩

/-- A call that panics when it is run does so after some turns. -/
theorem run_panics (h : y.made[i]? = some m) (hp : (m.rest.run handle y.client).result = none) :
    ∃ n, (y.run (List.replicate n i)).panicked i = true := by
  obtain ⟨hi, -⟩ := List.getElem?_eq_some_iff.mp h
  obtain ⟨n, hn⟩ := run_alone h
  rw [hp] at hn
  exact ⟨n, panicked_iff.mpr ⟨_, by rw [hn]; exact List.getElem?_set_self hi, rfl⟩⟩

/-! ### What every turn keeps -/

/-- The calls are these, and the client is at rest. -/
structure Sound (calls : List (Store × Operation)) (y : Sharing) : Prop where
  calls : ∀ i : Nat, y.made[i]?.map Made.call = calls[i]?
  onCourse : ∀ i : Nat, ∀ m ∈ y.made[i]?, m.OnCourse
  atRest : y.client.AtRest

theorem sound_start (hc : c.AtRest) (calls : List (Store × Operation)) : Sound calls (start c calls) where
  calls i := by
    simp [start, Function.comp_def, Made.begun, Made.call]
  onCourse i m hm := by
    obtain ⟨call, -, rfl⟩ := List.mem_map.mp (List.mem_of_getElem? hm)
    exact Made.onCourse_begun call
  atRest := hc

theorem Sound.turn (h : Sound calls y) (i : Nat) : Sound calls (y.turn i) where
  calls j := by
    rw [made_turn]
    split
    · next hij => rw [Option.map_map, ← hij]; exact h.calls i
    · exact h.calls j
  onCourse j m' hm' := by
    rw [made_turn] at hm'
    split at hm'
    · obtain ⟨m, hm, rfl⟩ := Option.map_eq_some_iff.mp hm'
      exact (h.onCourse i m hm).advanced y.client
    · exact h.onCourse j m' hm'
  atRest := by
    rw [client_turn]
    cases hm : y.made[i]? with
    | none => exact h.atRest
    | some m => exact turn_atRest (h.onCourse i m hm).sends h.atRest

theorem Sound.run (h : Sound calls y) (schedule : List Nat) : Sound calls (y.run schedule) :=
  run_keeps Sound.turn h schedule

/-- Only where the caller reads the rows can a call panic. -/
theorem Sound.isIterate (h : Sound calls y) (hpanic : y.panicked i = true) :
    ∃ call, calls[i]? = some call ∧ call.2.isIterate = true := by
  obtain ⟨m, hm, hp⟩ := panicked_iff.mp hpanic
  exact ⟨m.call, by rw [← h.calls, hm, Option.map_some], (h.onCourse i m hm).isIterate hp⟩

/-- A turn of such a call leaves the client the same. -/
theorem Sound.turn_same (h : Sound calls y) (hi : ∃ call, calls[i]? = some call ∧ call.2.isIterate = true) :
    Same (y.turn i).client y.client := by
  rw [client_turn]
  cases hm : y.made[i]? with
  | none => exact Same.refl y.client
  | some m =>
    obtain ⟨call, hcall, hiterate⟩ := hi
    rw [← h.calls, hm] at hcall
    cases hcall
    exact turn_queries ((h.onCourse i m hm).queries hiterate) h.atRest

/-! ### Panics -/

/-- A call that has panicked is over. -/
theorem panicked_turn (h : y.panicked i = true) (j : Nat) : (y.turn j).panicked i = true := by
  obtain ⟨m, hm, hp⟩ := panicked_iff.mp h
  rw [panicked_iff, made_turn]
  split
  · next hji => exact ⟨m.advanced y.client, by rw [hji, hm, Option.map_some], Program.turn_isPanic hp y.client⟩
  · exact ⟨m, hm, hp⟩

theorem panicked_run (h : y.panicked i = true) (schedule : List Nat) : (y.run schedule).panicked i = true :=
  run_keeps (p := fun y => y.panicked i = true) panicked_turn h schedule

theorem panicked_start (c : Client) (calls : List (Store × Operation)) (i : Nat) : (start c calls).panicked i = false := by
  refine Bool.eq_false_iff.mpr fun h => ?_
  obtain ⟨m, hm, hp⟩ := panicked_iff.mp h
  obtain ⟨⟨st, op⟩, -, rfl⟩ := List.mem_map.mp (List.mem_of_getElem? hm)
  -- A call with a reader of its own first tells of itself.
  cases hiterate : op.isIterate with
  | false =>
    rw [Made.begun, Program.not_isPanic (Store.ends_perform st hiterate)] at hp
    cases hp
  | true =>
    cases op with
    | iterate f o reader => cases hp
    | _ => cases hiterate

/-- The lock is poisoned where it was before, or some call has panicked. -/
def PoisonedBy (c : Client) (y : Sharing) : Prop :=
  y.client.lock.poisoned = true ↔ c.lock.poisoned = true ∨ ∃ i, y.panicked i = true

theorem poisonedBy_start (c : Client) (calls : List (Store × Operation)) : PoisonedBy c (start c calls) := by
  refine ⟨.inl, fun h => h.elim id fun ⟨i, hi⟩ => ?_⟩
  rw [panicked_start] at hi
  cases hi

/-- After a turn some call has panicked where one had before, or the one whose turn it was has. -/
theorem exists_panicked_turn (y : Sharing) (i : Nat) : (∃ j, (y.turn i).panicked j = true) ↔
    (∃ j, y.panicked j = true) ∨ (y.turn i).panicked i = true := by
  constructor
  · rintro ⟨j, hj⟩
    by_cases hij : i = j
    · exact .inr (hij ▸ hj)
    · rw [panicked, made_turn, if_neg hij] at hj
      exact .inl ⟨j, hj⟩
  · rintro (⟨j, hj⟩ | hi)
    · exact ⟨j, panicked_turn hj i⟩
    · exact ⟨i, hi⟩

theorem PoisonedBy.turn (h : PoisonedBy c y) (i : Nat) : PoisonedBy c (y.turn i) := by
  have hpoisoned : (y.turn i).client.lock.poisoned = true ↔
      y.client.lock.poisoned = true ∨ (y.turn i).panicked i = true := by
    rw [panicked, made_turn, if_pos rfl, client_turn]
    cases y.made[i]? with
    | none => simp
    | some m => simp [Made.clientAfter, Made.advanced, turn_poisoned]
  unfold PoisonedBy at h ⊢
  rw [hpoisoned, h, exists_panicked_turn, or_assoc]

theorem PoisonedBy.run (h : PoisonedBy c y) (schedule : List Nat) : PoisonedBy c (y.run schedule) :=
  run_keeps PoisonedBy.turn h schedule

/-! ### With some calls and without them -/

/-- But for the calls that are gone, the calls have come equally far, and the clients are the same. -/
structure AlikeBut (gone : Nat → Bool) (y y' : Sharing) : Prop where
  made : ∀ i, gone i = false → y.made[i]? = y'.made[i]?
  client : Same y.client y'.client

/-- A turn that leaves the client the same may be left out with its call. -/
theorem AlikeBut.idle (h : AlikeBut gone y y') (hi : gone i = true) (hsame : Same (y.turn i).client y.client) :
    AlikeBut gone (y.turn i) y' where
  made j hj := by
    have hij : i ≠ j := by
      rintro rfl
      rw [hi] at hj
      cases hj
    rw [made_turn, if_neg hij, h.made j hj]
  client := hsame.trans h.client

theorem AlikeBut.turn (h : AlikeBut gone y y') (hi : gone i = false) : AlikeBut gone (y.turn i) (y'.turn i) where
  made j hj := by
    have hadvanced : (fun m : Made => m.advanced y.client) = fun m => m.advanced y'.client :=
      funext fun m => (Made.advanced_same h.client m).1
    rw [made_turn, made_turn, h.made i hi, h.made j hj, hadvanced]
  client := by
    rw [client_turn, client_turn, h.made i hi]
    cases y'.made[i]? with
    | none => exact h.client
    | some m => exact (Made.advanced_same h.client m).2

theorem AlikeBut.run (h : AlikeBut gone y y') (hy : Sound calls y)
    (hgone : ∀ i, gone i = true → ∃ call, calls[i]? = some call ∧ call.2.isIterate = true) (schedule : List Nat) :
    AlikeBut gone (y.run schedule) (y'.run (schedule.filter fun i => !gone i)) := by
  induction schedule generalizing y y' with
  | nil => exact h
  | cons i schedule ih =>
    cases hi : gone i with
    | true =>
      rw [List.filter_cons_of_neg (by simp [hi])]
      exact ih (h.idle hi (hy.turn_same (hgone i hi))) (hy.turn i)
    | false =>
      rw [List.filter_cons_of_pos (by simp [hi])]
      exact ih (h.turn hi) (hy.turn i)

/-- Without the calls that are gone nobody panics, if those that panic are among them. -/
theorem panicked_without {before : List Nat}
    (h : AlikeBut gone y ((start c calls).run (before.filter fun i => !gone i)))
    (hgone : ∀ i, y.panicked i = true → gone i = true) (i : Nat) :
    ((start c calls).run (before.filter fun i => !gone i)).panicked i = false := by
  cases hi : gone i with
  | true =>
    have habsent : i ∉ before.filter fun i => !gone i := by simp [hi]
    rw [panicked, made_run habsent, ← panicked, panicked_start]
  | false =>
    rw [panicked, ← h.made i hi, ← panicked]
    exact Bool.eq_false_iff.mpr fun hpanic => Bool.eq_false_iff.mp hi (hgone i hpanic)

/-- What the calls that are gone cost the others: nothing but a poisoned lock. -/
structure Isolated (c : Client) (gone : Nat → Bool) (y y' : Sharing) : Prop where
  /-- Every other call has come as far, and has given the same result if it is over. -/
  others : ∀ i, gone i = false → y.made[i]? = y'.made[i]?
  /-- The database is the same, and so is all that the client shows of it. -/
  client : Same y.client y'.client
  /-- No turn of a call that is gone does anything to the client. -/
  idle : ∀ i, gone i = true → Same (y.turn i).client y.client
  poisoned : y.client.lock.poisoned = true ↔ c.lock.poisoned = true ∨ ∃ i, y.panicked i = true
  unharmed : y'.client.lock.poisoned = c.lock.poisoned
  /-- Whoever comes next acquires the lock, and finds what was left. -/
  acquired : Answers y.client y'.client

/-- Only calls whose callers read the rows panic. At every moment of a schedule, all is as if
the calls that panic sooner or later had no turn at all. The client is one of which a query
changes nothing, as it is however it was opened. -/
theorem panics_isolated (hc : c.AtRest) (calls : List (Store × Operation)) (before after : List Nat) :
    let gone := ((start c calls).run (before ++ after)).panicked
    (∀ i, gone i = true → ∃ call, calls[i]? = some call ∧ call.2.isIterate = true) ∧
      Isolated c gone ((start c calls).run before) ((start c calls).run (before.filter fun i => !gone i)) := by
  intro gone
  have hsound := sound_start hc calls
  have hgone : ∀ i, gone i = true → ∃ call, calls[i]? = some call ∧ call.2.isIterate = true := fun i hi =>
    (hsound.run (before ++ after)).isIterate hi
  have halike : AlikeBut gone ((start c calls).run before) ((start c calls).run (before.filter fun i => !gone i)) :=
    AlikeBut.run ⟨fun _ _ => rfl, Same.refl c⟩ hsound hgone before
  have hlater : ∀ i, ((start c calls).run before).panicked i = true → gone i = true := fun i hi => by
    have hpanicked := panicked_run hi after
    rwa [← run_append] at hpanicked
  have hpoisoned := (poisonedBy_start c calls).run (before.filter fun i => !gone i)
  refine ⟨hgone, halike.made, halike.client, fun i hi => (hsound.run before).turn_same (hgone i hi),
    (poisonedBy_start c calls).run before, ?_, halike.client.answers⟩
  simpa [PoisonedBy, panicked_without halike hlater] using hpoisoned

/-- A reader that panics at the first row, or at the end. -/
def careless : Reader Unit := .next fun _ => .panic

theorem careless_panics (items : List RowItem) : (careless.run items).result = none := by cases items <;> rfl

def sharedWares : Client := Store.clientOf { tables := [Store.wares] }

/-- A listing, and an iteration that panics. -/
def wareCalls : List (Store × Operation) :=
  [(⟨"wares", .bound⟩, .list Store.sevens Store.keyOnly), (⟨"wares", .bound⟩, .iterate Store.sevens Store.keyOnly careless)]

theorem iteration_panicked : ∃ n, ((start sharedWares wareCalls).run (List.replicate n 1)).panicked 1 = true := by
  -- The query gives its rows, as the listing shows that drains them.
  have hrows := Store.rowsListed_sevens .bound
  rw [Store.rowsListed_eq] at hrows
  obtain ⟨items, hitems, -⟩ := Option.bind_eq_some_iff.mp hrows
  have hquery : (handle.query sharedWares (Store.selectStatement ⟨"wares", .bound⟩ Store.sevens Store.keyOnly)).result =
      .ok items := by
    unfold sharedWares
    cases hreply : (handle.query (Store.clientOf { tables := [Store.wares] })
        (Store.selectStatement ⟨"wares", .bound⟩ Store.sevens Store.keyOnly)).result with
    | error e =>
      rw [hreply] at hitems
      cases hitems
    | ok items' =>
      rw [hreply] at hitems
      cases hitems
      rfl
  have hresult := Store.result_iterate handle sharedWares ⟨"wares", .bound⟩ Store.sevens Store.keyOnly careless
  rw [hquery, Call.consumed, careless_panics, Option.map_none] at hresult
  exact run_panics (y := start sharedWares wareCalls) (i := 1) rfl hresult

/-- The listing comes after the panic. -/
theorem careless_isolated : sharedWares.AtRest ∧
    ∃ n, ((start sharedWares wareCalls).run (List.replicate n 1)).panicked 1 = true ∧
      let before := List.replicate n 1 ++ [0, 0, 0, 0]
      let gone := ((start sharedWares wareCalls).run (before ++ [])).panicked
      (∀ i, gone i = true → ∃ call, wareCalls[i]? = some call ∧ call.2.isIterate = true) ∧
        Isolated sharedWares gone ((start sharedWares wareCalls).run before)
          ((start sharedWares wareCalls).run (before.filter fun i => !gone i)) := by
  have hrest : sharedWares.AtRest := atRest_atPlace _ none _
  obtain ⟨n, hn⟩ := iteration_panicked
  exact ⟨hrest, n, hn, panics_isolated hrest wareCalls (List.replicate n 1 ++ [0, 0, 0, 0]) []⟩

end Sharing
end TableKeeper
