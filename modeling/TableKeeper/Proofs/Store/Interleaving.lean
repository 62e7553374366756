import TableKeeper.Proofs.Interleaving
import TableKeeper.Proofs.Sheet.Removing
import TableKeeper.Proofs.Store.Accounts
import TableKeeper.Proofs.Store.Fallback

/-!
  TableKeeper.Proofs.Store.Interleaving — writes under a key, with other clients in between.

  1. A write that leaves a row its key sends one upsert (`submits_write`). No step of another
     client comes between a look at the rows and the change, since the change looks itself.
  2. So whatever the others do to the rows, as long as keys are distinct the upsert is applied
     and the row has what was written (`applied_upsert`); and no statement at all makes keys
     repeat. That is what every step keeps (`kept_keeper`), under every schedule
     (`interleaved_writes`).
  3. A sheet by the name of `excluded` is left out, and names with a back-tick are
     (`interleaving_fails_by_names`).
-/

namespace TableKeeper

open Sql

namespace Store

open Sheet

variable {m : Meaning} {s after : Sheet} {st : Store} {r : Record} {k : String} {t : Statement}

theorem submits_inSpan {c : Call WriteOutcome} (hc : c.run.Submits t) (sp : Span) : (inSpan sp c).run.Submits t :=
  Program.submits_bind hc fun _ => rfl

theorem submits_observe {c : Call WriteOutcome} (hc : c.run.Submits t) (operation table : String) :
    (observe operation table c).run.Submits t :=
  Program.submits_bind hc fun _ => rfl

/-- A write that leaves the row its key sends the upsert of its record. -/
theorem submits_write (hr : Keeps s k r) (hst : st.upsertStatement (r.withId (.text k)) = .ok t) :
    (st.write (some (.text k)) r).run.Submits t := by
  have hrename : ¬renames (.text k) r = true := by
    rw [renames_iff k hr.writable.key]
    rintro ⟨own, hown, hne⟩
    exact hne (Value.text.inj (hr.own _ hown))
  unfold write
  rw [truthy_key hr.key]
  refine submits_inSpan (submits_observe ?_ _ _) _
  rw [if_neg hrename]
  unfold upsert
  rw [hst]
  exact ⟨rfl, fun _ => rfl⟩

/-- The row with the key has every column of the record. -/
def Shows (s : Sheet) (k : String) (r : Record) : Prop :=
  ∃ row ∈ s.rows, row Record.idColumn = .text k ∧ ∀ c v, r.get? c = some v → row c = v

theorem shows_written (hr : Keeps s k r) (hafter : s.written k r = some after) : Shows after k r := by
  rw [written_same hr] at hafter
  obtain rfl := Option.some.inj hafter
  by_cases hthere : s.Has k
  · obtain ⟨row, hrow, hkey⟩ := hthere
    refine ⟨patched r row, ?_, ?_, fun c v hc => by simp [patched, hc]⟩
    · simp only [if_pos (show s.Has k from ⟨row, hrow, hkey⟩)]
      exact List.mem_map.mpr ⟨row, hrow, if_pos hkey⟩
    · unfold patched
      cases hown : r.get? Record.idColumn with
      | none => exact hkey
      | some v => exact hr.own v hown
  · refine ⟨fresh r k, ?_, fresh_key r k, fun c v hc => ?_⟩
    · simp [hthere]
    · by_cases hid : c = Record.idColumn
      · subst hid
        rw [fresh_key, hr.own v hc]
      · simp [fresh, hid, hc]

/-- On distinct keys an upsert is applied, and does what the write is to do. -/
theorem applied_upsert (hm : m.Exact) (hs : Keyed m s) (ht : Plain st.table) (hn : st.table = s.name)
    (hx : Engine.sameName "excluded" s.name = false) (hr : Keeps s k r) :
    ∃ t after, st.upsertStatement (r.withId (.text k)) = .ok t ∧ s.written k r = some after ∧
      (keeper m).execute s t = ⟨.ok {}, after, []⟩ := by
  have hw := hr.writable.withId hs.key k
  have hown := get?_withId hr.own
  obtain ⟨t, hst, hchange⟩ := upsert_asks m ht hw.plain (OrderedMap.entries_ne hown)
  obtain ⟨after, hwritten, hchanged⟩ := changed_upsert hm hs hx hown st.table
  have happly : s.apply m (upserting st.table (r.withId (.text k))) = .ok after := by
    rw [Sheet.apply, hn, fault?_upsert hs.unique hw.fits, ← hn]
    exact hchanged
  rw [written_withId hr.own] at hwritten
  exact ⟨t, after, hst, hwritten, execute_keeper hchange happly⟩

/-! ## What every step keeps -/

/-- Calls of clients: a write is under a key that its record leaves as it is, and anything
else may be. -/
def Admissible (s : Sheet) : Mutation → Prop
  | .write id r => ∃ k, id = some (.text k) ∧ Keeps s k r
  | _ => True

/-- The upsert of a write is to be sent yet, or it was applied and all there is left is to say so. -/
def InPhase (t : Statement) (a : Activity Mutation (Except Error WriteOutcome)) : Prop :=
  a.exchanges = [] ∧ a.rest.Submits t ∨ ∃ w, a.exchanges = [.executed t (.ok w)] ∧ a.rest.Settles (.ok w)

/-- A call that has come this far. -/
structure OnCourse (s : Sheet) (st : Store) (a : Activity Mutation (Except Error WriteOutcome)) : Prop where
  ends : a.rest.Yields fun _ _ => True
  admissible : Admissible s a.call
  write : ∀ k r, a.call = .write (some (.text k)) r →
    ∃ t, st.upsertStatement (r.withId (.text k)) = .ok t ∧ InPhase t a

/-- A write was run as by itself from the sheet that its statement found, and the row is there. -/
def WriteApplied (m : Meaning) (st : Store) (found : Sheet) (e : Exchanged Mutation Sheet) : Prop :=
  ∀ k r, e.call = .write (some (.text k)) r →
    (∃ w, (st.write (some (.text k)) r).Ends (keeper m) found (.ok w) e.after) ∧ Shows e.after k r

theorem Admissible.keeps (h : Admissible s (.write (some (.text k)) r)) : Keeps s k r := by
  obtain ⟨k', hk, hr⟩ := h
  cases hk
  exact hr

theorem Keeps.of_columns (hr : Keeps s k r) (hc : after.columns = s.columns) : Keeps after k r :=
  ⟨hr.key, hr.plain, by rw [Fits, hc]; exact hr.fits, hr.own⟩

variable {a : Activity Mutation (Except Error WriteOutcome)}

theorem yields_mutate (st : Store) (c : Mutation) : (st.mutate c).Yields fun _ _ => True := by
  cases c with
  | create id r => exact Program.yields_mono (accounts_create id r) fun _ _ _ => trivial
  | update id r => exact Program.yields_mono (accounts_update id r) fun _ _ _ => trivial
  | remove i => exact Program.yields_mono (accounts_remove i) fun _ _ _ => trivial
  | write id r => exact Program.yields_mono (accounts_write id r) fun _ _ _ => trivial
  | writeChecked id r => exact Program.yields_mono (accounts_writeChecked id r) fun _ _ _ => trivial

/-- Nothing has happened in a call that has not begun. -/
theorem onCourse_start (hm : m.Exact) (hs : Keyed m s) (ht : Plain st.table) (hn : st.table = s.name)
    (hx : Engine.sameName "excluded" s.name = false) {c : Mutation} (hc : Admissible s c) :
    OnCourse s st { call := c, rest := (st.mutate c).run } where
  ends := yields_mutate st c
  admissible := hc
  write k r h := by
    obtain rfl : c = .write (some (.text k)) r := h
    obtain ⟨t, -, hst, -⟩ := applied_upsert hm hs ht hn hx hc.keeps
    exact ⟨t, hst, .inl ⟨rfl, submits_write hc.keeps hst⟩⟩

theorem keyed_stateAfter (hs : Keyed m s) (a : Activity Mutation (Except Error WriteOutcome)) :
    KeyedLike m s (a.stateAfter (keeper m) s) := by
  unfold Activity.stateAfter
  cases a.rest with
  | execute t k => exact keyed_execute hs t
  | query t k =>
    have hsame : ((Program.query t k).step (keeper m) s).state = s := query_keeper s t
    exact hsame.symm ▸ .refl hs
  | _ => exact .refl hs

/-- A write stays in its phases, and its step is nothing or the upsert, applied. -/
theorem step_inPhase (hexecute : (keeper m).execute s t = ⟨.ok {}, after, []⟩) (ha : InPhase t a) :
    InPhase t (a.step (keeper m) s) ∧ (a.news (keeper m) s ≠ [] → a.stateAfter (keeper m) s = after) := by
  unfold InPhase
  rw [Activity.exchanges_step]
  unfold Activity.news Activity.stateAfter Activity.step
  cases hrest : a.rest with
  | tell n rest =>
    rw [InPhase, hrest] at ha
    refine ⟨?_, fun h => absurd rfl h⟩
    simpa [Program.step, Entry.isExchange, Program.Submits, Program.Settles] using ha
  | execute t' k =>
    rw [InPhase, hrest] at ha
    rcases ha with ⟨hnone, rfl, hsettles⟩ | ⟨w, -, hnever⟩
    · simp only [Program.step, hexecute, hnone, implies_true, and_true]
      exact .inr ⟨{}, rfl, hsettles {}⟩
    · exact hnever.elim
  | done x =>
    rw [InPhase, hrest] at ha
    refine ⟨?_, fun h => absurd rfl h⟩
    simpa [Program.step] using ha
  | panic => rw [InPhase, hrest] at ha; exact absurd ha (by simp [Program.Submits, Program.Settles])
  | query t' k => rw [InPhase, hrest] at ha; exact absurd ha (by simp [Program.Submits, Program.Settles])
  | release t' taken rest => rw [InPhase, hrest] at ha; exact absurd ha (by simp [Program.Submits, Program.Settles])

/-- Whatever step is taken, keys stay distinct, calls stay on course, and where it is the
upsert of a write, the row is there then. -/
theorem kept_keeper (hm : m.Exact) (ht : Plain st.table) (hn : st.table = s.name)
    (hx : Engine.sameName "excluded" s.name = false) :
    System.Kept (keeper m) (KeyedLike m s) (OnCourse s st) (WriteApplied m st) := by
  -- What the upsert of a write does to the sheet as it is now.
  have hupsert : ∀ {now : Sheet} {a : Activity Mutation (Except Error WriteOutcome)} {k r}, KeyedLike m s now →
      OnCourse s st a → a.call = .write (some (.text k)) r →
      ∃ t after, st.upsertStatement (r.withId (.text k)) = .ok t ∧ Keeps now k r ∧ now.written k r = some after ∧
        (keeper m).execute now t = ⟨.ok {}, after, []⟩ ∧ InPhase t a := by
    intro now a k r hnow ha hcall
    obtain ⟨t, hst, hphase⟩ := ha.write k r hcall
    have hkeeps := (hcall ▸ ha.admissible : Admissible s _).keeps.of_columns hnow.columns
    obtain ⟨t', after, hst', hwritten, hexecute⟩ := applied_upsert hm hnow.keyed ht (hn.trans hnow.name.symm)
      (hnow.name.symm ▸ hx) hkeeps
    obtain rfl : t = t' := Except.ok.inj (hst.symm.trans hst')
    exact ⟨t, after, hst, hkeeps, hwritten, hexecute, hphase⟩
  refine ⟨fun {a now} ha hnow => ⟨hnow.trans (keyed_stateAfter hnow.keyed a), ?_, ha.admissible, fun k r hcall => ?_⟩,
    fun {a now} ha hnow i => ?_⟩
  · exact Program.yields_step (keeper m) ha.ends now
  · obtain ⟨t, after, hst, -, -, hexecute, hphase⟩ := hupsert hnow ha hcall
    exact ⟨t, hst, (step_inPhase hexecute hphase).1⟩
  · unfold Activity.logged
    rcases Activity.news_cases (h := keeper m) (fun _ => rfl) a now with ⟨hnone, hsame⟩ | ⟨x, hone⟩
    · rw [hnone]
      exact hsame.symm
    · rw [hone]
      refine ⟨fun k r hcall => ?_, rfl⟩
      obtain ⟨t, after, hst, hkeeps, hwritten, hexecute, hphase⟩ := hupsert hnow ha hcall
      have hafter := (step_inPhase hexecute hphase).2 (by rw [hone]; exact List.cons_ne_nil _ _)
      simp only [hafter]
      exact ⟨⟨_, Program.ends_of_submits (submits_write hkeeps hst) hexecute⟩, shows_written hkeeps hwritten⟩

/-! ## Every interleaving -/

/-- Clients that make these calls on a sheet, each its own in turn, after the steps of a schedule. -/
abbrev interleaved (m : Meaning) (st : Store) (s : Sheet) (calls : List (List Mutation)) (schedule : List Nat) :
    System Mutation Sheet (Except Error WriteOutcome) :=
  (System.start (fun c => (st.mutate c).run) s calls).run (keeper m) schedule

/-- The call is a write under a text. -/
def IsWrite (c : Mutation) : Prop := ∃ k r, c = .write (some (.text k)) r

/-- Other clients do not get in the way of a write. -/
structure Undisturbed (m : Meaning) (st : Store) (s : Sheet) (calls : List (List Mutation))
    (y : System Mutation Sheet (Except Error WriteOutcome)) : Prop where
  /-- Every key names one row at most. -/
  distinct : Distinct m y.state.rows
  /-- Each client makes its calls in turn, and the log is what they have sent. -/
  orderly : System.Orderly calls y
  /-- A write sends one statement, which is applied, and then it ends with an outcome. -/
  once : ∀ c ∈ y.callers, ∀ a ∈ c.activities, IsWrite a.call →
    a.exchanges.length ≤ 1 ∧ a.rest ≠ .panic ∧
      ∀ x, a.rest = .done x → ∃ w t, x = .ok w ∧ a.exchanges = [.executed t (.ok w)]
  /-- Right after that statement the row has what was written. -/
  shown : ∀ e ∈ y.log, ∀ k r, e.call = .write (some (.text k)) r → Shows e.after k r
  /-- If all calls are writes, the sheet is what they make of it one by one, in the order of
  their statements, and in the end these are all the calls. -/
  serial : (∀ cs ∈ calls, ∀ c ∈ cs, IsWrite c) →
    Call.AllEnd (keeper m) (y.log.map fun e => st.mutate e.call) s y.state ∧
      (y.IsFinished → ∀ i cs, calls[i]? = some cs → (y.logOf i).map (·.1) = cs)

/-- Writes that follow on one another are run one by one. -/
theorem allEnd_linked {es : List (Exchanged Mutation Sheet)} (h : System.Linked (WriteApplied m st) s es after)
    (hes : ∀ e ∈ es, IsWrite e.call) : Call.AllEnd (keeper m) (es.map fun e => st.mutate e.call) s after := by
  induction es generalizing s with
  | nil => exact ⟨nofun, h⟩
  | cons e es ih =>
    obtain ⟨k, r, hcall⟩ := hes e List.mem_cons_self
    obtain ⟨⟨w, hends⟩, -⟩ := h.1 k r hcall
    have hfirst : (st.mutate e.call).Ends (keeper m) s (.ok w) e.after := hcall ▸ hends
    exact Call.allEnd_cons hfirst (ih h.2 fun e' he' => hes e' (List.mem_cons_of_mem e he'))

theorem onCourse_once (ha : OnCourse s st a) (hcall : IsWrite a.call) :
    a.exchanges.length ≤ 1 ∧ a.rest ≠ .panic ∧
      ∀ x, a.rest = .done x → ∃ w t, x = .ok w ∧ a.exchanges = [.executed t (.ok w)] := by
  obtain ⟨k, r, hcall⟩ := hcall
  obtain ⟨t, -, ⟨hnone, hsubmits⟩ | ⟨w, hone, hsettles⟩⟩ := ha.write k r hcall
  · refine ⟨by simp [hnone], fun hpanic => ?_, fun x hdone => ?_⟩
    · rw [hpanic] at hsubmits
      exact hsubmits.elim
    · rw [hdone] at hsubmits
      exact hsubmits.elim
  · refine ⟨by simp [hone], fun hpanic => ?_, fun x hdone => ⟨w, t, ?_, hone⟩⟩
    · rw [hpanic] at hsettles
      exact hsettles.elim
    · rw [hdone] at hsettles
      exact hsettles

/-- Where every call of a client has ended and sent one statement, its part of the log has
the calls themselves. -/
theorem calls_sent {as : List (Activity Mutation (Except Error WriteOutcome))}
    (has : ∀ a ∈ as, ∃ x, a.exchanges = [x]) : (as.flatMap Activity.sent).map (·.1) = as.map (·.call) := by
  induction as with
  | nil => rfl
  | cons a as ih =>
    obtain ⟨x, hx⟩ := has a List.mem_cons_self
    rw [List.flatMap_cons, List.map_append, ih fun b hb => has b (List.mem_cons_of_mem a hb)]
    simp [Activity.sent, hx]

theorem logOf_finished {calls : List (List Mutation)} {y : System Mutation Sheet (Except Error WriteOutcome)}
    (hy : System.Orderly calls y) (hfinished : y.IsFinished)
    (honce : ∀ c ∈ y.callers, ∀ a ∈ c.activities, ∀ x, a.rest = .done x → ∃ e, a.exchanges = [e]) {i : Nat}
    {cs : List Mutation} (hcs : calls[i]? = some cs) : (y.logOf i).map (·.1) = cs := by
  rw [← hy.calls, List.getElem?_map, Option.map_eq_some_iff] at hcs
  obtain ⟨c, hc, rfl⟩ := hcs
  have hmem := List.mem_of_getElem? hc
  rw [hy.log i c hc]
  refine calls_sent fun a ha => ?_
  have hended : a ∈ c.ended := by simpa [Caller.activities, hfinished c hmem] using ha
  have hdone := hy.ended c hmem a hended
  cases hrest : a.rest with
  | done x => exact honce c hmem a ha x hrest
  | _ => rw [hrest] at hdone; cases hdone

/-- Whatever the order in which clients take their steps, writes under keys are not disturbed;
and from wherever they have come to, all calls can be gone on with to their end. -/
theorem interleaved_writes (hm : m.Exact) (hs : Keyed m s) (ht : Plain st.table) (hn : st.table = s.name)
    (hx : Engine.sameName "excluded" s.name = false) {calls : List (List Mutation)}
    (hcalls : ∀ cs ∈ calls, ∀ c ∈ cs, Admissible s c) (schedule : List Nat) :
    Undisturbed m st s calls (interleaved m st s calls schedule) ∧
      ∃ more, (interleaved m st s calls (schedule ++ more)).IsFinished := by
  have hstart : System.Holds (KeyedLike m s) (OnCourse s st) (WriteApplied m st) s
      (System.start (fun c => (st.mutate c).run) s calls) := by
    exact ⟨.refl hs, System.activities_start fun cs hcs c hc => onCourse_start hm hs ht hn hx (hcalls cs hcs c hc), rfl⟩
  have hholds := (kept_keeper (s := s) hm ht hn hx).run hstart schedule
  have horderly := (System.orderly_start (fun c => (st.mutate c).run) s calls).run (h := keeper m) schedule
  have honce := fun c hc a ha => onCourse_once (hholds.activity c hc a ha)
  refine ⟨⟨hholds.state.keyed.distinct, horderly, honce, fun e he k r hcall => ?_, fun hwrites => ?_⟩, ?_⟩
  · obtain ⟨found, hlink⟩ := hholds.linked.exists_before he
    exact (hlink k r hcall).2
  · obtain ⟨hcallers, hlog⟩ := System.calls_run (h := keeper m) (fun _ => rfl) hwrites schedule
    refine ⟨allEnd_linked hholds.linked hlog, fun hfinished i cs hcs => ?_⟩
    refine logOf_finished horderly hfinished (fun c hc a ha x hdone => ?_) hcs
    obtain ⟨w, t, -, hone⟩ := (honce c hc a ha (hcallers c hc a ha)).2.2 x hdone
    exact ⟨_, hone⟩
  · obtain ⟨more, hmore⟩ := System.finishes (keeper m) fun c hc a ha => (hholds.activity c hc a ha).ends
    exact ⟨more, by rw [interleaved, System.run_append]; exact hmore⟩

/-- Two clients that write to the same row, and a third that creates, removes and writes rows. -/
def noteCalls : List (List Mutation) :=
  [[.write (some (.text "k")) newNote, .remove (.key (.text "k"))],
    [.write (some (.text "k")) (.ofList [("id", .text "k"), ("note", .text "late")])],
    [.writeChecked (some (.text "j")) newNote, .remove (.key (.text "j")), .write (some (.text "j")) newNote]]

theorem notes_interleaved :
    Undisturbed (.stored noMatch) ⟨"my notes", .bound⟩ (notes "my notes") noteCalls
        (interleaved (.stored noMatch) ⟨"my notes", .bound⟩ (notes "my notes") noteCalls [2, 0, 1, 0, 2, 2, 1, 0]) ∧
      ∃ more, (interleaved (.stored noMatch) ⟨"my notes", .bound⟩ (notes "my notes") noteCalls
        ([2, 0, 1, 0, 2, 2, 1, 0] ++ more)).IsFinished := by
  have hnew : Keeps (notes "my notes") "k" newNote := ⟨by decide, by decide, by decide, by decide⟩
  have hlate : Keeps (notes "my notes") "k" (.ofList [("id", .text "k"), ("note", .text "late")]) :=
    ⟨by decide, by decide, by decide, by decide⟩
  have hother : Keeps (notes "my notes") "j" newNote := ⟨by decide, by decide, by decide, by decide⟩
  refine interleaved_writes (exact_stored noMatch) ⟨by decide, rfl, rfl, by decide +kernel⟩
    (show Plain "my notes" by decide) rfl (by decide) (fun cs hcs c hc => ?_) [2, 0, 1, 0, 2, 2, 1, 0]
  simp only [noteCalls, List.mem_cons, List.not_mem_nil, or_false] at hcs
  rcases hcs with rfl | rfl | rfl <;> simp only [List.mem_cons, List.not_mem_nil, or_false] at hc
  · rcases hc with rfl | rfl
    · exact ⟨"k", rfl, hnew⟩
    · trivial
  · subst hc
    exact ⟨"k", rfl, hlate⟩
  · rcases hc with rfl | rfl | rfl
    · trivial
    · trivial
    · exact ⟨"j", rfl, hother⟩

/-- One client makes one write to the row `k`, and takes more steps than it has. -/
abbrev writtenAlone (table : String) (s : Sheet) (r : Record) : System Mutation Sheet (Except Error WriteOutcome) :=
  interleaved (.stored noMatch) ⟨table, .bound⟩ s [[.write (some (.text "k")) r]] (List.replicate 12 0)

/-- A call has ended with an error. -/
def anyFailed (y : System Mutation Sheet (Except Error WriteOutcome)) : Bool :=
  y.activities.any fun a => match a.rest with
    | .done (.error _) => true
    | _ => false

/-- Writes that are not disturbed do not fail. -/
theorem Undisturbed.anyFailed {calls : List (List Mutation)} {y : System Mutation Sheet (Except Error WriteOutcome)}
    (h : Undisturbed m st s calls y) (hwrites : ∀ cs ∈ calls, ∀ c ∈ cs, IsWrite c) : Store.anyFailed y = false := by
  refine List.any_eq_false.mpr fun a ha hfailed => ?_
  obtain ⟨c, hc, ha⟩ := List.mem_flatMap.mp ha
  have hcalls : c.activities.map (·.call) ∈ calls := by
    rw [← h.orderly.calls]
    exact List.mem_map_of_mem hc
  have hwrite := hwrites _ hcalls _ (List.mem_map_of_mem ha)
  split at hfailed
  next e hdone =>
    obtain ⟨w, t, hok, -⟩ := (h.once c hc a ha hwrite).2.2 _ hdone
    cases hok
  next => cases hfailed

/-- Even one client alone fails to write a column whose name has a back-tick; and where the
table is itself named `excluded`, the row keeps what it had when it is written to. -/
theorem interleaving_fails_by_names :
    (Keyed (.stored noMatch) ticked ∧ ticked.Fits tickedRecord ∧
      ¬Undisturbed (.stored noMatch) ⟨"notes", .bound⟩ ticked [[.write (some (.text "k")) tickedRecord]]
        (writtenAlone "notes" ticked tickedRecord)) ∧
    Keyed (.stored noMatch) (notes "excluded") ∧ (notes "excluded").Fits newNote ∧
      ¬Undisturbed (.stored noMatch) ⟨"excluded", .bound⟩ (notes "excluded") [[.write (some (.text "k")) newNote]]
        (writtenAlone "excluded" (notes "excluded") newNote) := by
  refine ⟨⟨⟨by decide, rfl, rfl, by decide +kernel⟩, by decide, fun h => ?_⟩,
    ⟨by decide, rfl, rfl, by decide +kernel⟩, by decide, fun h => ?_⟩
  · have hfailed : anyFailed (writtenAlone "notes" ticked tickedRecord) = true := by decide +kernel
    rw [h.anyFailed (by simp [IsWrite])] at hfailed
    cases hfailed
  · have hlog : (writtenAlone "excluded" (notes "excluded") newNote).log.map (·.after.rows.map (· "note")) =
        [[.text "old", .text "other"]] := by decide +kernel
    obtain ⟨e, hlog, hafter⟩ := List.map_eq_singleton_iff.mp hlog
    have hmem : e ∈ (writtenAlone "excluded" (notes "excluded") newNote).log := by simp [hlog]
    have hcall : e.call = .write (some (.text "k")) newNote :=
      (System.calls_run (p := (· = .write (some (.text "k")) newNote)) (fun _ => rfl) (by simp) _).2 e hmem
    obtain ⟨row, hrow, -, hrecord⟩ := h.shown e hmem "k" newNote hcall
    have hnote : row "note" ∈ e.after.rows.map (· "note") := List.mem_map_of_mem hrow
    rw [hafter, hrecord "note" (.text "new") (by decide)] at hnote
    simp at hnote

end Store
end TableKeeper
