import TableKeeper.Proofs.Exchange
import TableKeeper.Proofs.Sql.Sentences
import TableKeeper.Proofs.Store.Queries
import TableKeeper.Proofs.Store.Replies

/-!
  TableKeeper.Proofs.Store.Sentences — the store sends sentences, or refuses.

  1. Every statement is a sentence, but for a listing of no column (`statements_grammatical`).
     A list of columns to write is looked at before it is written out; a list of columns to
     read is not (`empty_projection_sent`).
  2. A record that leaves nothing to write is refused before anything is sent. A checked write
     by key looks for the row first, and is refused when it is there.
-/

namespace TableKeeper

open Sql

namespace Operation

/-- The rows are asked for, but none of their columns. -/
def asksForNoColumn : Operation → Bool
  | list _ o | iterate _ o _ => o.fields == some []
  | _ => false

/-- The record has no column, and no key that would be one. -/
def writesNoColumn : Operation → Bool
  | create id r => (Store.keyed id r).isEmpty
  | update _ r => r.isEmpty
  | write id r | writeChecked id r => (Store.truthy? id).isNone && r.isEmpty
  | _ => false

end Operation

namespace Store

variable {α σ : Type} {st : Store} {op : Operation} {s : Statement} {q : Request}

/-! ## Sentences -/

theorem shaped_nonempty {columns : List String} {f : NoColumns} {c : Command} {params : List Value}
    (h : shaped (if columns.isEmpty then .error f else .ok c) params = .ok s) : columns ≠ [] := by
  rintro rfl
  cases h

/-- A list of columns to write is never written out when it is empty. -/
theorem namesColumns_of_requested (h : st.requested q = .ok s)
    (hrows : ∀ f o, q = .rows f o → o.fields ≠ some []) : q.NamesColumns := by
  cases q with
  | rows f o => exact hrows f o rfl
  | row key => trivial
  | count f => trivial
  | delete f => trivial
  | insert r => exact fun hr => shaped_nonempty h (by rw [OrderedMap.names, hr]; rfl)
  | update key r => exact fun hr => shaped_nonempty h (by rw [OrderedMap.names, hr]; rfl)
  | upsert r => exact fun hr => shaped_nonempty h (by rw [OrderedMap.names, hr]; rfl)

theorem checked_rows {id : Option Value} {r : Record} {f : Filter} {o : QueryOptions}
    (h : .rows f o ∈ Operation.checkedRequests id r) : o.fields ≠ some [] := by
  unfold Operation.checkedRequests at h
  cases hid : truthy? id with
  | none => simp [hid] at h
  | some key =>
    simp only [hid, List.mem_cons, List.not_mem_nil, or_false, Request.rows.injEq, reduceCtorEq] at h
    rw [h.2]
    decide

/-- Only a listing can ask for no column. -/
theorem requests_rows (hop : op.asksForNoColumn = false) {f : Filter} {o : QueryOptions}
    (h : .rows f o ∈ op.requests) : o.fields ≠ some [] := by
  cases op with
  | «exists» i =>
    cases List.mem_singleton.mp h
    decide
  | read i => cases i <;> cases List.mem_singleton.mp h <;> decide
  | write id r =>
    simp only [Operation.requests] at h
    cases hid : truthy? id with
    | none => simp [hid] at h
    | some key =>
      simp only [hid] at h
      split at h
      · exact checked_rows h
      · exact checked_rows (List.mem_of_ne_of_mem (by simp) h)
  | writeChecked id r => exact checked_rows h
  | list f o =>
    cases List.mem_singleton.mp h
    simpa [Operation.asksForNoColumn] using hop
  | iterate f o reader =>
    cases List.mem_singleton.mp h
    simpa [Operation.asksForNoColumn] using hop
  | _ => cases List.mem_singleton.mp h

theorem grammatical_of_aligned {b : ListBinding} {table : String} (h : Aligned (q.slots b table) s) :
    Grammatical s.sql ↔ IsSentence ((q.slots b table).map Slot.token) := by
  constructor
  · rintro ⟨ts, htokens, hsentence⟩
    rwa [List.append_cancel_right (htokens.symm.trans h.tokens)] at hsentence
  · exact fun hsentence => ⟨_, h.tokens, hsentence⟩

/-- What a listing of no column sends is no sentence. -/
theorem not_grammatical_select (ht : Plain st.table) {f : Filter} {o : QueryOptions} (hq : PlainQuery f o)
    (ho : o.fields = some []) : ¬ Grammatical (st.selectStatement f o).sql := by
  have haligned : Aligned (Request.slots st.binding st.table (.rows f o)) (st.selectStatement f o) :=
    requested_aligned ht (q := .rows f o) hq rfl
  rw [grammatical_of_aligned haligned]
  exact not_sentence_of_no_field _ _ _ ho

/-! ## Refusals -/

/-- The result is a refusal of the input. -/
def Refusal (r : Except Error α) : Prop := ∃ text, r = .error (.invalidInput text)

/-- Nothing is sent, and the input is refused. -/
def RefusedAtOnce (xs : List Entry) (r : Except Error α) : Prop := xs = [] ∧ Refusal r

/-- A refusal of the input is told as it is. -/
theorem refusedAtOnce_observed {c : Call α} (h : c.Yields RefusedAtOnce) (operation table : String) (sp : Span) :
    (inSpan sp (observe operation table c)).Yields RefusedAtOnce := by
  refine yields_inSpan (yields_observe operation table ?_) sp
  refine Program.yields_mono h ?_
  rintro xs r ⟨hxs, text, rfl⟩
  exact ⟨hxs, text, rfl⟩

theorem refused_shaped {columns : List String} (hc : columns = []) (message : String) (f : NoColumns) (c : Command)
    (params : List Value) :
    (send message (shaped (if columns.isEmpty then .error f else .ok c) params)).Yields RefusedAtOnce := by
  rw [hc]
  exact ⟨rfl, _, rfl⟩

theorem names_of_isEmpty {r : Record} (h : r.isEmpty = true) : r.names = [] := by
  rw [OrderedMap.names, List.isEmpty_iff.mp h]
  rfl

theorem refused_create {id : Option Value} {r : Record} (h : (keyed id r).isEmpty = true) :
    (st.create id r).Yields RefusedAtOnce :=
  refusedAtOnce_observed (refused_shaped (names_of_isEmpty h) _ _ _ _) _ _ _

theorem refused_update {r : Record} (id : Value) (h : r.isEmpty = true) : (st.update id r).Yields RefusedAtOnce :=
  refusedAtOnce_observed (refused_shaped (names_of_isEmpty h) _ _ _ _) _ _ _

theorem refused_perform (h : op.writesNoColumn = true) : (st.perform op).Yields RefusedAtOnce := by
  cases op with
  | create id r => exact refused_create h
  | update id r => exact refused_update id h
  | write id r =>
    obtain ⟨hid, hr⟩ := Bool.and_eq_true_iff.mp h
    show (st.write id r).Yields RefusedAtOnce
    unfold write
    rw [Option.isNone_iff_eq_none.mp hid]
    have hcreate : (st.create none r).Yields RefusedAtOnce := refused_create hr
    exact yields_inSpan hcreate _
  | writeChecked id r =>
    obtain ⟨hid, hr⟩ := Bool.and_eq_true_iff.mp h
    show (st.writeChecked id r).Yields RefusedAtOnce
    unfold writeChecked
    rw [Option.isNone_iff_eq_none.mp hid]
    exact refused_create hr
  | _ => cases h

/-! ## Looking first -/

/-- The look-up comes first; where it finds a row, nothing else is sent and the input is refused. -/
def RefusedWhenThere (s : Statement) (xs : List Entry) (r : Except Error α) : Prop :=
  ∃ reply more, xs = .queried s reply :: more ∧
    ∀ row rows, Call.gathered reply = .ok (row :: rows) → RefusedAtOnce more r

theorem refused_there {key : Value} {r : Record} (hkey : key.truthy = true) (hr : r.isEmpty = true) :
    (st.writeChecked (some key) r).Yields
      (RefusedWhenThere (st.selectStatement (Filter.byId key) existenceOptions)) := by
  have hid : truthy? (some key) = some key := Option.filter_eq_some_iff.mpr ⟨rfl, hkey⟩
  unfold writeChecked
  rw [hid]
  refine Call.yields_bind (looked_exists (.key key)) ?_ ?_
  · rintro xs e ⟨reply, rfl, hfound⟩
    exact ⟨reply, [], rfl, fun row rows hrows => by rw [hrows] at hfound; cases hfound⟩
  · rintro xs found ⟨reply, rfl, hfound⟩
    cases found with
    | true => exact Program.yields_mono (refused_update key hr) fun ys r hys => ⟨reply, ys, rfl, fun _ _ _ => hys⟩
    | false =>
      refine Program.yields_mono (accounts_create (some key) r) fun ys r _ => ⟨reply, ys, rfl, ?_⟩
      intro row rows hrows
      rw [hrows] at hfound
      cases hfound

/-! ## What is sent is a sentence -/

theorem sendsList_asksForNoColumn (ht : Plain st.table) (hplain : op.IsPlain) (hop : op.asksForNoColumn = true) :
    ∃ s, Program.SendsList [s] (st.perform op).run ∧ ¬ Grammatical s.sql := by
  cases op with
  | list f o =>
    exact ⟨_, sendsList_list st f o, not_grammatical_select ht hplain (beq_iff_eq.mp hop)⟩
  | iterate f o reader =>
    exact ⟨_, sendsList_iterate st f o reader, not_grammatical_select ht hplain (beq_iff_eq.mp hop)⟩
  | _ => cases hop

/-- Whatever the handle replies, an operation sends sentences only, but for a listing of no
column, whose one statement is none. A record with nothing to write is refused before
anything is sent, or by a checked write when the row is there. -/
theorem statements_grammatical (h : Handle σ) (start : σ) (ht : Plain st.table) (hplain : op.IsPlain) :
    (op.asksForNoColumn = false → ∀ s ∈ (Program.run h (st.perform op) start).statements, Grammatical s.sql) ∧
    (op.asksForNoColumn = true →
      ∃ s, (Program.run h (st.perform op) start).statements = [s] ∧ ¬ Grammatical s.sql) ∧
    (op.writesNoColumn = true → (Program.run h (st.perform op) start).statements = [] ∧
      ∃ text, (Program.run h (st.perform op) start).result = some (.error (.invalidInput text))) ∧
    (∀ key r, op = .writeChecked (some key) r → key.truthy = true → r.isEmpty = true →
      ∃ result, (Program.run h (st.perform op) start).result = some result ∧
        RefusedWhenThere (st.selectStatement (Filter.byId key) existenceOptions)
          (Program.run h (st.perform op) start).exchanges result) := by
  refine ⟨fun hop s hs => ?_, fun hop => ?_, fun hop => ?_, ?_⟩
  · obtain ⟨q, hq, hst⟩ := Program.sends_run h (sends_requested st op) start s hs
    have haligned := requested_aligned ht (plain_requests hplain q hq) hst
    refine (grammatical_of_aligned haligned).mpr (Request.sentence _ _ (namesColumns_of_requested hst ?_))
    rintro f o rfl
    exact requests_rows hop hq
  · obtain ⟨s, hsends, hnot⟩ := sendsList_asksForNoColumn ht hplain hop
    exact ⟨s, Program.statements_run h hsends start, hnot⟩
  · obtain ⟨r, hresult, hnone, text, rfl⟩ := Program.yields_run h (refused_perform hop) start
    have hnone' : (Program.run h (st.perform op) start).exchanges = [] := hnone
    exact ⟨by rw [Outcome.statements_eq, hnone']; rfl, text, hresult⟩
  · rintro key r rfl hkey hr
    exact Program.yields_run h (refused_there hkey hr) start

/-- A write that tries an upsert, looks for the row and inserts, sends three sentences. -/
theorem refused_write_grammatical :
    (Program.run refusing (Store.perform ⟨"items", .inline⟩ noted) ()).statements.length = 3 ∧
      ∀ s ∈ (Program.run refusing (Store.perform ⟨"items", .inline⟩ noted) ()).statements, Grammatical s.sql :=
  ⟨by rfl, (statements_grammatical refusing () (show Plain (Store.mk "items" .inline).table by decide)
    (show noted.IsPlain from (by decide : PlainNames (OrderedMap.ofList [("note", Value.text "it's '?'")])))).1 rfl⟩

/-- A listing of no column is not refused, and its statement goes out with nothing to select. -/
theorem empty_projection_sent :
    (Program.run refusing (Store.list ⟨"items", .bound⟩ .empty { fields := some [] }).run ()).statements =
        [⟨"SELECT  FROM `items`", []⟩] ∧
      ¬ Grammatical "SELECT  FROM `items`" := by
  have hsent : Store.selectStatement ⟨"items", .bound⟩ .empty { fields := some [] } = ⟨"SELECT  FROM `items`", []⟩ := by
    decide
  have hplain : PlainQuery (.empty : Filter) { fields := some [] } := ⟨by decide, by decide, by decide⟩
  have hnot := not_grammatical_select (show Plain (Store.mk "items" .bound).table by decide) hplain rfl
  rw [hsent] at hnot
  exact ⟨hsent ▸ Program.statements_run refusing (sendsList_list _ _ _) (), hnot⟩

end Store
end TableKeeper
