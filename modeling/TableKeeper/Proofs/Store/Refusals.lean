import TableKeeper.Proofs.Store.Sentences

/-!
  TableKeeper.Proofs.Store.Refusals — when a call that changes rows refuses its input.

  1. A statement needs a column. A record has one as soon as it has a key, so a truthy key
     makes up for an empty record where the key is put into the record (`keyed_isEmpty`).
  2. A handle that refuses no input itself leaves no other reason: a call refuses its input
     exactly when what it would write has no column (`empty_writes_refused`).
  3. Then nothing was sent, but that a checked write may have looked for its row.
  4. An empty record with a key is written, and an empty patch is refused after the look
     (`empty_record_written`).
-/

namespace TableKeeper

open Sql

variable {α σ : Type}

/-! ## Handles that refuse no input -/

/-- The reply refuses no input, and none of its rows does. -/
def Entry.Accepted : Entry → Prop
  | executed _ r => ¬ Store.Refusal r
  | queried _ r => ¬ Store.Refusal r ∧ ∀ items, r = .ok items → ∀ item ∈ items, ¬ Store.Refusal item
  | told _ | released _ _ => True

/-- Whatever it is asked, the handle does not say that the input is invalid. -/
def Handle.Accepting (h : Handle σ) : Prop :=
  ∀ st s, (Entry.executed s (h.execute st s).result).Accepted ∧ (Entry.queried s (h.query st s).result).Accepted

namespace Mutation

/-- The call got a row for its question. -/
def FoundRow (xs : List Entry) : Prop :=
  ∃ s reply more row rows, xs = .queried s reply :: more ∧ Call.gathered reply = .ok (row :: rows)

/-- What the call is to write has no column. -/
def WritesNoColumn (xs : List Entry) : Mutation → Prop
  | create id r | write id r => Store.truthy? id = none ∧ r.isEmpty = true
  | update _ r => r.isEmpty = true
  | writeChecked id r => r.isEmpty = true ∧ (Store.truthy? id = none ∨ FoundRow xs)
  | remove _ => False

/-- The statement only looks for the row that the call is about. -/
def IsLook (st : Store) (s : Statement) : Mutation → Prop
  | writeChecked id _ =>
    ∃ key, Store.truthy? id = some key ∧ s = st.selectStatement (Filter.byId key) Store.existenceOptions
  | _ => False

end Mutation

namespace Store

variable {st : Store} {p : Prop} {xs : List Entry} {r : Except Error α}

/-! ## Records without a column -/

theorem names_eq_nil {r : Record} : r.names = [] ↔ r.isEmpty = true := by
  rw [OrderedMap.names, List.map_eq_nil_iff, OrderedMap.isEmpty, List.isEmpty_iff]

theorem withId_isEmpty (r : Record) (key : Value) : (r.withId key).isEmpty = false := by
  have hentries : (r.withId key).entries ≠ [] := by
    unfold Record.withId
    split
    · rename_i hown
      obtain ⟨v, hv⟩ := Option.isSome_iff_exists.mp hown
      exact OrderedMap.entries_ne hv
    · exact OrderedMap.entries_ne ((OrderedMap.get?_put r Record.idColumn _ key).trans (if_pos rfl))
  rwa [OrderedMap.isEmpty, List.isEmpty_eq_false_iff]

/-- A truthy key is a column of its own. -/
theorem keyed_isEmpty {id : Option Value} {r : Record} :
    (keyed id r).isEmpty = true ↔ truthy? id = none ∧ r.isEmpty = true := by
  unfold keyed
  cases truthy? id with
  | none => exact ⟨fun h => ⟨rfl, h⟩, fun h => h.2⟩
  | some key => simp [withId_isEmpty]

/-- A statement over columns is refused as input when there are none, and for nothing else. -/
theorem shaped_cases (columns : List String) (f : NoColumns) (c : Command) (params : List Value) :
    columns = [] ∧ Refusal (shaped (if columns.isEmpty then .error f else .ok c) params) ∨
      columns ≠ [] ∧ ∃ s, shaped (if columns.isEmpty then .error f else .ok c) params = .ok s := by
  cases columns with
  | nil => exact .inl ⟨rfl, _, rfl⟩
  | cons c columns => exact .inr ⟨List.cons_ne_nil _ _, _, rfl⟩

/-! ## What a call makes of replies that refuse nothing -/

theorem attributed_eq_invalidInput {operation text : String} {e : Error} :
    attributed operation e = .invalidInput text ↔ e = .invalidInput text := by
  cases e with
  | operationFailed step cause =>
    simp only [attributed]
    split <;> simp
  | _ => exact Iff.rfl

theorem refusal_told {operation : String} : Refusal (r.mapError (attributed operation)) ↔ Refusal r := by
  cases r with
  | ok a => constructor <;> rintro ⟨text, ⟨⟩⟩
  | error e => simp [Refusal, Except.mapError, attributed_eq_invalidInput]

/-- The error that ends a list of rows is one of its items. -/
theorem mem_of_drained {items : List RowItem} {e : Error} (h : (Reader.drained items).1 = .error e) :
    .error e ∈ items := by
  induction items with
  | nil => cases h
  | cons item items ih =>
    cases item with
    | error e' =>
      cases h
      exact List.mem_cons_self
    | ok row =>
      cases hrest : (Reader.drained items).1 with
      | ok rows =>
        simp only [Reader.drained, hrest] at h
        cases h
      | error e' =>
        simp only [Reader.drained, hrest] at h
        cases h
        exact List.mem_cons_of_mem _ (ih hrest)

theorem not_refusal_gathered {s : Statement} {reply : Except Error (List RowItem)}
    (h : (Entry.queried s reply).Accepted) : ¬ Refusal (Call.gathered reply) := by
  rintro ⟨text, hgathered⟩
  cases reply with
  | error e => exact h.1 ⟨text, congrArg _ (Except.error.inj hgathered)⟩
  | ok items => exact h.2 items rfl _ (mem_of_drained hgathered) ⟨text, rfl⟩

/-- Where no reply refuses the input, the call refuses it exactly when `p` holds, and then has
sent nothing. -/
def RefusesWhen (p : Prop) (xs : List Entry) (r : Except Error α) : Prop :=
  (∀ x ∈ xs, x.Accepted) → (Refusal r ↔ p) ∧ (p → xs = [])

theorem refuses_sent {s : Except Error Statement} {operation : String} {r : Except Error WriteOutcome}
    (hs : p ∧ Refusal s ∨ ¬ p ∧ ∃ t, s = .ok t) (h : Sent s (attributed operation) xs r) : RefusesWhen p xs r := by
  intro haccepted
  rcases hs with ⟨hp, text, rfl⟩ | ⟨hp, t, rfl⟩
  · obtain ⟨rfl, rfl⟩ := h
    exact ⟨⟨fun _ => hp, fun _ => ⟨text, rfl⟩⟩, fun _ => rfl⟩
  · obtain ⟨reply, rfl, rfl⟩ := h
    have hreply : ¬ Refusal reply := haccepted _ List.mem_cons_self
    exact ⟨⟨fun hr => absurd (refusal_told.mp hr) hreply, fun h => absurd h hp⟩, fun h => absurd h hp⟩

theorem refuses_create (id : Option Value) (r : Record) :
    (st.create id r).Yields (RefusesWhen (truthy? id = none ∧ r.isEmpty = true)) := by
  refine Program.yields_mono (sent_create id r) fun xs res h => refuses_sent ?_ h
  rw [← keyed_isEmpty, ← names_eq_nil]
  exact shaped_cases _ _ _ _

theorem refuses_update (id : Value) (r : Record) : (st.update id r).Yields (RefusesWhen (r.isEmpty = true)) := by
  refine Program.yields_mono (sent_update id r) fun xs res h => refuses_sent ?_ h
  rw [← names_eq_nil]
  exact shaped_cases _ _ _ _

theorem foundRow_cons {s : Statement} {reply : Except Error (List RowItem)} {ys : List Entry} :
    Mutation.FoundRow (.queried s reply :: ys) ↔ ∃ row rows, Call.gathered reply = .ok (row :: rows) := by
  constructor
  · rintro ⟨_, _, _, row, rows, ⟨⟩, hrows⟩
    exact ⟨row, rows, hrows⟩
  · rintro ⟨row, rows, hrows⟩
    exact ⟨_, _, _, row, rows, rfl, hrows⟩

/-- A checked write by key refuses an empty record exactly when it finds the row, and has sent
nothing but its look then. -/
theorem refuses_checked {key : Value} (hkey : truthy? (some key) = some key) (r : Record) :
    (st.writeChecked (some key) r).Yields fun xs res => (∀ x ∈ xs, x.Accepted) →
      (Refusal res ↔ r.isEmpty = true ∧ Mutation.FoundRow xs) ∧
      (Refusal res → xs.filterMap Entry.statement? = [st.look key]) := by
  unfold writeChecked
  rw [hkey]
  refine Call.yields_bind (looked_key key) ?_ ?_
  · intro xs e hlook haccepted
    obtain ⟨reply, rfl, ⟨e', hrows, he⟩ | ⟨rows, -, ⟨⟩⟩⟩ := looked_cases hlook
    have hnot : ¬ Refusal (Except.error e : Except Error WriteOutcome) := by
      rintro ⟨text, ⟨⟩⟩
      have hinvalid := attributed_eq_invalidInput.mp (Except.error.inj he).symm
      exact not_refusal_gathered (haccepted _ List.mem_cons_self) ⟨text, hinvalid ▸ hrows⟩
    rw [foundRow_cons, hrows]
    refine ⟨⟨fun h => absurd h hnot, ?_⟩, fun h => absurd h hnot⟩
    rintro ⟨-, row, rows, ⟨⟩⟩
  · intro xs found hlook
    obtain ⟨reply, rfl, ⟨e, -, ⟨⟩⟩ | ⟨rows, hrows, hfound⟩⟩ := looked_cases hlook
    obtain rfl := Except.ok.inj hfound
    cases rows with
    | nil =>
      refine Program.yields_mono (refuses_create (some key) r) fun ys res h haccepted => ?_
      have hnot : ¬ Refusal res := fun hres => by
        have hkeyless := ((h fun x hx => haccepted x (List.mem_append_right _ hx)).1.mp hres).1
        rw [hkey] at hkeyless
        cases hkeyless
      rw [List.singleton_append, foundRow_cons, hrows]
      refine ⟨⟨fun h => absurd h hnot, ?_⟩, fun h => absurd h hnot⟩
      rintro ⟨-, row, rows, ⟨⟩⟩
    | cons row rows =>
      refine Program.yields_mono (refuses_update key r) fun ys res h haccepted => ?_
      obtain ⟨hiff, hnone⟩ := h fun x hx => haccepted x (List.mem_append_right _ hx)
      rw [List.singleton_append, foundRow_cons, hrows, hiff]
      refine ⟨⟨fun hr => ⟨hr, row, rows, rfl⟩, fun hr => hr.1⟩, fun hr => ?_⟩
      rw [hnone hr]
      rfl

/-! ## The calls -/

/-- Where no reply refuses the input, the call refuses it exactly when what it would write has no
column, and then has at most looked for its row. -/
def RefusesEmpty (st : Store) (c : Mutation) (xs : List Entry) (r : Except Error WriteOutcome) : Prop :=
  (∀ x ∈ xs, x.Accepted) →
    (Refusal r ↔ c.WritesNoColumn xs) ∧ (Refusal r → ∀ s ∈ xs.filterMap Entry.statement?, c.IsLook st s)

theorem RefusesWhen.empty {c : Mutation} {res : Except Error WriteOutcome} (h : RefusesWhen p xs res)
    (hp : p ↔ c.WritesNoColumn xs) : RefusesEmpty st c xs res := by
  intro haccepted
  obtain ⟨hiff, hnone⟩ := h haccepted
  refine ⟨hiff.trans hp, fun hres => ?_⟩
  rw [hnone (hiff.mp hres)]
  exact nofun

/-- A write that looks first goes on with a record that is not empty. -/
theorem checked_not_refused {key : Value} (hkey : truthy? (some key) = some key) {r : Record}
    (hr : r.isEmpty = false) :
    (st.writeChecked (some key) r).Yields fun xs res => (∀ x ∈ xs, x.Accepted) → ¬ Refusal res := by
  refine Program.yields_mono (refuses_checked hkey r) fun xs res h haccepted hres => ?_
  have hempty := ((h haccepted).1.mp hres).1
  rw [hr] at hempty
  cases hempty

theorem upsert_not_refused {key : Value} (hkey : truthy? (some key) = some key) {r : Record}
    (hr : r.isEmpty = false) :
    (st.upsert key r).Yields fun xs res => (∀ x ∈ xs, x.Accepted) → ¬ Refusal res := by
  have hnames : r.names ≠ [] := fun hnames => by rw [names_eq_nil.mp hnames] at hr; cases hr
  have hstatement : ∃ s, st.upsertStatement r = .ok s := by
    rcases shaped_cases r.names ⟨"insert", st.table⟩ (.upsert st.table r.names) r.values with ⟨hnil, -⟩ | ⟨-, hs⟩
    · exact absurd hnil hnames
    · exact hs
  obtain ⟨s, hs⟩ := hstatement
  unfold upsert
  rw [hs]
  intro reply
  cases reply with
  | ok w => rintro - ⟨text, ⟨⟩⟩
  | error e =>
    show Program.Yields (if lacksUniqueId e then _ else _) _
    split
    · refine Program.yields_mono (checked_not_refused hkey hr) fun ys res h haccepted => ?_
      exact h fun x hx => haccepted x (List.mem_cons_of_mem _ hx)
    · exact fun haccepted => haccepted (.executed s (.error e)) List.mem_cons_self

theorem truthy_given {id : Option Value} {key : Value} (hid : truthy? id = some key) : truthy? (some key) = some key :=
  Option.filter_eq_some_iff.mpr ⟨rfl, (Option.filter_eq_some_iff.mp hid).2⟩

theorem writeChecked_given {id : Option Value} {key : Value} {r : Record} (hid : truthy? id = some key) :
    st.writeChecked id r = st.writeChecked (some key) r := by
  unfold writeChecked
  rw [hid, truthy_given hid]

theorem isEmpty_of_renames {key : Value} {r : Record} (h : renames key r = true) : r.isEmpty = false := by
  unfold renames at h
  cases hown : r.get? Record.idColumn with
  | none => rw [hown] at h; cases h
  | some own => exact List.isEmpty_eq_false_iff.mpr (OrderedMap.entries_ne hown)

/-- With a key there is always a column to write. -/
theorem refuses_write (id : Option Value) (r : Record) : (st.write id r).Yields (RefusesEmpty st (.write id r)) := by
  unfold write
  cases hid : truthy? id with
  | none =>
    refine yields_inSpan (Program.yields_mono (refuses_create none r) fun xs res h => h.empty ?_) _
    exact and_congr_left' ⟨fun _ => hid, fun _ => rfl⟩
  | some key =>
    refine yields_inSpan (yields_observe _ _ (Program.yields_mono
      (p := fun xs res => (∀ x ∈ xs, x.Accepted) → ¬ Refusal res) ?_ fun xs res h haccepted => ?_)) _
    · by_cases hrenames : renames key r = true
      · rw [if_pos hrenames]
        exact checked_not_refused (truthy_given hid) (isEmpty_of_renames hrenames)
      · rw [if_neg hrenames]
        exact upsert_not_refused (truthy_given hid) (withId_isEmpty r key)
    · have hnot : ¬ Refusal (res.mapError (attributed "write")) := fun hres => h haccepted (refusal_told.mp hres)
      refine ⟨⟨fun hres => absurd hres hnot, ?_⟩, fun hres => absurd hres hnot⟩
      rintro ⟨hnone, -⟩
      rw [hid] at hnone
      cases hnone

theorem refuses_writeChecked (id : Option Value) (r : Record) :
    (st.writeChecked id r).Yields (RefusesEmpty st (.writeChecked id r)) := by
  cases hid : truthy? id with
  | none =>
    unfold writeChecked
    rw [hid]
    refine Program.yields_mono (refuses_create none r) fun xs res h => h.empty ?_
    exact ⟨fun ⟨_, hr⟩ => ⟨hr, .inl hid⟩, fun ⟨hr, _⟩ => ⟨rfl, hr⟩⟩
  | some key =>
    rw [writeChecked_given hid]
    refine Program.yields_mono (refuses_checked (truthy_given hid) r) fun xs res h haccepted => ?_
    obtain ⟨hiff, hlook⟩ := h haccepted
    refine ⟨hiff.trans (and_congr_right' ⟨.inr, ?_⟩), fun hres s hs => ⟨key, hid, ?_⟩⟩
    · rintro (hnone | hfound)
      · rw [hid] at hnone
        cases hnone
      · exact hfound
    · rw [hlook hres] at hs
      exact List.mem_singleton.mp hs

/-- Against a handle that refuses no input, a call that changes rows ends, and refuses its input
exactly when what it would write has no column. It has sent nothing then, but that a checked
write may have looked for its row. -/
theorem empty_writes_refused (h : Handle σ) (hh : h.Accepting) (start : σ) (st : Store) (c : Mutation) :
    ∃ r, (Program.run h (st.mutate c).run start).result = some r ∧
      (Refusal r ↔ c.WritesNoColumn (Program.run h (st.mutate c).run start).exchanges) ∧
      (Refusal r → ∀ s ∈ (Program.run h (st.mutate c).run start).statements, c.IsLook st s) := by
  have hall : (st.mutate c).Yields (RefusesEmpty st c) := by
    cases c with
    | create id r => exact Program.yields_mono (refuses_create id r) fun xs res h => h.empty Iff.rfl
    | update id r => exact Program.yields_mono (refuses_update id r) fun xs res h => h.empty Iff.rfl
    | remove i =>
      refine Program.yields_mono (sent_remove i) fun xs res h => ?_
      have hnever : RefusesWhen False xs res := refuses_sent (.inr ⟨id, _, rfl⟩) h
      exact hnever.empty Iff.rfl
    | write id r => exact refuses_write id r
    | writeChecked id r => exact refuses_writeChecked id r
  obtain ⟨r, hresult, hanswer⟩ := Program.yields_run h hall start
  rw [Outcome.statements_eq]
  exact ⟨r, hresult, hanswer (Program.exchanges_run h hh _ start)⟩

/-- A table in which every row is there and every change is applied. -/
def crowded : Handle Unit where
  execute st _ := ⟨.ok { rowsAffected := 1 }, st, []⟩
  query st _ := ⟨.ok [.ok (.ofList [("id", .text "k")])], st, []⟩
  release := id
  unwind := id

theorem accepting_crowded : crowded.Accepting := by
  refine fun st s => ⟨?_, ?_, ?_⟩
  · rintro ⟨text, ⟨⟩⟩
  · rintro ⟨text, ⟨⟩⟩
  · rintro items ⟨⟩ item hitem ⟨text, rfl⟩
    cases List.mem_singleton.mp hitem

/-- An empty patch of a row that is there is refused, after the look for the row. -/
theorem empty_patch_refused :
    crowded.Accepting ∧
    ∃ r, (Program.run crowded (Store.mutate ⟨"items", .bound⟩ (.writeChecked (some (.text "k")) .empty)).run ()).result =
        some r ∧ Refusal r ∧
      ∀ s ∈ (Program.run crowded (Store.mutate ⟨"items", .bound⟩ (.writeChecked (some (.text "k")) .empty)).run
          ()).statements, (Mutation.writeChecked (some (.text "k")) .empty).IsLook ⟨"items", .bound⟩ s := by
  obtain ⟨r, hresult, hiff, hlook⟩ :=
    empty_writes_refused crowded accepting_crowded () ⟨"items", .bound⟩ (.writeChecked (some (.text "k")) .empty)
  have hrefusal : Refusal r := hiff.mpr ⟨rfl, .inr ⟨_, _, _, _, _, rfl, rfl⟩⟩
  exact ⟨accepting_crowded, r, hresult, hrefusal, hlook hrefusal⟩

/-- A record without columns is written where a key is given, and a patch without columns is
refused only after a statement was sent. -/
theorem empty_record_written :
    crowded.Accepting ∧
    (Program.run crowded (Store.create ⟨"items", .bound⟩ (some (.text "k")) .empty).run ()).result =
      some (.ok { rowsAffected := 1 }) ∧
    (Program.run crowded (Store.write ⟨"items", .bound⟩ (some (.text "k")) .empty).run ()).result =
      some (.ok { rowsAffected := 1 }) ∧
    (∃ text, (Program.run crowded (Store.writeChecked ⟨"items", .bound⟩ (some (.text "k")) .empty).run ()).result =
      some (.error (.invalidInput text))) ∧
    (Program.run crowded (Store.writeChecked ⟨"items", .bound⟩ (some (.text "k")) .empty).run ()).statements.length = 1 :=
  ⟨accepting_crowded, rfl, rfl, ⟨_, rfl⟩, rfl⟩

end Store
end TableKeeper
