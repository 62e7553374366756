import TableKeeper.Proofs.Sheet.Writing
import TableKeeper.Proofs.Store.Reading

/-!
  TableKeeper.Proofs.Store.Writing — a write under a key, run on a sheet.

  1. The statements of a write are run one by one; what comes of the call is what the sheet
     makes of them (`Makes`).
  2. Whichever way a write takes, it does what it is to do (`write_keyed`).
  3. A sheet by the name of `excluded` is left out: there an upsert sets the columns of a row
     to what they are. So are names with a back-tick (`write_fails_by_names`).
-/

namespace TableKeeper

open Sql

namespace Store

open Sheet

variable {α σ : Type} {m : Meaning} {s after : Sheet} {st : Store} {r : Record} {k own : String}

/-- The call makes this of the sheet; unset, it fails and leaves the sheet as it is. -/
def Makes (m : Meaning) (c : Call WriteOutcome) (s : Sheet) : Option Sheet → Prop
  | some after => ∃ w, c.Ends (Sheet.handle m) s (.ok w) after
  | none => ∃ e, c.Ends (Sheet.handle m) s (.error e) s

variable {c : Call WriteOutcome} {x : Option Sheet}

theorem Makes.inSpan (hc : Makes m c s x) (sp : Span) : Makes m (inSpan sp c) s x := by
  cases x with
  | some after =>
    obtain ⟨w, hw⟩ := hc
    exact ⟨w, ends_inSpan hw sp⟩
  | none =>
    obtain ⟨e, he⟩ := hc
    exact ⟨e, ends_inSpan he sp⟩

theorem Makes.observe (hc : Makes m c s x) (operation table : String) : Makes m (observe operation table c) s x := by
  cases x with
  | some after =>
    obtain ⟨w, hw⟩ := hc
    exact ⟨w, ends_observe hw operation table⟩
  | none =>
    obtain ⟨e, he⟩ := hc
    exact ⟨_, ends_observe_error he operation table⟩

theorem Makes.bind {f : α → Call WriteOutcome} {d : Call α} {v : α} (hd : d.Ends (Sheet.handle m) s (.ok v) s)
    (hf : Makes m (f v) s x) : Makes m (d >>= f) s x := by
  cases x with
  | some after =>
    obtain ⟨w, hw⟩ := hf
    exact ⟨w, Call.ends_bind hd hw⟩
  | none =>
    obtain ⟨e, he⟩ := hf
    exact ⟨e, Call.ends_bind hd he⟩

/-- What follows a statement that leaves the sheet as it is may depend on its reply. -/
theorem Makes.replied {d : Call α} {v : Except Error α} {f : Except Error α → Call WriteOutcome}
    (hd : d.Ends (Sheet.handle m) s v s) (hf : Makes m (f v) s x) : Makes m (ExceptT.mk (d.run.bind f)) s x := by
  cases x with
  | some after =>
    obtain ⟨w, hw⟩ := hf
    exact ⟨w, Program.ends_bind hd hw⟩
  | none =>
    obtain ⟨e, he⟩ := hf
    exact ⟨e, Program.ends_bind hd he⟩

/-- A change that the sheet refuses fails with its cause. -/
theorem ends_refused {t : Statement} {d : Change} {cause : String} (ht : t.change? m = some d)
    (ha : s.apply m d = .error cause) :
    (Call.execute t).Ends (Sheet.handle m) s (.error (.operationFailed "execute" cause)) s :=
  Call.ends_execute (by simp [Sheet.handle, ht, ha]) (by simp [Sheet.handle, ht, ha])

/-- A change is done as the sheet does it. -/
theorem makes_execute {t : Statement} {d : Change} (ht : t.change? m = some d) (hf : s.fault? d = none) :
    Makes m (Call.execute t) s (s.changed m d).toOption := by
  have happly : s.apply m d = s.changed m d := by rw [Sheet.apply, hf]
  cases hd : s.changed m d with
  | ok after =>
    exact ⟨{}, Call.ends_execute (by simp [Sheet.handle, ht, happly, hd]) (by simp [Sheet.handle, ht, happly, hd])⟩
  | error cause => exact ⟨_, ends_refused ht (happly.trans hd)⟩

theorem makes_send {t : Statement} {d : Change} (message : String) (ht : t.change? m = some d)
    (hf : s.fault? d = none) :
    Makes m (send message (.ok t)) s (s.changed m d).toOption :=
  Makes.bind (Call.ends_pure t) (Makes.bind (Call.ends_tell _) (makes_execute ht hf))

/-! ## Statements of a write -/

theorem makes_create (ht : Plain st.table) (hn : st.table = s.name) (hp : PlainNames r) (hf : s.Fits r)
    (hne : r.entries ≠ [])
    (hown : r.get? Record.idColumn = some (.text own)) (id : Option Value) (hid : keyed id r = r) :
    Makes m (st.create id r) s (s.inserted m (fresh r own) none).toOption := by
  obtain ⟨hnames, -⟩ := values_ne hne
  have hst : st.insertStatement r = .ok (statement (.insert st.table r.names) r.values) := by
    simp [insertStatement, insert?, shaped, hnames]
  have hchange := Statement.change?_insert (m := m) (requested_aligned ht (q := .insert r) hp hst).tokens rfl hne
  have hsend := makes_send "inserting" hchange (hn ▸ fault?_insert hf)
  have hcreate : st.create id r = Store.inSpan (st.spanOf "create" (columnsField r)) (Store.observe "create" st.table
      (send "inserting" (.ok (statement (.insert st.table r.names) r.values)))) := by rw [create, hid, hst]
  rw [hcreate, ← proposed_keyed hown]
  exact (hsend.observe _ _).inSpan _

theorem makes_update (ht : Plain st.table) (hn : st.table = s.name) (hp : PlainNames r) (hf : s.Fits r)
    (hne : r.entries ≠ []) (k : String) :
    Makes m (st.update (.text k) r) s
      (s.changed m (.update s.name r.entries fun row => m.equal (row Record.idColumn) (.text k))).toOption := by
  obtain ⟨hnames, -⟩ := values_ne hne
  have hst : st.updateStatement (.text k) r = .ok (statement (.update st.table r.names) (r.values ++ [.text k])) := by
    simp [updateStatement, update?, shaped, hnames]
  have hchange := Statement.change?_update (m := m)
    (requested_aligned ht (q := .update (.text k) r) hp hst).tokens rfl hne
  have hsend := makes_send "updating" hchange (hn ▸ fault?_update hf _)
  have hupdate : st.update (.text k) r = Store.inSpan (st.spanOf "update" (columnsField r))
      (Store.observe "update" st.table (send "updating" (.ok (statement (.update st.table r.names) (r.values ++ [.text k]))))) := by rw [update, hst]
  rw [hupdate]
  exact (hsend.observe _ _).inSpan _

theorem named_key (hm : m.Exact) (b : ListBinding) (k : String) :
    (!(s.named m b (Filter.byId (.text k))).isEmpty) = decide (s.Has k) := by
  rw [Bool.eq_iff_iff, decide_eq_true_iff, named, accepts_byId]
  simp [Has, List.filter_eq_nil_iff, hm.right]

/-! ## Writing -/

/-- A record that a store may write to a sheet: its names are plain and columns of the sheet,
and its key, if it has one, is a text. -/
structure Writable (s : Sheet) (r : Record) : Prop where
  plain : PlainNames r
  fits : s.Fits r
  key : ∀ v ∈ r.get? Record.idColumn, ∃ own, v = .text own

theorem truthy_key (hk : k ≠ "") : truthy? (some (.text k)) = some (.text k) := by
  simp [truthy?, Value.truthy, hk]

/-- A record keeps the key that it has. -/
theorem keyed_own {v : Value} (hown : r.get? Record.idColumn = some v) (id : Option Value) : keyed id r = r := by
  unfold keyed
  split
  · simp [Record.withId, OrderedMap.contains, hown]
  · rfl

/-- A checked write updates the row that is there, and adds one where there is none. -/
theorem makes_checked (hm : m.Exact) (hid : Record.idColumn ∈ s.columns) (ht : Plain st.table) (hn : st.table = s.name)
    (hk : k ≠ "")
    (hx : if s.Has k then Makes m (st.update (.text k) r) s x else Makes m (st.create (some (.text k)) r) s x) :
    Makes m (st.writeChecked (some (.text k)) r) s x := by
  unfold writeChecked
  rw [truthy_key hk]
  have hexists := ends_exists (answers_handle m) ht hn hid (i := .key (.text k)) (plain_byId _)
  rw [Identifier.toFilter, named_key hm] at hexists
  refine Makes.bind hexists ?_
  by_cases hthere : s.Has k
  · simpa [hthere] using hx
  · simpa [hthere] using hx

theorem makes_writeChecked (hm : m.Exact) (hs : Keyed m s) (ht : Plain st.table) (hn : st.table = s.name)
    (hk : k ≠ "") (hr : Writable s r) (hown : r.get? Record.idColumn = some (.text own)) (hne : own ≠ k) :
    Makes m (st.writeChecked (some (.text k)) r) s (s.written k r) := by
  have hentries := OrderedMap.entries_ne hown
  have htarget : target k r = own := by simp [target, hown]
  refine makes_checked hm hs.key ht hn hk ?_
  unfold written
  rw [htarget]
  by_cases hthere : s.Has k
  · simp only [hthere, if_true]
    have hupdate := makes_update (m := m) ht hn hr.plain hr.fits hentries k
    by_cases htaken : s.Has own
    · rw [updated_taken hm hs hown hne hthere htaken] at hupdate
      rw [if_pos ⟨hne, htaken⟩]
      exact hupdate
    · rw [updated_free hm hs hown htaken] at hupdate
      rw [if_neg fun h => htaken h.2]
      exact hupdate
  · simp only [hthere, if_false]
    have hcreate := makes_create (m := m) ht hn hr.plain hr.fits hentries hown (some (.text k)) (keyed_own hown _)
    by_cases htaken : s.Has own
    · rw [inserted_taken hm hs (fresh_key r own) htaken] at hcreate
      rw [if_pos ⟨hne, htaken⟩]
      exact hcreate
    · rw [inserted_free hm hs (fresh_key r own) htaken] at hcreate
      rw [if_neg fun h => htaken h.2]
      exact hcreate

/-- The statement of an upsert is one, and it is read as the upsert of its record. -/
theorem upsert_asks (m : Meaning) (ht : Plain st.table) (hp : PlainNames r) (hne : r.entries ≠ []) :
    ∃ t, st.upsertStatement r = .ok t ∧ t.change? m = some (upserting st.table r) := by
  have hst : st.upsertStatement r = .ok (statement (.upsert st.table r.names) r.values) := by
    simp [upsertStatement, upsert?, shaped, (values_ne hne).1]
  have haligned := requested_aligned ht (q := .upsert r) hp hst
  exact ⟨_, hst, Statement.change?_upsert haligned.tokens rfl hne⟩

/-- An upsert is done where the sheet does it. -/
theorem makes_upsert_done {t : Statement} (hst : st.upsertStatement r = .ok t)
    (ht : Makes m (Call.execute t) s (some after)) (id : Value) : Makes m (st.upsert id r) s (some after) := by
  obtain ⟨w, hw⟩ := ht
  unfold upsert
  rw [hst]
  refine Makes.bind (Call.ends_pure _) (Makes.bind (Call.ends_tell _) ⟨w, ?_⟩)
  exact Program.ends_bind hw ⟨rfl, rfl⟩

/-- An upsert that the sheet refuses fails, unless the refusal tells of no unique key: then the
row is looked for first. -/
theorem makes_upsert_refused {t : Statement} {e : Error} (hst : st.upsertStatement r = .ok t)
    (he : (Call.execute t).Ends (Sheet.handle m) s (.error e) s) (id : Value)
    (hx : if lacksUniqueId e then Makes m (st.writeChecked (some id) r) s x else x = none) :
    Makes m (st.upsert id r) s x := by
  unfold upsert
  rw [hst]
  refine Makes.bind (Call.ends_pure _) (Makes.bind (Call.ends_tell _) (Makes.replied he ?_))
  by_cases hlacks : lacksUniqueId e = true
  · rw [if_pos hlacks] at hx
    show Makes m (if lacksUniqueId e then _ else _) s x
    rw [if_pos hlacks]
    exact Makes.bind (Call.ends_tell _) hx
  · rw [if_neg hlacks] at hx
    show Makes m (if lacksUniqueId e then _ else _) s x
    rw [if_neg hlacks, hx]
    exact ⟨e, rfl, rfl⟩

theorem makes_upsert (hm : m.Exact) (hs : Keyed m s) (ht : Plain st.table) (hn : st.table = s.name)
    (hx : Engine.sameName "excluded" s.name = false) (hr : Writable s r)
    (hown : r.get? Record.idColumn = some (.text k)) :
    Makes m (st.upsert (.text k) r) s (s.written k r) := by
  obtain ⟨t, hst, hchange⟩ := upsert_asks m ht hr.plain (OrderedMap.entries_ne hown)
  obtain ⟨after, hwritten, hchanged⟩ := changed_upsert hm hs hx hown st.table
  have hexecute := makes_execute hchange (hn ▸ fault?_upsert hs.unique hr.fits)
  rw [hchanged] at hexecute
  rw [hwritten]
  exact makes_upsert_done hst hexecute _

theorem renames_iff (k : String) (hr : ∀ v ∈ r.get? Record.idColumn, ∃ own, v = .text own) :
    renames (.text k) r = true ↔ ∃ own, r.get? Record.idColumn = some (.text own) ∧ own ≠ k := by
  unfold renames
  cases hown : r.get? Record.idColumn with
  | none => simp
  | some v =>
    obtain ⟨own, rfl⟩ := hr v hown
    simp [Value.eqv]

theorem Writable.withId (hid : Record.idColumn ∈ s.columns) (hr : Writable s r) (k : String) : Writable s (r.withId (.text k)) := by
  refine ⟨plain_withId hr.plain _, ?_, ?_⟩
  · intro n hmem
    unfold Record.withId at hmem
    split at hmem
    · exact hr.fits n hmem
    · rcases OrderedMap.mem_names_put hmem with hmem | rfl
      · exact hr.fits n hmem
      · exact hid
  · intro v hv
    unfold Record.withId at hv
    split at hv
    · exact hr.key v hv
    · rw [OrderedMap.get?_put, if_pos rfl] at hv
      exact ⟨k, (Option.some.inj hv).symm⟩

/-- A record with no key of its own, or with the same, is upserted under the key. -/
theorem makes_write_same (hk : k ≠ "") (hr : ∀ v ∈ r.get? Record.idColumn, v = .text k)
    (hx : Makes m (st.upsert (.text k) (r.withId (.text k))) s x) : Makes m (st.write (some (.text k)) r) s x := by
  have hrename : ¬renames (.text k) r = true := by
    rw [renames_iff k fun v hv => ⟨k, hr v hv⟩]
    rintro ⟨own, hown, hne⟩
    exact hne (Value.text.inj (hr _ hown))
  unfold write
  rw [truthy_key hk]
  refine (Makes.observe ?_ _ _).inSpan _
  rw [if_neg hrename]
  exact hx

/-- A write under a key makes of the sheet what it is to make of it, whichever way it takes. -/
theorem makes_write (hm : m.Exact) (hs : Keyed m s) (ht : Plain st.table) (hn : st.table = s.name)
    (hx : Engine.sameName "excluded" s.name = false) (hk : k ≠ "") (hr : Writable s r) :
    Makes m (st.write (some (.text k)) r) s (s.written k r) := by
  by_cases hrename : renames (.text k) r = true
  · obtain ⟨own, hown, hne⟩ := (renames_iff k hr.key).mp hrename
    unfold write
    rw [truthy_key hk]
    refine (Makes.observe ?_ _ _).inSpan _
    rw [if_pos hrename]
    exact Makes.bind (Call.ends_tell _) (makes_writeChecked hm hs ht hn hk hr hown hne)
  · have hsame : ∀ v ∈ r.get? Record.idColumn, v = .text k := by
      intro v hv
      obtain ⟨own, rfl⟩ := hr.key v hv
      by_contra hne
      exact hrename ((renames_iff k hr.key).mpr ⟨own, hv, fun h => hne (congrArg Value.text h)⟩)
    rw [← written_withId hsame]
    exact makes_write_same hk hsame (makes_upsert hm hs ht hn hx (hr.withId hs.key k) (get?_withId hsame))

/-- A write under a text patches, re-keys or adds the one row that it is about, or is refused
and changes nothing; and keys stay distinct. -/
theorem write_keyed (hm : m.Exact) (hs : Keyed m s) (ht : Plain st.table) (hn : st.table = s.name)
    (hx : Engine.sameName "excluded" s.name = false) (hk : k ≠ "") (hr : Writable s r) :
    Makes m (st.write (some (.text k)) r) s (s.written k r) ∧ ∀ after ∈ s.written k r, Distinct m after.rows :=
  ⟨makes_write hm hs ht hn hx hk hr, fun _ hafter => distinct_written hm hs hr.key hafter⟩

/-- A row with a key and one more column. -/
def noteRow (key note : String) : Tuple := fun c =>
  if c = Record.idColumn then .text key else if c = "note" then .text note else .null

def notes (name : String) : Sheet :=
  { name, columns := ["id", "note"], rows := [noteRow "k" "old", noteRow "j" "other"] }

def noMatch (_ _ : Value) : Bool := false

/-- The row moves to a new key. -/
def moved : Record := .ofList [("note", .text "new"), ("id", .text "l")]

theorem moved_note_keyed :
    Makes (.stored noMatch) (Store.write ⟨"my notes", .inline⟩ (some (.text "k")) moved) (notes "my notes")
        ((notes "my notes").written "k" moved) ∧
      ∀ after ∈ (notes "my notes").written "k" moved, Distinct (.stored noMatch) after.rows :=
  write_keyed (exact_stored noMatch) ⟨by decide, rfl, rfl, by decide +kernel⟩
    (show Plain "my notes" by decide) rfl (by decide)
    (by decide) ⟨by decide, by decide, fun _ hv => ⟨"l", (Option.some.inj hv).symm⟩⟩

/-! ## Where a write is something else -/

/-- The run ended with a value. -/
def endsWell {σ : Type} (o : Outcome σ (Except Error WriteOutcome)) : Bool :=
  match o.result with
  | some (.ok _) => true
  | _ => false

theorem Makes.endsWell (hc : Makes m c s x) : Store.endsWell (Program.run (Sheet.handle m) c.run s) = x.isSome := by
  cases x with
  | some after =>
    obtain ⟨w, hw, -⟩ := hc
    rw [Store.endsWell, hw]
    rfl
  | none =>
    obtain ⟨e, he, -⟩ := hc
    rw [Store.endsWell, he]
    rfl

theorem Makes.state (hc : Makes m c s x) : (Program.run (Sheet.handle m) c.run s).state = x.getD s := by
  cases x with
  | some after => exact hc.choose_spec.2
  | none => exact hc.choose_spec.2

/-- A name with a back-tick in it. -/
def ticked : Sheet := { name := "notes", columns := ["id", "a`b"], rows := [] }

def tickedRecord : Record := .ofList [("a`b", .text "v")]

def newNote : Record := .ofList [("note", .text "new")]

/-- A back-tick ends the name that it stands in, so there is no row; and where the table is
itself named `excluded`, the row that is there keeps what it has, though nothing fails. -/
theorem write_fails_by_names :
    (Keyed (.stored noMatch) ticked ∧ ticked.Fits tickedRecord ∧
      ¬Makes (.stored noMatch) (Store.write ⟨"notes", .bound⟩ (some (.text "k")) tickedRecord) ticked
        (ticked.written "k" tickedRecord)) ∧
    Keyed (.stored noMatch) (notes "excluded") ∧ (notes "excluded").Fits newNote ∧
      ¬Makes (.stored noMatch) (Store.write ⟨"excluded", .bound⟩ (some (.text "k")) newNote) (notes "excluded")
        ((notes "excluded").written "k" newNote) := by
  refine ⟨⟨⟨by decide, rfl, rfl, by decide +kernel⟩, by decide, fun h => ?_⟩,
    ⟨by decide, rfl, rfl, by decide +kernel⟩, by decide, fun h => ?_⟩
  · have hwell : endsWell (Program.run (Sheet.handle (.stored noMatch))
        (Store.write ⟨"notes", .bound⟩ (some (.text "k")) tickedRecord).run ticked) = false := by decide +kernel
    have hsome : (ticked.written "k" tickedRecord).isSome = true := by decide +kernel
    rw [h.endsWell, hsome] at hwell
    cases hwell
  · have hold : (Program.run (Sheet.handle (.stored noMatch))
        (Store.write ⟨"excluded", .bound⟩ (some (.text "k")) newNote).run (notes "excluded")).state.rows.map (· "note") =
        [.text "old", .text "other"] := by decide +kernel
    have hnew : (((notes "excluded").written "k" newNote).getD (notes "excluded")).rows.map (· "note") =
        [.text "new", .text "other"] := by decide +kernel
    rw [h.state, hnew] at hold
    exact absurd hold (by decide)

end Store
end TableKeeper
