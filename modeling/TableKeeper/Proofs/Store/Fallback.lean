import TableKeeper.Proofs.Sheet.Constraints
import TableKeeper.Proofs.Store.Writing

/-!
  TableKeeper.Proofs.Store.Fallback — writes to a sheet where nothing makes the key unique.

  1. Such a sheet refuses every upsert, and the row is looked for first. A write then does
     what it is to do all the same (`write_loose`).
  2. So writes one after the other come to the same rows on a sheet with a unique key and on
     one without, and no key gets a second row (`fallback_simulates`).
  3. The two differ where an upsert is something else: in a sheet by the name of `excluded`,
     and by names with a back-tick (`fallback_fails_by_names`).
-/

namespace TableKeeper

open Sql

namespace Store

open Sheet

variable {m : Meaning} {s after : Sheet} {st : Store} {r : Record} {k : String}

/-! ## One write -/

/-- A record that may be written under a key and leaves the row its key. -/
structure Keeps (s : Sheet) (k : String) (r : Record) : Prop where
  key : k ≠ ""
  plain : PlainNames r
  fits : s.Fits r
  own : ∀ v ∈ r.get? Record.idColumn, v = .text k

theorem Keeps.writable (hr : Keeps s k r) : Writable s r := ⟨hr.plain, hr.fits, fun v hv => ⟨k, hr.own v hv⟩⟩

theorem written_same (hr : Keeps s k r) :
    s.written k r =
      some { s with rows := if s.Has k then s.patchedRows k r else s.rows ++ [fresh r k] } := by
  unfold written
  rw [target_same hr.own, if_neg fun h => h.1 rfl]
  split <;> rfl

theorem makes_upsert_loose (hm : m.Exact) (hs : Loose s) (ht : Plain st.table) (hn : st.table = s.name)
    (hr : Keeps s k r) (hown : r.get? Record.idColumn = some (.text k)) :
    Makes m (st.upsert (.text k) r) s (s.written k r) := by
  have hentries := OrderedMap.entries_ne hown
  obtain ⟨t, hst, hchange⟩ := upsert_asks m ht hr.plain hentries
  have happly : s.apply m (upserting st.table r) =
      .error "ON CONFLICT clause does not match any PRIMARY KEY or UNIQUE constraint" := by
    rw [Sheet.apply, hn, fault?_loose hs hr.fits]
  have hlacks : lacksUniqueId (.operationFailed "execute"
      "ON CONFLICT clause does not match any PRIMARY KEY or UNIQUE constraint") = true := by decide +kernel
  refine makes_upsert_refused hst (ends_refused hchange happly) _ ?_
  rw [if_pos hlacks]
  refine makes_checked hm hs.key ht hn hr.key ?_
  rw [written_same hr]
  by_cases hthere : s.Has k
  · simp only [if_pos hthere]
    have hupdate := makes_update (m := m) ht hn hr.plain hr.fits hentries k
    rw [changed_update hm, hs.settled m] at hupdate
    exact hupdate
  · simp only [if_neg hthere]
    have hcreate := makes_create (m := m) ht hn hr.plain hr.fits hentries hown (some (.text k)) (keyed_own hown _)
    rw [hs.inserted m] at hcreate
    exact hcreate

/-- A write does what it is to do also where it has to look for the row. -/
theorem write_loose (hm : m.Exact) (hs : Loose s) (ht : Plain st.table) (hn : st.table = s.name)
    (hr : Keeps s k r) : Makes m (st.write (some (.text k)) r) s (s.written k r) := by
  have hw := hr.writable.withId hs.key k
  have hsame : ∀ v ∈ (r.withId (.text k)).get? Record.idColumn, v = .text k := by
    intro v hv
    rw [get?_withId hr.own] at hv
    exact (Option.some.inj hv).symm
  rw [← written_withId hr.own]
  exact makes_write_same hr.key hr.own
    (makes_upsert_loose hm hs ht hn ⟨hr.key, hw.plain, hw.fits, hsame⟩ (get?_withId hr.own))

/-! ## Writes one after the other -/

/-- The sheet with keys that may repeat. -/
def loosened (s : Sheet) : Sheet := { s with unique := false }

/-- The calls that write the records under their keys. -/
def writes (st : Store) (ws : List (String × Record)) : List (Call WriteOutcome) :=
  ws.map fun w => st.write (some (.text w.1)) w.2

/-- The sheet after the records are written one by one. -/
def writtenAll (s : Sheet) (ws : List (String × Record)) : Option Sheet :=
  ws.foldlM (fun s w => s.written w.1 w.2) s

/-- What is to be done does not hang on whether the key is unique. -/
theorem written_loosened (hr : Keeps s k r) (hafter : s.written k r = some after) :
    (loosened s).written k r = some (loosened after) := by
  have hloose : Keeps (loosened s) k r := ⟨hr.key, hr.plain, hr.fits, hr.own⟩
  rw [written_same hr] at hafter
  rw [written_same hloose, ← Option.some.inj hafter]
  rfl

/-- A write keeps a sheet a sheet with a key, and its columns and name. -/
theorem written_kept (hm : m.Exact) (hs : Keyed m s) (hr : Keeps s k r) (hafter : s.written k r = some after) :
    Keyed m after ∧ after.columns = s.columns ∧ after.name = s.name := by
  have hdistinct := distinct_written hm hs hr.writable.key hafter
  rw [written_same hr] at hafter
  rw [← Option.some.inj hafter] at hdistinct ⊢
  exact ⟨⟨hs.key, hs.unique, hs.free, hdistinct⟩, rfl, rfl⟩

/-- Both sheets take one write, and are still the same but for the key. -/
theorem write_step (hm : m.Exact) (hs : Keyed m s) (ht : Plain st.table) (hn : st.table = s.name)
    (hx : Engine.sameName "excluded" s.name = false) (hr : Keeps s k r) :
    ∃ after, s.written k r = some after ∧ Makes m (st.write (some (.text k)) r) s (some after) ∧
      Makes m (st.write (some (.text k)) r) (loosened s) (some (loosened after)) := by
  obtain ⟨after, hafter⟩ : ∃ after, s.written k r = some after := ⟨_, written_same hr⟩
  have hkeyed := makes_write hm hs ht hn hx hr.key hr.writable
  have hloose := write_loose (m := m) (s := loosened s) hm ⟨hs.key, rfl, hs.free⟩ ht hn
    ⟨hr.key, hr.plain, hr.fits, hr.own⟩
  rw [written_loosened hr hafter] at hloose
  rw [hafter] at hkeyed
  exact ⟨after, hafter, hkeyed, hloose⟩

/-- Whether the key is unique or not, all writes are done, and they come to the same rows, in
which no key stands twice. -/
theorem fallback_simulates (hm : m.Exact) (hs : Keyed m s) (ht : Plain st.table) (hn : st.table = s.name)
    (hx : Engine.sameName "excluded" s.name = false) (ws : List (String × Record))
    (hws : ∀ w ∈ ws, Keeps s w.1 w.2) :
    ∃ after, writtenAll s ws = some after ∧ Distinct m after.rows ∧
      Call.AllEnd (Sheet.handle m) (st.writes ws) s after ∧
      Call.AllEnd (Sheet.handle m) (st.writes ws) (loosened s) (loosened after) := by
  induction ws generalizing s with
  | nil => exact ⟨s, rfl, hs.distinct, ⟨nofun, rfl⟩, ⟨nofun, rfl⟩⟩
  | cons w ws ih =>
    have hw := hws w List.mem_cons_self
    obtain ⟨next, hnext, ⟨_, hkeyed⟩, ⟨_, hloose⟩⟩ := write_step hm hs ht hn hx hw
    obtain ⟨hs', hcolumns, hname⟩ := written_kept hm hs hw hnext
    have hrest : ∀ v ∈ ws, Keeps next v.1 v.2 := by
      intro v hv
      obtain ⟨hkey, hplain, hfits, hown⟩ := hws v (List.mem_cons_of_mem _ hv)
      exact ⟨hkey, hplain, by rw [Fits, hcolumns]; exact hfits, hown⟩
    obtain ⟨after, hafter, hdistinct, hall, hallLoose⟩ := ih hs' (hn.trans hname.symm) (hname ▸ hx) hrest
    refine ⟨after, ?_, hdistinct, Call.allEnd_cons hkeyed hall, Call.allEnd_cons hloose hallLoose⟩
    rw [writtenAll, List.foldlM_cons, hnext]
    exact hafter

/-- A row is patched, a row is added under a key alone, and is patched in its turn. -/
def noteWrites : List (String × Record) :=
  [("k", newNote), ("l", OrderedMap.empty), ("l", .ofList [("id", .text "l"), ("note", .text "late")])]

theorem notes_fallback_simulates :
    ∃ after, writtenAll (notes "my notes") noteWrites = some after ∧ Distinct (.stored noMatch) after.rows ∧
      Call.AllEnd (Sheet.handle (.stored noMatch)) (Store.writes ⟨"my notes", .bound⟩ noteWrites) (notes "my notes")
        after ∧
      Call.AllEnd (Sheet.handle (.stored noMatch)) (Store.writes ⟨"my notes", .bound⟩ noteWrites)
        (loosened (notes "my notes")) (loosened after) := by
  have hkeeps : ∀ w ∈ noteWrites, Keeps (notes "my notes") w.1 w.2 := by
    intro w hw
    rcases List.mem_cons.mp hw with rfl | hw
    · exact ⟨by decide, by decide, by decide, by decide⟩
    rcases List.mem_cons.mp hw with rfl | hw
    · exact ⟨by decide, by decide, by decide, by decide⟩
    rw [List.mem_singleton.mp hw]
    exact ⟨by decide, by decide, by decide, by decide⟩
  exact fallback_simulates (exact_stored noMatch) ⟨by decide, rfl, rfl, by decide +kernel⟩
    (show Plain "my notes" by decide) rfl (by decide) noteWrites hkeeps

/-- One write, run by itself. -/
theorem makes_of_writes (h : Call.AllEnd (Sheet.handle m) (st.writes [(k, r)]) s after) :
    Makes m (st.write (some (.text k)) r) s (some after) :=
  Call.allEnd_singleton.mp h

/-- A back-tick ends the name that it stands in, so a write fails; and where the table is itself
named `excluded`, only the sheet without a unique key takes the new note. -/
theorem fallback_fails_by_names :
    (Keyed (.stored noMatch) ticked ∧ ticked.Fits tickedRecord ∧
      ¬∃ after, Call.AllEnd (Sheet.handle (.stored noMatch)) (Store.writes ⟨"notes", .bound⟩ [("k", tickedRecord)])
        ticked after) ∧
    Keyed (.stored noMatch) (notes "excluded") ∧ (notes "excluded").Fits newNote ∧
      ¬∃ after, Call.AllEnd (Sheet.handle (.stored noMatch)) (Store.writes ⟨"excluded", .bound⟩ [("k", newNote)])
          (notes "excluded") after ∧
        Call.AllEnd (Sheet.handle (.stored noMatch)) (Store.writes ⟨"excluded", .bound⟩ [("k", newNote)])
          (loosened (notes "excluded")) (loosened after) := by
  refine ⟨⟨⟨by decide, rfl, rfl, by decide +kernel⟩, by decide, ?_⟩,
    ⟨by decide, rfl, rfl, by decide +kernel⟩, by decide, ?_⟩
  · rintro ⟨after, hall⟩
    have hwell : endsWell (Program.run (Sheet.handle (.stored noMatch))
        (Store.write ⟨"notes", .bound⟩ (some (.text "k")) tickedRecord).run ticked) = false := by decide +kernel
    rw [(makes_of_writes hall).endsWell] at hwell
    cases hwell
  · rintro ⟨after, hkeyed, hloose⟩
    have hnotes : (Program.run (Sheet.handle (.stored noMatch))
        (Store.write ⟨"excluded", .bound⟩ (some (.text "k")) newNote).run (notes "excluded")).state.rows.map (· "note") =
        [.text "old", .text "other"] := by decide +kernel
    have hwrite : Makes (.stored noMatch) (Store.write ⟨"excluded", .bound⟩ (some (.text "k")) newNote)
        (loosened (notes "excluded")) ((loosened (notes "excluded")).written "k" newNote) :=
      write_loose (exact_stored noMatch) ⟨by decide, rfl, rfl⟩ (show Plain "excluded" by decide) rfl
        ⟨by decide, show PlainNames newNote by decide, by decide, by decide⟩
    have hlate : (((loosened (notes "excluded")).written "k" newNote).getD
        (loosened (notes "excluded"))).rows.map (· "note") = [.text "new", .text "other"] := by decide +kernel
    rw [(makes_of_writes hkeyed).state] at hnotes
    rw [← hwrite.state, (makes_of_writes hloose).state] at hlate
    exact absurd (hnotes.symm.trans hlate) (by decide)

end Store
end TableKeeper
