import TableKeeper.Proofs.Sheet.Constraints
import TableKeeper.Proofs.Store.Writing

/-!
  TableKeeper.Proofs.Store.Patching — a write and an update of a row that is there.

  1. An update sets the columns of the record and is refused when it would empty a required
     one (`Sheet.updated`).
  2. A write is one upsert, and an upsert is judged by the row that it would add. So it is
     refused as soon as the record leaves out a required column, though the row that is there
     has it (`rewritten`, `write_over`, `partial_write_refused`).
-/

namespace TableKeeper

open Sql

namespace Store

open Sheet

variable {m : Meaning} {s : Sheet} {st : Store} {r : Record} {k : String}

/-- The sheet after a write to a row that is there. The row is looked for first only where the
refusal of the new row reads like one for want of a unique key, by the names it tells of; and
in a sheet by the name of `excluded` an upsert sets the columns of a row to what they are. -/
def rewritten (s : Sheet) (k : String) (r : Record) : Option Sheet :=
  match s.missing? (fresh r k) with
  | none => if Engine.sameName "excluded" s.name then some s else s.updated k r
  | some c => if lacksUniqueId (.operationFailed "execute" (s.missingFault c)) then s.updated k r else none

theorem makes_update_there (hm : m.Exact) (hs : Sound m s) (ht : Plain st.table) (hn : st.table = s.name)
    (hthere : s.Has k) (hp : PlainNames r) (hf : s.Fits r) (hne : r.entries ≠ [])
    (hown : ∀ v ∈ r.get? Record.idColumn, v = .text k) : Makes m (st.update (.text k) r) s (s.updated k r) := by
  rw [← settled_patched hm hs hthere hown, ← changed_update hm s s.name k r]
  exact makes_update ht hn hp hf hne k

/-- An upsert over a row that is there, of a record with the row's key. -/
theorem makes_upsert_there (hm : m.Exact) (hs : Sound m s) (ht : Plain st.table) (hn : st.table = s.name)
    (hk : k ≠ "") (hthere : s.Has k) (hp : PlainNames r) (hf : s.Fits r)
    (hown : r.get? Record.idColumn = some (.text k)) :
    Makes m (st.upsert (.text k) r) s (rewritten s k r) := by
  have hentries := OrderedMap.entries_ne hown
  have hsame : ∀ v ∈ r.get? Record.idColumn, v = .text k := fun v hv => Option.some.inj (hv.symm.trans hown)
  obtain ⟨t, hst, hchange⟩ := upsert_asks m ht hp hentries
  have hfault := fault?_upsert hs.unique hf
  unfold rewritten
  cases hmissing : s.missing? (fresh r k) with
  | none =>
    have hexecute := makes_execute hchange (hn ▸ hfault)
    rw [changed_upserting hown, upserted_over hm hs hthere hown hmissing] at hexecute
    have hdone := makes_upsert_done hst hexecute (.text k)
    by_cases hx : Engine.sameName "excluded" s.name = true
    · simpa only [if_pos hx] using hdone
    · simpa only [if_neg hx, updated, if_pos (fills_of_fresh hsame hmissing)] using hdone
  | some c =>
    have happly : s.apply m (upserting st.table r) = .error (s.missingFault c) := by
      rw [Sheet.apply, hn, hfault]
      exact (changed_upserting hown _).trans (inserted_missing hmissing _)
    refine makes_upsert_refused hst (ends_refused hchange happly) _ ?_
    by_cases hlacks : lacksUniqueId (.operationFailed "execute" (s.missingFault c)) = true
    · simp only [if_pos hlacks]
      refine makes_checked hm hs.key ht hn hk ?_
      rw [if_pos hthere]
      exact makes_update_there hm hs ht hn hthere hp hf hentries hsame
    · simp only [if_neg hlacks]

theorem rewritten_withId (s : Sheet) (k : String) (r : Record) :
    rewritten s k (r.withId (.text k)) = rewritten s k r := by
  unfold rewritten
  simp only [fresh_withId, updated_withId]

/-- What an update and a write make of a row that is there. Past the names, they differ where
the record leaves out a required column. -/
theorem write_over (hm : m.Exact) (hs : Sound m s) (ht : Plain st.table) (hn : st.table = s.name) (hk : k ≠ "")
    (hthere : s.Has k) (hp : PlainNames r) (hf : s.Fits r) (hne : r.entries ≠ [])
    (hown : ∀ v ∈ r.get? Record.idColumn, v = .text k) :
    Makes m (st.update (.text k) r) s (s.updated k r) ∧
      Makes m (st.write (some (.text k)) r) s (rewritten s k r) := by
  refine ⟨makes_update_there hm hs ht hn hthere hp hf hne hown, makes_write_same hk hown ?_⟩
  have hr : Writable s (r.withId (.text k)) :=
    Writable.withId hs.key ⟨hp, hf, fun v hv => ⟨k, hown v hv⟩⟩ k
  rw [← rewritten_withId]
  exact makes_upsert_there hm hs ht hn hk hthere hr.plain hr.fits (get?_withId hown)

/-- One row, whose name may not be left empty. -/
def items : Sheet where
  name := "items"
  columns := ["id", "name", "note"]
  required := ["name"]
  rows := [fun c => if c = Record.idColumn then .text "k" else if c = "name" then .text "pen" else .null]

def renamed : Record := .ofList [("note", .text "new"), ("name", .text "ink")]

theorem renamed_item_over :
    Makes (.stored noMatch) (Store.update ⟨"items", .inline⟩ (.text "k") renamed) items (items.updated "k" renamed) ∧
      Makes (.stored noMatch) (Store.write ⟨"items", .inline⟩ (some (.text "k")) renamed) items
        (rewritten items "k" renamed) :=
  write_over (exact_stored noMatch) ⟨by decide, rfl, by decide, by decide +kernel⟩
    (show Plain "items" by decide) rfl (by decide) (by decide) (by decide) (by decide) (by decide) (by decide)

/-- A note can be updated by itself, and cannot be written by itself. -/
theorem partial_write_refused :
    Sound (.stored noMatch) items ∧ items.Has "k" ∧ items.Fits newNote ∧ (items.updated "k" newNote).isSome ∧
      Makes (.stored noMatch) (Store.update ⟨"items", .bound⟩ (.text "k") newNote) items
        (items.updated "k" newNote) ∧
      ¬Makes (.stored noMatch) (Store.write ⟨"items", .bound⟩ (some (.text "k")) newNote) items
        (items.updated "k" newNote) := by
  have hsound : Sound (.stored noMatch) items := ⟨by decide, rfl, by decide, by decide +kernel⟩
  have hupdated : (items.updated "k" newNote).isSome = true := by decide
  refine ⟨hsound, by decide, by decide, hupdated, ?_, fun h => ?_⟩
  · exact makes_update_there (exact_stored noMatch) hsound (show Plain "items" by decide) rfl (by decide) (by decide)
      (by decide) (by decide) (by decide)
  · have hwell : endsWell (Program.run (Sheet.handle (.stored noMatch))
        (Store.write ⟨"items", .bound⟩ (some (.text "k")) newNote).run items) = false := by decide +kernel
    rw [h.endsWell, hupdated] at hwell
    cases hwell

end Store
end TableKeeper
