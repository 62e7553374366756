import TableKeeper.Proofs.Sheet.Writing

/-!
  TableKeeper.Proofs.Sheet.Constraints — sheets with required columns, and sheets without a unique key.

  1. Where columns are required, an update of a row is refused exactly when it would empty one
     of them (`updated`, `settled_patched`).
  2. An upsert is judged by the row that it would add, which is empty wherever the record has
     no column, and only then does it look for the row that is there
     (`inserted_missing`, `upserted_over`).
  3. Where nothing makes the key unique, no change of rows is refused, and no clash can be
     caught (`Loose`).
-/

namespace TableKeeper

open Sql

namespace Sheet

variable {m : Meaning} {s : Sheet} {rows : List Tuple} {row new : Tuple} {r : Record} {k : String}

/-! ## Required columns -/

/-- The key is a column and unique, and the rows keep to the constraints. -/
structure Sound (m : Meaning) (s : Sheet) : Prop where
  key : Record.idColumn ∈ s.columns
  unique : s.unique = true
  filled : ∀ row ∈ s.rows, s.missing? row = none
  distinct : Distinct m s.rows

theorem missing?_eq_none : s.missing? row = none ↔ ∀ c ∈ s.required, row c ≠ .null := by
  simp [missing?]

/-- The record empties no required column. -/
def Fills (s : Sheet) (r : Record) : Prop := ∀ c ∈ s.required, r.get? c ≠ some .null

instance (s : Sheet) (r : Record) : Decidable (s.Fills r) := inferInstanceAs (Decidable (∀ c ∈ s.required, _))

/-- The sheet after the row with the key is updated; unset, that would empty a required column. -/
def updated (s : Sheet) (k : String) (r : Record) : Option Sheet :=
  if s.Fills r then some { s with rows := s.patchedRows k r } else none

theorem settled_filled (hfilled : ∀ row ∈ rows, s.missing? row = none) (hrows : Distinct m rows) :
    s.settled m rows = .ok { s with rows } := by
  have hmissing : rows.findSome? s.missing? = none := List.findSome?_eq_none_iff.mpr hfilled
  rw [settled, hmissing]
  exact if_neg fun h => h.2 hrows

theorem settled_missing (hrow : row ∈ rows) (hmissing : s.missing? row ≠ none) :
    ∃ c, s.settled m rows = .error (s.missingFault c) := by
  cases hfind : rows.findSome? s.missing? with
  | none => exact absurd (List.findSome?_eq_none_iff.mp hfind row hrow) hmissing
  | some c =>
    refine ⟨c, ?_⟩
    rw [settled, hfind]

theorem filled_patched (hs : Sound m s) (hr : s.Fills r) : ∀ row ∈ s.patchedRows k r, s.missing? row = none := by
  intro row' hrow'
  obtain ⟨row, hrow, rfl⟩ := List.mem_map.mp hrow'
  have hold := missing?_eq_none.mp (hs.filled row hrow)
  by_cases hkey : row Record.idColumn = .text k
  · rw [if_pos hkey, missing?_eq_none]
    intro c hc hnull
    cases hget : r.get? c with
    | none => exact hold c hc (by simpa [patched, hget] using hnull)
    | some v => exact hr c hc (by simpa [patched, hget] using hnull)
  · rw [if_neg hkey]
    exact hs.filled row hrow

theorem settled_fills (hm : m.Exact) (hs : Sound m s) (hr : s.Fills r)
    (hown : ∀ v ∈ r.get? Record.idColumn, v = .text k) :
    s.settled m (s.patchedRows k r) = .ok { s with rows := s.patchedRows k r } := by
  have hdistinct : Distinct m (s.patchedRows k r) :=
    distinct_patched hm hs.distinct (.inl (target_same hown)) fun v hv => ⟨k, hown v hv⟩
  exact settled_filled (filled_patched hs hr) hdistinct

theorem settled_patched (hm : m.Exact) (hs : Sound m s) (hthere : s.Has k)
    (hown : ∀ v ∈ r.get? Record.idColumn, v = .text k) :
    (s.settled m (s.patchedRows k r)).toOption = s.updated k r := by
  unfold updated
  by_cases hfills : s.Fills r
  · rw [if_pos hfills, settled_fills hm hs hfills hown]
    rfl
  · obtain ⟨row, hrow, hkey⟩ := hthere
    have hmem : patched r row ∈ s.patchedRows k r := List.mem_map.mpr ⟨row, hrow, if_pos hkey⟩
    have hmissing : s.missing? (patched r row) ≠ none := by
      intro hnone
      refine hfills fun c hc hnull => missing?_eq_none.mp hnone c hc ?_
      simp [patched, hnull]
    obtain ⟨c, hrefused⟩ := settled_missing (m := m) hmem hmissing
    rw [if_neg hfills, hrefused]
    rfl

/-- A record whose own row has every required column empties none. -/
theorem fills_of_fresh (hown : ∀ v ∈ r.get? Record.idColumn, v = .text k) (hfull : s.missing? (fresh r k) = none) :
    s.Fills r := by
  intro c hc hnull
  refine missing?_eq_none.mp hfull c hc ?_
  by_cases hid : c = Record.idColumn
  · subst hid
    cases hown _ hnull
  · simp [fresh, hid, hnull]

/-- The key that a write adds to a record makes no difference. -/
theorem updated_withId (s : Sheet) (k : String) (r : Record) : s.updated k (r.withId (.text k)) = s.updated k r := by
  have hfills : s.Fills (r.withId (.text k)) ↔ s.Fills r := by
    unfold Fills Record.withId
    split
    · rfl
    · rename_i hid
      have hnone : r.get? Record.idColumn = none := by simpa [OrderedMap.contains] using hid
      refine forall₂_congr fun c hc => ?_
      rw [OrderedMap.get?_put]
      by_cases hkey : c = Record.idColumn
      · simp [hkey, hnone]
      · rw [if_neg hkey]
  unfold updated
  simp only [hfills, patchedRows_withId]

/-- A new row that leaves a required column empty is refused before it is looked for, whatever
is to become of a clash. -/
theorem inserted_missing {c : String} (h : s.missing? new = some c) (caught : Option Catch) :
    s.inserted m new caught = .error (s.missingFault c) := by
  unfold inserted
  rw [h]

/-- In a sheet of that name a column of `excluded` is the row's own. -/
theorem overtaken_own (hx : Engine.sameName "excluded" s.name = true) (new : Tuple) (columns : List String) :
    s.overtaken m new columns = s.rows := by
  refine (List.map_congr_left fun row _ => ?_).trans (List.map_id _)
  split
  · funext c
    rw [assign, lookup_excluded]
    by_cases hc : c ∈ columns
    · simp [hc, valueOf, hx]
    · simp [hc]
  · rfl

/-- What an upsert makes of a row that is there, once its own row has every required column. -/
theorem upserted_over (hm : m.Exact) (hs : Sound m s) (hthere : s.Has k)
    (hown : r.get? Record.idColumn = some (.text k)) (hfull : s.missing? (fresh r k) = none) :
    s.inserted m (fresh r k) (some (keyClash r)) =
      .ok (if Engine.sameName "excluded" s.name then s else { s with rows := s.patchedRows k r }) := by
  have hkept : s.settled m s.rows = .ok s := settled_filled hs.filled hs.distinct
  have hsame : ∀ v ∈ r.get? Record.idColumn, v = .text k := fun v hv => Option.some.inj (hv.symm.trans hown)
  rw [inserted_clash hm hs.unique (fresh_key r k) hthere hfull hkept]
  by_cases hx : Engine.sameName "excluded" s.name = true
  · rw [if_pos hx, overtaken_own hx, hkept]
  · rw [if_neg hx, overtaken_patched hm (by simpa using hx) hown]
    exact settled_fills hm hs (fills_of_fresh hsame hfull) hsame

/-! ## Keys that may repeat -/

/-- Nothing makes the key unique, and no column is required. -/
structure Loose (s : Sheet) : Prop where
  key : Record.idColumn ∈ s.columns
  repeats : s.unique = false
  free : s.required = []

theorem Loose.settled (hs : Loose s) (m : Meaning) (rows : List Tuple) : s.settled m rows = .ok { s with rows } := by
  have hmissing : rows.findSome? s.missing? = none := by simp [missing?, hs.free]
  rw [Sheet.settled, hmissing]
  simp [hs.repeats]

theorem Loose.inserted (hs : Loose s) (m : Meaning) (new : Tuple) (caught : Option Catch) :
    s.inserted m new caught = .ok { s with rows := s.rows ++ [new] } := by
  have hmissing : s.missing? new = none := by simp [missing?, hs.free]
  unfold Sheet.inserted
  rw [hmissing]
  simp [hs.repeats]

/-- A clash on a key that may repeat cannot be caught. -/
theorem fault?_loose (hs : Loose s) (hr : s.Fits r) :
    s.fault? (upserting s.name r) =
      some "ON CONFLICT clause does not match any PRIMARY KEY or UNIQUE constraint" := by
  have hcatch : s.catchFault? (keyClash r) =
      some "ON CONFLICT clause does not match any PRIMARY KEY or UNIQUE constraint" := by
    simp [catchFault?, hs.repeats]
  simpa [fault?, upserting, OrderedMap.length_names, hcatch, Fits] using hr

end Sheet
end TableKeeper
