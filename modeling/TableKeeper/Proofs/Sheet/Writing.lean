import TableKeeper.Proofs.OrderedMap
import TableKeeper.Proofs.Sheet

/-!
  TableKeeper.Proofs.Sheet.Writing — what a write under a key does to the rows of a sheet.

  1. What a write is to do is said of the rows alone (`written`): the row with the key is
     patched, and takes the record's own key if it has another; where there is none a row is
     added; and a write that would take the key of another row is refused.
  2. On a sheet whose key is unique and whose other columns are free, each statement of a
     write does its part of that (`inserted_*`, `updated_*`, `changed_upsert`), and keys stay
     distinct (`distinct_written`).
-/

namespace TableKeeper

open Sql

namespace Sheet

/-! ## What a write is to do -/

/-- The row with the columns of the record set. -/
def patched (r : Record) (row : Tuple) : Tuple := fun c => (r.get? c).getD (row c)

/-- The row that a record makes under a key. -/
def fresh (r : Record) (key : String) : Tuple :=
  fun c => if c = Record.idColumn then .text key else (r.get? c).getD .null

/-- The key that a row has after a write: the record's own, if it has one. -/
def target (k : String) (r : Record) : String :=
  match r.get? Record.idColumn with
  | some (.text own) => own
  | _ => k

/-- The rows after the row with the key is patched. -/
def patchedRows (s : Sheet) (k : String) (r : Record) : List Tuple :=
  s.rows.map fun row => if row Record.idColumn = .text k then patched r row else row

/-- The sheet after a write; unset, the write is refused. -/
def written (s : Sheet) (k : String) (r : Record) : Option Sheet :=
  if target k r ≠ k ∧ s.Has (target k r) then none
  else if s.Has k then some { s with rows := s.patchedRows k r }
  else some { s with rows := s.rows ++ [fresh r (target k r)] }

/-! ## Rows of records -/

variable {m : Meaning} {s : Sheet} {r : Record} {k own : String}

theorem proposed_record (r : Record) : proposed r.names r.values = fun c => (r.get? c).getD .null := by
  funext c
  rw [proposed, OrderedMap.zip_names_values, OrderedMap.lookup_entries]

theorem assign_record (r : Record) (row : Tuple) : assign id row r.entries = patched r row := by
  funext c
  rw [assign, OrderedMap.lookup_entries, patched]
  cases r.get? c <;> rfl

theorem proposed_keyed (h : r.get? Record.idColumn = some (.text k)) : proposed r.names r.values = fresh r k := by
  rw [proposed_record]
  funext c
  by_cases hc : c = Record.idColumn
  · simp [fresh, hc, h]
  · simp [fresh, hc]

theorem fresh_key (r : Record) (k : String) : fresh r k Record.idColumn = .text k := if_pos rfl

theorem patched_key {row : Tuple} (h : r.get? Record.idColumn = some (.text k)) :
    patched r row Record.idColumn = .text k := by
  rw [patched, h]
  rfl

/-- A record with the key that the row has anyway. -/
theorem patched_withId {row : Tuple} (hrow : row Record.idColumn = .text k) :
    patched (r.withId (.text k)) row = patched r row := by
  unfold Record.withId
  split
  · rfl
  · rename_i hnone
    have hget : r.get? Record.idColumn = none := by simpa [OrderedMap.contains] using hnone
    funext c
    by_cases hc : c = Record.idColumn
    · simp [patched, OrderedMap.get?_put, hc, hget, hrow]
    · simp [patched, OrderedMap.get?_put, hc]

theorem fresh_withId (r : Record) (k : String) : fresh (r.withId (.text k)) k = fresh r k := by
  unfold Record.withId
  split
  · rfl
  · funext c
    by_cases hc : c = Record.idColumn
    · simp [fresh, hc]
    · simp [fresh, OrderedMap.get?_put, hc]

theorem get?_withId (hr : ∀ v ∈ r.get? Record.idColumn, v = .text k) :
    (r.withId (.text k)).get? Record.idColumn = some (.text k) := by
  unfold Record.withId
  split
  · rename_i hsome
    obtain ⟨v, hv⟩ := Option.isSome_iff_exists.mp hsome
    rw [hv, hr v hv]
  · rw [OrderedMap.get?_put, if_pos rfl]

/-! ## What a statement does -/

theorem lookup_excluded (names : List String) (c : String) :
    (names.map fun n => (n, Given.column "excluded" n)).lookup c =
      if c ∈ names then some (.column "excluded" c) else none := by
  induction names with
  | nil => rfl
  | cons n names ih =>
    by_cases hc : c = n
    · simp [hc]
    · have hne : (c == n) = false := by simpa using hc
      simp [List.lookup_cons, hne, hc, ih]

theorem mem_overwritten {c : String} : c ∈ overwritten r.names ↔ c ∈ r.names ∧ c ≠ Record.idColumn := by
  simp [overwritten]

/-- An upsert patches the row that is there. -/
theorem assign_excluded (hx : Engine.sameName "excluded" s.name = false) {row : Tuple}
    (hrow : row Record.idColumn = .text k) (hr : r.get? Record.idColumn = some (.text k)) :
    assign (s.valueOf row (proposed r.names r.values)) row
      ((overwritten r.names).map fun c => (c, .column "excluded" c)) =
      patched r row := by
  funext c
  rw [assign, lookup_excluded, proposed_record, patched]
  by_cases hc : c ∈ overwritten r.names
  · have hmem := (mem_overwritten.mp hc).1
    obtain ⟨v, hv⟩ := Option.ne_none_iff_exists'.mp fun hnone => OrderedMap.get?_eq_none.mp hnone hmem
    simp [hc, valueOf, hx, hv]
  · rw [if_neg hc]
    by_cases hid : c = Record.idColumn
    · simp [hid, hr, hrow]
    · have hnone : r.get? c = none := OrderedMap.get?_eq_none.mpr fun hmem => hc (mem_overwritten.mpr ⟨hmem, hid⟩)
      simp [hnone]

/-- The rows where the one that clashes with a new row takes over columns of it. -/
def overtaken (m : Meaning) (s : Sheet) (new : Tuple) (columns : List String) : List Tuple :=
  s.rows.map fun row =>
    if clash m row new then assign (s.valueOf row new) row (columns.map fun c => (c, .column "excluded" c)) else row

theorem clashes_iff (hm : m.Exact) (hu : s.unique = true) {new : Tuple} (hnew : new Record.idColumn = .text k) :
    (s.unique && s.rows.any fun row => clash m row new) = true ↔ s.Has k := by
  rw [hu, Bool.true_and, List.any_eq_true]
  simp only [clash_iff hm hnew]
  rfl

theorem inserted_free (hm : m.Exact) (hs : Keyed m s) {new : Tuple} (hnew : new Record.idColumn = .text k)
    (hfree : ¬s.Has k) (caught : Option Catch) :
      s.inserted m new caught = .ok { s with rows := s.rows ++ [new] } := by
  have hmissing : s.missing? new = none := by simp [missing?, hs.free]
  unfold inserted
  rw [hmissing]
  exact if_neg fun h => hfree ((clashes_iff hm hs.unique hnew).mp h)

theorem inserted_taken (hm : m.Exact) (hs : Keyed m s) {new : Tuple} (hnew : new Record.idColumn = .text k)
    (htaken : s.Has k) :
    s.inserted m new none = .error s.clashFault := by
  have hmissing : s.missing? new = none := by simp [missing?, hs.free]
  unfold inserted
  rw [hmissing]
  exact if_pos ((clashes_iff hm hs.unique hnew).mpr htaken)

theorem distinct_patched (hm : m.Exact) (hrows : Distinct m s.rows) (h : target k r = k ∨ ¬s.Has (target k r))
    (hr : ∀ v ∈ r.get? Record.idColumn, ∃ own, v = .text own) : Distinct m (s.patchedRows k r) := by
  have hkey : ∀ row : Tuple, row Record.idColumn = .text k → patched r row Record.idColumn = .text (target k r) := by
    intro row hrow
    unfold target
    cases hown : r.get? Record.idColumn with
    | none => simp [patched, hown, hrow]
    | some v =>
      obtain ⟨own, rfl⟩ := hr v hown
      simp [patched, hown]
  rcases h with hsame | hfree
  · refine distinct_map hrows fun row _ => ?_
    by_cases hrow : row Record.idColumn = .text k
    · rw [if_pos hrow, hkey row hrow, hsame, hrow]
    · rw [if_neg hrow]
  · refine distinct_rekeyed k (target k r) hm hrows (fun row _ hrow => ?_) (fun row _ hrow => if_neg hrow)
      fun row hmem hrow => hfree ⟨row, hmem, hrow⟩
    rw [if_pos hrow, hkey row hrow]

/-- A clash that is caught settles the rows that take over. A sheet that keeps to its
constraints stays as it is where no column is taken over. -/
theorem inserted_clash (hm : m.Exact) (hu : s.unique = true) {new : Tuple} (hnew : new Record.idColumn = .text k)
    (hthere : s.Has k) (hfull : s.missing? new = none) (hkept : s.settled m s.rows = .ok s) (r : Record) :
    s.inserted m new (some (keyClash r)) = s.settled m (s.overtaken m new (overwritten r.names)) := by
  unfold inserted
  rw [hfull]
  refine (if_pos ((clashes_iff hm hu hnew).mpr hthere)).trans ?_
  unfold keyClash overwriting
  by_cases hnone : overwritten r.names = []
  · have hrows : s.overtaken m new (overwritten r.names) = s.rows := by
      refine (List.map_congr_left fun row _ => ?_).trans (List.map_id _)
      rw [hnone]
      split <;> rfl
    rw [if_pos hnone, hrows, hkept]
  · rw [if_neg hnone]
    rfl

/-- Taking over the columns of a record patches the row that is there. -/
theorem overtaken_patched (hm : m.Exact) (hx : Engine.sameName "excluded" s.name = false)
    (hr : r.get? Record.idColumn = some (.text k)) :
    s.overtaken m (fresh r k) (overwritten r.names) = s.patchedRows k r := by
  refine List.map_congr_left fun row _ => ?_
  by_cases hrow : row Record.idColumn = .text k
  · rw [if_pos ((clash_iff hm (fresh_key r k)).mpr hrow), if_pos hrow, ← proposed_keyed hr]
    exact assign_excluded hx hrow hr
  · rw [if_neg fun h => hrow ((clash_iff hm (fresh_key r k)).mp h), if_neg hrow]

theorem inserted_over (hm : m.Exact) (hs : Keyed m s) (hx : Engine.sameName "excluded" s.name = false)
    (hr : r.get? Record.idColumn = some (.text k)) (hthere : s.Has k) :
    s.inserted m (fresh r k) (some (keyClash r)) = .ok { s with rows := s.patchedRows k r } := by
  have hfull : s.missing? (fresh r k) = none := by simp [missing?, hs.free]
  have htarget : target k r = k := by simp [target, hr]
  rw [inserted_clash hm hs.unique (fresh_key r k) hthere hfull (settled_free hs.free hs.distinct),
    overtaken_patched hm hx hr]
  refine settled_free hs.free (distinct_patched hm hs.distinct (.inl htarget) fun v hv => ⟨k, ?_⟩)
  exact Option.some.inj (hv.symm.trans hr)

theorem changed_update (hm : m.Exact) (s : Sheet) (table : String) (k : String) (r : Record) :
    s.changed m (.update table r.entries fun row => m.equal (row Record.idColumn) (.text k)) =
      s.settled m (s.patchedRows k r) := by
  have hrows : (s.rows.map fun row =>
      if m.equal (row Record.idColumn) (.text k) = true then assign id row r.entries else row) =
      s.patchedRows k r := by
    refine List.map_congr_left fun row _ => ?_
    by_cases hrow : row Record.idColumn = .text k
    · rw [if_pos ((hm.right _ _).mpr hrow), if_pos hrow, assign_record]
    · rw [if_neg fun h => hrow ((hm.right _ _).mp h), if_neg hrow]
  exact congrArg (s.settled m) hrows

theorem updated_free (hm : m.Exact) (hs : Keyed m s) (hown : r.get? Record.idColumn = some (.text own))
    (hfree : ¬s.Has own) (table : String) :
    s.changed m (.update table r.entries fun row => m.equal (row Record.idColumn) (.text k)) =
      .ok { s with rows := s.patchedRows k r } := by
  have htarget : target k r = own := by simp [target, hown]
  rw [changed_update hm]
  refine settled_free hs.free (distinct_patched hm hs.distinct (.inr (htarget ▸ hfree)) fun v hv => ⟨own, ?_⟩)
  exact Option.some.inj (hv.symm.trans hown)

theorem updated_taken (hm : m.Exact) (hs : Keyed m s) (hown : r.get? Record.idColumn = some (.text own))
    (hne : own ≠ k) (hthere : s.Has k) (htaken : s.Has own) (table : String) :
    s.changed m (.update table r.entries fun row => m.equal (row Record.idColumn) (.text k)) =
      .error s.clashFault := by
  obtain ⟨a, ha, hka⟩ := hthere
  obtain ⟨b, hb, hkb⟩ := htaken
  have hother : b Record.idColumn ≠ .text k := by
    rw [hkb]
    exact fun h => hne (Value.text.inj h)
  have hab : a ≠ b := fun h => hother (h ▸ hka)
  rw [changed_update hm]
  refine settled_clash hs (not_distinct hm ha hb hab (k := own) ?_ ?_)
  · rw [if_pos hka, patched_key hown]
  · rw [if_neg hother, hkb]

theorem changed_upserting (hown : r.get? Record.idColumn = some (.text k)) (table : String) :
    s.changed m (upserting table r) = s.inserted m (fresh r k) (some (keyClash r)) := by
  rw [← proposed_keyed hown]
  rfl

theorem changed_upsert (hm : m.Exact) (hs : Keyed m s) (hx : Engine.sameName "excluded" s.name = false)
    (hown : r.get? Record.idColumn = some (.text k)) (table : String) :
    ∃ after, s.written k r = some after ∧ s.changed m (upserting table r) = .ok after := by
  have htarget : target k r = k := by simp [target, hown]
  unfold written
  rw [htarget, if_neg fun h => h.1 rfl, changed_upserting hown]
  by_cases hthere : s.Has k
  · rw [if_pos hthere]
    exact ⟨_, rfl, inserted_over hm hs hx hown hthere⟩
  · rw [if_neg hthere]
    exact ⟨_, rfl, inserted_free hm hs (fresh_key r k) hthere _⟩

/-! ## The whole of a write -/

theorem target_same (hr : ∀ v ∈ r.get? Record.idColumn, v = .text k) : target k r = k := by
  unfold target
  cases hown : r.get? Record.idColumn with
  | none => rfl
  | some v => rw [hr v hown]

theorem patchedRows_withId : s.patchedRows k (r.withId (.text k)) = s.patchedRows k r := by
  refine List.map_congr_left fun row _ => ?_
  by_cases hrow : row Record.idColumn = .text k
  · rw [if_pos hrow, if_pos hrow, patched_withId hrow]
  · rw [if_neg hrow, if_neg hrow]

/-- The key that a write adds to a record makes no difference. -/
theorem written_withId (hr : ∀ v ∈ r.get? Record.idColumn, v = .text k) :
    s.written k (r.withId (.text k)) = s.written k r := by
  have hown : ∀ v ∈ (r.withId (.text k)).get? Record.idColumn, v = .text k := by
    intro v hv
    rw [get?_withId hr] at hv
    exact (Option.some.inj hv).symm
  unfold written
  rw [target_same hr, target_same hown, fresh_withId, patchedRows_withId]

theorem distinct_written (hm : m.Exact) (hs : Keyed m s) (hr : ∀ v ∈ r.get? Record.idColumn, ∃ own, v = .text own)
    {after : Sheet} (hafter : s.written k r = some after) : Distinct m after.rows := by
  unfold written at hafter
  split at hafter
  · cases hafter
  · rename_i hfree
    have hkey : target k r = k ∨ ¬s.Has (target k r) := by
      by_cases hsame : target k r = k
      · exact .inl hsame
      · exact .inr fun htaken => hfree ⟨hsame, htaken⟩
    split at hafter
    · rw [← Option.some.inj hafter]
      exact distinct_patched hm hs.distinct hkey hr
    · rename_i hnone
      rw [← Option.some.inj hafter]
      have hnew : ∀ row ∈ s.rows, row Record.idColumn ≠ .text (target k r) := by
        intro row hrow htaken
        rcases hkey with hsame | hfree
        · exact hnone ⟨row, hrow, hsame ▸ htaken⟩
        · exact hfree ⟨row, hrow, htaken⟩
      exact distinct_append hm hs.distinct (fresh_key r _) hnew

/-! ## What is wrong with a statement -/

/-- The record's columns are columns of the sheet. -/
def Fits (s : Sheet) (r : Record) : Prop := ∀ n ∈ r.names, n ∈ s.columns

instance (s : Sheet) (r : Record) : Decidable (s.Fits r) := inferInstanceAs (Decidable (∀ n ∈ r.names, n ∈ s.columns))

theorem fault?_insert (hr : s.Fits r) : s.fault? (.insert s.name r.names r.values none) = none := by
  simpa [fault?, OrderedMap.length_names, Fits] using hr

theorem fault?_update (hr : s.Fits r) (keep : Tuple → Bool) : s.fault? (.update s.name r.entries keep) = none := by
  simpa [fault?, Fits, OrderedMap.names] using hr

theorem fault?_upsert (hu : s.unique = true) (hr : s.Fits r) :
    s.fault? (upserting s.name r) = none := by
  have hexcluded : Engine.sameName "excluded" "excluded" = true := by decide
  have hover : ∀ c ∈ overwritten r.names, c ∈ s.columns := fun c hc => hr c (mem_overwritten.mp hc).1
  have hcatch : s.catchFault? (keyClash r) = none := by
    unfold catchFault? keyClash overwriting
    by_cases hnone : overwritten r.names = []
    · simp [hu, hnone]
    · simpa [hu, hnone, knows, hexcluded] using hover
  simpa [fault?, upserting, OrderedMap.length_names, hcatch, Fits] using hr

end Sheet
end TableKeeper
