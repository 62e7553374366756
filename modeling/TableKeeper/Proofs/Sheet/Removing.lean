import TableKeeper.Proofs.Sheet
import TableKeeper.Proofs.Sql.Scopes

/-!
  TableKeeper.Proofs.Sheet.Removing — the rows that a filter names, counted and removed.

  1. The rows that a filter does not name are what is left without the others (`without`).
  2. `keeper` runs what `handle` does, and counts and removes rows besides. The columns of a
     filter are taken to be the sheet's.
  3. Whatever statement it runs, keys that are distinct stay so (`keyed_execute`).
-/

namespace TableKeeper

open Sql

namespace Sheet

variable (m : Meaning) (s : Sheet) (b : ListBinding) (f : Filter)

/-- The sheet without the rows that a filter names. -/
def without : Sheet := { s with rows := s.rows.filter fun row => !accepts m b f.entries row }

theorem named_without : (s.without m b f).named m b f = [] := by
  rw [named, List.filter_eq_nil_iff]
  intro row hrow
  have hkept := (List.mem_filter.mp hrow).2
  simpa using hkept

theorem without_of_named (h : s.named m b f = []) : s.without m b f = s := by
  have hrows : (s.rows.filter fun row => !accepts m b f.entries row) = s.rows := by
    rw [List.filter_eq_self]
    intro row hrow
    simpa using List.filter_eq_nil_iff.mp h row hrow
  rw [without, hrows]

/-- No row is one of no keys. -/
theorem named_no_keys : s.named m b (Identifier.keys []).toFilter = [] := by
  rw [named, List.filter_eq_nil_iff]
  intro row hrow
  cases b <;> exact Bool.false_ne_true

/-! ## Statements -/

/-- The one row of a count, which has one column. -/
def tally (count : Nat) : Record := .ofList [("count(*)", .integer (.ofInt count))]

def noTable (operation table : String) : Error := .operationFailed operation ("no such table: " ++ table)

/-- Runs the statements of a sheet, and those that count rows or remove them. -/
def keeper : Handle Sheet where
  execute s st :=
    match st.removed? m with
    | none => (handle m).execute s st
    | some d =>
      if d.table ≠ s.name then ⟨.error (noTable "execute" d.table), s, []⟩
      else
        ⟨.ok { rowsAffected := (s.rows.filter d.keep).length },
          { s with rows := s.rows.filter fun row => !d.keep row }, []⟩
  query s st :=
    match st.counted? m with
    | none => (handle m).query s st
    | some c =>
      if c.table ≠ s.name then ⟨.error (noTable "query" c.table), s, []⟩
      else ⟨.ok [.ok (tally (s.rows.filter c.keep).length)], s, []⟩
  release := id
  unwind := id

/-! ## Whatever the statement -/

variable {m s} {after : Sheet} {rows : List Tuple} {t : Statement}

/-- The sheet is the other with other rows, in which keys are still distinct. -/
structure KeyedLike (m : Meaning) (s after : Sheet) : Prop where
  keyed : Keyed m after
  columns : after.columns = s.columns
  name : after.name = s.name

theorem KeyedLike.refl (hs : Keyed m s) : KeyedLike m s s := ⟨hs, rfl, rfl⟩

theorem KeyedLike.trans {next : Sheet} (h : KeyedLike m s after) (hn : KeyedLike m after next) : KeyedLike m s next :=
  ⟨hn.keyed, hn.columns.trans h.columns, hn.name.trans h.name⟩

theorem KeyedLike.of_rows (hs : Keyed m s) (hrows : Distinct m rows) : KeyedLike m s { s with rows } :=
  ⟨⟨hs.key, hs.unique, hs.free, hrows⟩, rfl, rfl⟩

theorem keyed_settled (hs : Keyed m s) (h : s.settled m rows = .ok after) : KeyedLike m s after := by
  by_cases hrows : Distinct m rows
  · rw [settled_free hs.free hrows] at h
    cases h
    exact .of_rows hs hrows
  · rw [settled_clash hs hrows] at h
    cases h

theorem keyed_inserted {new : Tuple} {caught : Option Catch} (hs : Keyed m s)
    (h : s.inserted m new caught = .ok after) : KeyedLike m s after := by
  have hmissing : s.missing? new = none := by simp [missing?, hs.free]
  have hunique : (s.unique && s.rows.any fun row => clash m row new) = s.rows.any fun row => clash m row new := by
    rw [hs.unique, Bool.true_and]
  unfold inserted at h
  rw [hmissing, hunique] at h
  by_cases hclash : (s.rows.any fun row => clash m row new) = true
  · simp only [hclash, if_true] at h
    split at h
    · cases h
    · cases h
      exact .refl hs
    · exact keyed_settled hs h
  · simp only [hclash] at h
    cases h
    refine .of_rows hs (List.pairwise_append.mpr ⟨hs.distinct, List.pairwise_singleton _ _, fun row hrow new' hnew => ?_⟩)
    rw [List.mem_singleton.mp hnew]
    simpa using List.any_eq_false.mp (Bool.not_eq_true _ ▸ hclash) row hrow

theorem keyed_apply {c : Change} (hs : Keyed m s) (h : s.apply m c = .ok after) : KeyedLike m s after := by
  unfold apply at h
  split at h
  · cases h
  · cases c with
    | insert table columns values caught => exact keyed_inserted hs h
    | update table as keep => exact keyed_settled hs h

theorem keyed_execute (hs : Keyed m s) (t : Statement) : KeyedLike m s ((keeper m).execute s t).state := by
  have hhandle : KeyedLike m s ((handle m).execute s t).state := by
    simp only [handle]
    split
    · exact .refl hs
    · split
      next hafter => exact keyed_apply hs hafter
      · exact .refl hs
  simp only [keeper]
  split
  · exact hhandle
  · split
    · exact .refl hs
    · exact .of_rows hs (hs.distinct.filter _)

theorem query_keeper (s : Sheet) (t : Statement) : ((keeper m).query s t).state = s := by
  have hhandle : ((handle m).query s t).state = s := by
    simp only [handle]
    split
    · rfl
    · split <;> rfl
  simp only [keeper]
  split
  · exact hhandle
  · split <;> rfl

/-- Where no constraint stands in the way, a change is done. -/
theorem execute_keeper {c : Change} (ht : t.change? m = some c) (hc : s.apply m c = .ok after) :
    (keeper m).execute s t = ⟨.ok {}, after, []⟩ := by
  simp [keeper, handle, Statement.removed?_of_change? ht, ht, hc]

end Sheet
end TableKeeper
