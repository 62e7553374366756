import TableKeeper.Reader

/-!
  TableKeeper.Proofs.Reader — what some items come to when they are read.

  1. Collecting items gives all their rows, or the first error among them (`Collects`). That is
     one outcome, and a reader that drains them gets it (`collects_iff`).
  2. The first items of a sequence collect to its first rows (`Collects.take`), or to an error
     that ends the whole of it too (`Collects.of_take`).
  3. A reader of the first items collects just these and pulls no more (`run_atMost`,
     `run_first`).
-/

namespace TableKeeper

/-- All rows of the items, or the first error among them. -/
inductive Collects : List RowItem → Except Error (List Record) → Prop
  | rows (rows : List Record) : Collects (rows.map .ok) (.ok rows)
  | fails (before : List Record) (e : Error) (behind : List RowItem) :
      Collects (before.map .ok ++ .error e :: behind) (.error e)

variable {items : List RowItem} {rows : List Record} {e : Error} {r : Except Error (List Record)}

theorem Collects.cons (h : Collects items r) (row : Record) : Collects (.ok row :: items) (r.map (row :: ·)) := by
  cases h with
  | rows rows => exact .rows (row :: rows)
  | fails before e behind => exact .fails (row :: before) e behind

theorem collects_drained (items : List RowItem) : Collects items (Reader.drained items).1 := by
  induction items with
  | nil => exact .rows []
  | cons item items ih =>
    cases item with
    | error e => exact .fails [] e items
    | ok row => exact ih.cons row

/-- There is one outcome, which draining the items finds. -/
theorem collects_iff : Collects items r ↔ (Reader.drained items).1 = r := by
  constructor
  · intro h
    cases h with
    | rows rows =>
      induction rows with
      | nil => rfl
      | cons row rows ih => simp only [List.map_cons, Reader.drained, ih, Except.map]
    | fails before e behind =>
      induction before with
      | nil => rfl
      | cons row before ih => simp only [List.map_cons, List.cons_append, Reader.drained, ih, Except.map]
  · rintro rfl
    exact collects_drained items

theorem Collects.take (h : Collects items (.ok rows)) (n : Nat) : Collects (items.take n) (.ok (rows.take n)) := by
  cases h with
  | rows _ =>
    rw [← List.map_take]
    exact .rows (rows.take n)

/-- An error among the first items is the first one among all. -/
theorem Collects.of_take {n : Nat} (h : Collects (items.take n) (.error e)) : Collects items (.error e) := by
  generalize hfront : items.take n = front at h
  cases h with
  | fails before e behind =>
    have hwhole : items = before.map .ok ++ .error e :: (behind ++ items.drop n) := by
      rw [← List.cons_append, ← List.append_assoc, ← hfront, List.take_append_drop]
    rw [hwhole]
    exact .fails before e _

/-! ## Readers of the first items -/

namespace Reader

theorem taken_drained_le (items : List RowItem) : (drained items).2 ≤ items.length := by
  induction items with
  | nil => exact Nat.le_refl 0
  | cons item items ih =>
    cases item with
    | error e => exact Nat.succ_le_succ (Nat.zero_le _)
    | ok row => exact Nat.succ_le_succ ih

theorem run_upTo (n : Nat) (seen : List Record) (items : List RowItem) :
    (upTo (fun rows => done (.ok rows)) n seen).run items =
      ⟨some ((drained (items.take n)).1.map (seen ++ ·)), (drained (items.take n)).2⟩ := by
  induction n generalizing seen items with
  | zero => simp [upTo, run, drained, Except.map]
  | succ n ih =>
    cases items with
    | nil => simp [upTo, run, drained, Except.map]
    | cons item items =>
      cases item with
      | error e => rfl
      | ok row =>
        simp only [upTo, run, ih, List.take_succ_cons, drained]
        cases (drained (items.take n)).1 with
        | error e => rfl
        | ok rows => simp [Except.map]

theorem run_atMost (n : Nat) (items : List RowItem) :
    (atMost n).run items = ⟨some (drained (items.take n)).1, (drained (items.take n)).2⟩ := by
  have hall : (drained (items.take n)).1.map ([] ++ ·) = (drained (items.take n)).1 := by
    cases (drained (items.take n)).1 <;> rfl
  rw [atMost, run_upTo, hall]

theorem run_first (items : List RowItem) :
    first.run items = ⟨some ((drained (items.take 1)).1.map List.head?), (drained (items.take 1)).2⟩ := by
  rcases items with - | ⟨e | row, items⟩ <;> rfl

end Reader
end TableKeeper
