import TableKeeper.Cursor

/-!
  TableKeeper.Proofs.Cursor — what a cursor gives, pull after pull.

  1. A row is read to the record of its columns, or it fails at the first column that cannot be
     read (`ReadsRow`). That is one item for each row (`readsRow_iff`).
  2. The answers of a statement come to the items of their rows up to the first end or failure,
     and a failure is the last item (`Delivers`). What would follow has no part in it.
  3. Pulls give these items one after another and nothing behind them. They poll the statement
     once more than it has rows ahead, and then leave it alone (`cursor_fused`).
-/

namespace TableKeeper.RowCursor

variable {columns : List String} {cells : List (Except String Value)} {item : RowItem}
  {polls : List Poll} {items : List RowItem}

/-! ## Rows -/

/-- What becomes of a row's cells. Cells without a column are passed over. -/
inductive ReadsRow (columns : List String) : List (Except String Value) → RowItem → Prop
  | read (values : List Value) (behind : List (Except String Value)) :
      values.length = columns.length →
      ReadsRow columns (values.map .ok ++ behind) (.ok (.ofList (columns.zip values)))
  | unreadable (values : List Value) (cause : String) (behind : List (Except String Value)) :
      values.length < columns.length →
      ReadsRow columns (values.map .ok ++ .error cause :: behind) (.error (.operationFailed "read_column" cause))
  /-- There is a column without a cell. -/
  | missing (values : List Value) :
      values.length < columns.length →
      ReadsRow columns (values.map .ok)
        (.error (.operationFailed "read_column" ("Invalid column index: " ++ toString values.length)))

theorem recordFrom_read (i : Nat) (values : List Value) (behind : List (Except String Value)) (r : Record)
    (h : values.length = columns.length) :
    recordFrom i columns (values.map .ok ++ behind) r =
      .ok ((columns.zip values).foldl (fun m e => m.put e.1 e.2) r) := by
  induction columns generalizing i values r with
  | nil =>
    cases values with
    | nil => rfl
    | cons v values => simp at h
  | cons c columns ih =>
    cases values with
    | nil => simp at h
    | cons v values => exact ih (i + 1) values (r.put c v) (by simpa using h)

theorem recordFrom_unreadable (i : Nat) (values : List Value) (cause : String)
    (behind : List (Except String Value)) (r : Record) (h : values.length < columns.length) :
    recordFrom i columns (values.map .ok ++ .error cause :: behind) r =
      .error (.operationFailed "read_column" cause) := by
  induction columns generalizing i values r with
  | nil => simp at h
  | cons c columns ih =>
    cases values with
    | nil => rfl
    | cons v values => exact ih (i + 1) values (r.put c v) (by simpa using h)

theorem recordFrom_missing (i : Nat) (values : List Value) (r : Record) (h : values.length < columns.length) :
    recordFrom i columns (values.map .ok) r =
      .error (.operationFailed "read_column" ("Invalid column index: " ++ toString (i + values.length))) := by
  induction columns generalizing i values r with
  | nil => simp at h
  | cons c columns ih =>
    cases values with
    | nil => rfl
    | cons v values =>
      have hindex : i + (v :: values).length = i + 1 + values.length := by simp only [List.length_cons]; omega
      rw [hindex]
      exact ih (i + 1) values (r.put c v) (by simpa using h)

/-- The first `n` cells can all be read, or there is a first one that cannot, or they run out. -/
theorem cells_cases (n : Nat) (cells : List (Except String Value)) :
    (∃ (values : List Value) (behind : List (Except String Value)),
        values.length = n ∧ cells = values.map .ok ++ behind) ∨
      (∃ (values : List Value) (cause : String) (behind : List (Except String Value)),
        values.length < n ∧ cells = values.map .ok ++ .error cause :: behind) ∨
      ∃ values : List Value, values.length < n ∧ cells = values.map .ok := by
  induction n generalizing cells with
  | zero => exact .inl ⟨[], cells, rfl, rfl⟩
  | succ n ih =>
    cases cells with
    | nil => exact .inr (.inr ⟨[], Nat.succ_pos n, rfl⟩)
    | cons cell cells =>
      cases cell with
      | error cause => exact .inr (.inl ⟨[], cause, cells, Nat.succ_pos n, rfl⟩)
      | ok v =>
        rcases ih cells with ⟨values, behind, hlength, rfl⟩ | ⟨values, cause, behind, hlength, rfl⟩ |
          ⟨values, hlength, rfl⟩
        · exact .inl ⟨v :: values, behind, by simp [hlength], rfl⟩
        · exact .inr (.inl ⟨v :: values, cause, behind, by simpa using hlength, rfl⟩)
        · exact .inr (.inr ⟨v :: values, by simpa using hlength, rfl⟩)

theorem readsRow_recordOf (columns : List String) (cells : List (Except String Value)) :
    ReadsRow columns cells (recordOf columns cells .empty) := by
  unfold recordOf
  rcases cells_cases columns.length cells with ⟨values, behind, h, rfl⟩ | ⟨values, cause, behind, h, rfl⟩ |
    ⟨values, h, rfl⟩
  · rw [recordFrom_read 0 values behind .empty h]
    exact .read values behind h
  · rw [recordFrom_unreadable 0 values cause behind .empty h]
    exact .unreadable values cause behind h
  · rw [recordFrom_missing 0 values .empty h, Nat.zero_add]
    exact .missing values h

/-- A row is read to one item. -/
theorem readsRow_iff : ReadsRow columns cells item ↔ recordOf columns cells .empty = item := by
  constructor
  · intro h
    cases h with
    | read values behind h => exact recordFrom_read 0 values behind .empty h
    | unreadable values cause behind h => exact recordFrom_unreadable 0 values cause behind .empty h
    | missing values h =>
      have hmissing := recordFrom_missing 0 values .empty h
      rwa [Nat.zero_add] at hmissing
  · rintro rfl
    exact readsRow_recordOf columns cells

/-! ## Answers -/

/-- What the answers of a statement come to, from the first one on. -/
inductive Delivers (columns : List String) : List Poll → List RowItem → Prop
  /-- A statement with no more answers is finished. -/
  | exhausted : Delivers columns [] []
  | finished (behind : List Poll) : Delivers columns (.finished :: behind) []
  | failed (cause : String) (behind : List Poll) :
      Delivers columns (.failed cause :: behind) [.error (.operationFailed "read_row" cause)]
  | row {cells : List (Except String Value)} {item : RowItem} {polls : List Poll} {items : List RowItem} :
      ReadsRow columns cells item → Delivers columns polls items →
      Delivers columns (.row cells :: polls) (item :: items)

theorem items_row (cells : List (Except String Value)) (polls : List Poll) (columns : List String) :
    (RowCursor.mk (.row cells :: polls) columns false).items =
      recordOf columns cells .empty :: (RowCursor.mk polls columns false).items := rfl

/-- The answers come to one sequence of items, the one that a cursor hands over. -/
theorem delivers_iff : Delivers columns polls items ↔ (RowCursor.mk polls columns false).items = items := by
  constructor
  · intro h
    induction h with
    | exhausted => rfl
    | finished behind => rfl
    | failed cause behind => rfl
    | row hrow _ ih => rw [items_row, readsRow_iff.mp hrow, ih]
  · rintro rfl
    induction polls with
    | nil => exact .exhausted
    | cons poll polls ih =>
      cases poll with
      | row cells => exact .row (readsRow_recordOf columns cells) ih
      | finished => exact .finished polls
      | failed cause => exact .failed cause polls

/-! ## Pulls -/

/-- What `n` pulls give one after another, and the cursor behind them. -/
def calls : Nat → RowCursor → List (Option RowItem) × RowCursor
  | 0, c => ([], c)
  | n + 1, c => (c.next.1 :: (calls n c.next.2).1, (calls n c.next.2).2)

/-- A cursor that is done gives nothing and stays as it is, whatever its statement would still
answer. -/
theorem calls_done (n : Nat) (polls : List Poll) (columns : List String) :
    calls n ⟨polls, columns, true⟩ = ((List.range n).map fun _ => none, ⟨polls, columns, true⟩) := by
  induction n with
  | zero => rfl
  | succ n ih =>
    have hnext : (RowCursor.mk polls columns true).next = (none, ⟨polls, columns, true⟩) := rfl
    rw [calls, hnext, ih, List.range_succ_eq_map, List.map_cons, List.map_map]
    rfl

/-- A cursor that is done after its first pull. -/
theorem calls_last (n : Nat) {polls behind : List Poll} {columns : List String}
    (hitems : (RowCursor.mk polls columns false).items.length ≤ 1)
    (hnext : (RowCursor.mk polls columns false).next =
      ((RowCursor.mk polls columns false).items[0]?, ⟨behind, columns, true⟩)) :
    calls (n + 1) ⟨polls, columns, false⟩ =
      ((List.range (n + 1)).map ((RowCursor.mk polls columns false).items[·]?), ⟨behind, columns, true⟩) := by
  have hrest : ∀ i, (RowCursor.mk polls columns false).items[i + 1]? = none := fun i =>
    List.getElem?_eq_none (by omega)
  rw [calls, hnext, calls_done, List.range_succ_eq_map, List.map_cons, List.map_map]
  simp only [Function.comp_def, Nat.succ_eq_add_one, hrest]

/-- The rows that a statement has ahead, before its first end or failure. -/
def rowsAhead : List Poll → Nat
  | .row _ :: polls => rowsAhead polls + 1
  | _ => 0

/-- One pull after another gives the items of a cursor and nothing behind them. The statement is
polled once more than it has rows ahead, after which the cursor is done. -/
theorem calls_eq (n : Nat) (polls : List Poll) (columns : List String) :
    calls n ⟨polls, columns, false⟩ =
      ((List.range n).map ((RowCursor.mk polls columns false).items[·]?),
        ⟨polls.drop (min n (rowsAhead polls + 1)), columns, decide (rowsAhead polls < n)⟩) := by
  induction n generalizing polls with
  | zero => simp [calls]
  | succ n ih =>
    cases polls with
    | nil =>
      have hitems : (RowCursor.mk [] columns false).items.length ≤ 1 := Nat.zero_le 1
      rw [calls_last n hitems rfl]
      simp [rowsAhead]
    | cons poll polls =>
      cases poll with
      | finished =>
        have hitems : (RowCursor.mk (.finished :: polls) columns false).items.length ≤ 1 := Nat.zero_le 1
        rw [calls_last n hitems rfl]
        simp [rowsAhead]
      | failed cause =>
        have hitems : (RowCursor.mk (.failed cause :: polls) columns false).items.length ≤ 1 := Nat.le_refl 1
        rw [calls_last n hitems rfl]
        simp [rowsAhead]
      | row cells =>
        have hnext : (RowCursor.mk (.row cells :: polls) columns false).next =
            (some (recordOf columns cells .empty), ⟨polls, columns, false⟩) := rfl
        have hpolls : min (n + 1) (rowsAhead polls + 1 + 1) = min n (rowsAhead polls + 1) + 1 := by omega
        rw [calls, hnext, ih, items_row, rowsAhead, hpolls, List.drop_succ_cons, List.range_succ_eq_map,
          List.map_cons, List.map_map]
        simp [Function.comp_def]

/-- Whatever a statement answers, before or after its end, its cursor hands over one item for
each row up to the first end or failure and that failure as the last; then it gives nothing at
every pull, and the statement is not polled again. -/
theorem cursor_fused (polls : List Poll) (columns : List String) (n : Nat) :
    let c : RowCursor := { polls, columns }
    Delivers columns polls c.items ∧ (calls n c).1 = (List.range n).map (c.items[·]?) ∧
      (calls n c).2 = ⟨polls.drop (min n (rowsAhead polls + 1)), columns, decide (rowsAhead polls < n)⟩ := by
  intro c
  have hcalls := calls_eq n polls columns
  exact ⟨delivers_iff.mpr rfl, congrArg Prod.fst hcalls, congrArg Prod.snd hcalls⟩

/-- A cell that cannot be read costs one row, and a row behind the end is never seen. -/
example :
    (calls 4 ⟨[.row [.error "lost"], .row [.ok .null], .finished, .row [.ok .null]], ["note"], false⟩).1 =
      [some (.error (.operationFailed "read_column" "lost")), some (.ok (.ofList [("note", .null)])), none, none] := by
  rfl

end TableKeeper.RowCursor
