import Mathlib.Data.List.Pairwise
import TableKeeper.Program
import TableKeeper.Proofs.Engine.Comparing
import TableKeeper.Proofs.Sql.Changes

/-!
  TableKeeper.Proofs.Sheet — one table that runs the statements of a store.

  1. A sheet has columns, rows in an order, and constraints: its key may be unique, and some
     columns may take no NULL. What `=` and LIKE say of values is left open.
  2. It runs the text of a statement. What is wrong with a statement whatever the rows are
     comes first (`fault?`). A change that a constraint forbids is refused, and a statement
     that fails leaves the sheet as it is (`handle`).
  3. A column that an INSERT does not name is NULL. Behind ON CONFLICT a column of `excluded`
     is one of the new row, unless the sheet itself has that name (`valueOf`).
-/

namespace TableKeeper

open Sql Engine

structure Sheet where
  name : String
  columns : List String
  /-- No two rows have the same key. -/
  unique : Bool := true
  /-- The columns that take no NULL. -/
  required : List String := []
  rows : List Tuple

namespace Sheet

variable (m : Meaning) (s : Sheet)

/-- The rows have the same key. -/
def clash (a b : Tuple) : Bool := m.equal (a Record.idColumn) (b Record.idColumn)

def Distinct (rows : List Tuple) : Prop := rows.Pairwise fun a b => clash m a b = false

instance (rows : List Tuple) : Decidable (Distinct m rows) :=
  inferInstanceAs (Decidable (rows.Pairwise fun a b => clash m a b = false))

/-! ## Changes -/

/-- The new row of an INSERT. -/
def proposed (columns : List String) (values : List Value) : Tuple :=
  fun c => ((columns.zip values).lookup c).getD .null

/-- What a column is set to where a new row was refused. -/
def valueOf (old new : Tuple) : Given → Value
  | .value v => v
  | .column table c => if sameName table s.name then old c else new c

/-- The row with some of its columns set. -/
def assign {α : Type} (value : α → Value) (row : Tuple) (as : List (String × α)) : Tuple := fun c =>
  match as.lookup c with
  | some a => value a
  | none => row c

/-- The sheet has what a column is set to. -/
def knows : Given → Bool
  | .value _ => true
  | .column table c => (sameName table s.name || sameName table "excluded") && s.columns.contains c

/-- What is wrong with catching a clash. -/
def catchFault? (c : Catch) : Option String :=
  if !s.unique || c.columns != [Record.idColumn] then
    some "ON CONFLICT clause does not match any PRIMARY KEY or UNIQUE constraint"
  else if (c.overwrite.getD []).all fun a => s.columns.contains a.1 && s.knows a.2 then none
  else some "no such column"

/-- What is wrong with a change, whatever the rows are. -/
def fault? : Change → Option String
  | .insert table columns values caught =>
    if table ≠ s.name then some ("no such table: " ++ table)
    else if !columns.all s.columns.contains then some "no such column"
    else if columns.length ≠ values.length then some "values do not go with columns"
    else caught.bind s.catchFault?
  | .update table as _ =>
    if table ≠ s.name then some ("no such table: " ++ table)
    else if !as.all fun a => s.columns.contains a.1 then some "no such column"
    else none

/-- The first required column that a row leaves empty. -/
def missing? (row : Tuple) : Option String := s.required.find? fun c => row c = .null

def missingFault (column : String) : String := "NOT NULL constraint failed: " ++ s.name ++ "." ++ column

def clashFault : String := "UNIQUE constraint failed: " ++ s.name ++ "." ++ Record.idColumn

/-- The sheet with other rows, unless a constraint forbids them. -/
def settled (rows : List Tuple) : Except String Sheet :=
  match rows.findSome? s.missing? with
  | some c => .error (s.missingFault c)
  | none => if s.unique = true ∧ ¬Distinct m rows then .error s.clashFault else .ok { s with rows }

/-- A new row. It must be filled before it may clash. -/
def inserted (new : Tuple) (caught : Option Catch) : Except String Sheet :=
  match s.missing? new with
  | some c => .error (s.missingFault c)
  | none =>
    if s.unique && s.rows.any fun row => clash m row new then
      match caught with
      | none => .error s.clashFault
      | some ⟨_, none⟩ => .ok s
      | some ⟨_, some as⟩ =>
        s.settled m (s.rows.map fun row => if clash m row new then assign (s.valueOf row new) row as else row)
    else .ok { s with rows := s.rows ++ [new] }

def changed : Change → Except String Sheet
  | .insert _ columns values caught => s.inserted m (proposed columns values) caught
  | .update _ as keep => s.settled m (s.rows.map fun row => if keep row then assign id row as else row)

def apply (c : Change) : Except String Sheet :=
  match s.fault? c with
  | some f => .error f
  | none => s.changed m c

/-! ## Queries -/

def record (columns : List String) (row : Tuple) : Record := .ofList (columns.map fun c => (c, row c))

/-- The rows that a query asks for, in the order of the sheet; any other order is refused. -/
def answer (q : Query) : Except String (List Record) :=
  let shown := match q.projection with
    | .all => s.columns
    | .columns names => names
  if q.table ≠ s.name then .error ("no such table: " ++ q.table)
  else if !shown.all s.columns.contains then .error "no such column"
  else if !q.order.isEmpty then .error "rows have no order but their own"
  else
    let rest := (s.rows.filter q.keep).drop q.skip
    .ok ((match q.bound with | none => rest | some n => rest.take n).map (record shown))

/-- The rows that a filter names once the binding has handed its lists over. -/
def named (b : ListBinding) (f : Filter) : List Tuple := s.rows.filter (accepts m b f.entries)

/-! ## Statements -/

/-- Runs the text of statements. Rows have no numbers, and no count is kept. -/
def handle : Handle Sheet where
  execute s st :=
    match st.change? m with
    | none => ⟨.error (.operationFailed "execute" "the statement is no change"), s, []⟩
    | some c =>
      match s.apply m c with
      | .ok after => ⟨.ok {}, after, []⟩
      | .error cause => ⟨.error (.operationFailed "execute" cause), s, []⟩
  query s st :=
    match st.query? m with
    | none => ⟨.error (.operationFailed "query" "the statement is no query"), s, []⟩
    | some q =>
      match s.answer q with
      | .ok rows => ⟨.ok (rows.map .ok), s, []⟩
      | .error cause => ⟨.error (.operationFailed "query" cause), s, []⟩
  release := id
  unwind := id

end Sheet

/-! ## Keys -/

/-- A text equals itself and nothing else. -/
structure Meaning.Exact (m : Meaning) : Prop where
  left : ∀ (s : String) (v : Value), m.equal (.text s) v = true ↔ v = .text s
  right : ∀ (v : Value) (s : String), m.equal v (.text s) = true ↔ v = .text s

/-- `=` of values as they are stored, texts by their characters. -/
def Meaning.stored (like : Value → Value → Bool) : Meaning := ⟨sameValue .binary, like⟩

theorem exact_stored (like : Value → Value → Bool) : (Meaning.stored like).Exact := ⟨sameValue_left, sameValue_right⟩

namespace Sheet

variable {m : Meaning} {s : Sheet} {rows : List Tuple} {k : String}

/-- Some row has the key. -/
def Has (s : Sheet) (k : String) : Prop := ∃ row ∈ s.rows, row Record.idColumn = .text k

instance : Decidable (s.Has k) := inferInstanceAs (Decidable (∃ row ∈ s.rows, _))

theorem clash_iff (hm : m.Exact) {row new : Tuple} (hnew : new Record.idColumn = .text k) :
    clash m row new = true ↔ row Record.idColumn = .text k := by
  rw [clash, hnew]
  exact hm.right _ _

/-- No other row has the key of a row. -/
theorem Distinct.ne (hm : m.Exact) {row row' : Tuple} (h : clash m row row' = false)
    (hrow : row Record.idColumn = .text k) :
    row' Record.idColumn ≠ .text k := by
  intro hrow'
  rw [clash, hrow, hrow', (hm.left k (.text k)).mpr rfl] at h
  cases h

theorem distinct_append (hm : m.Exact) (hrows : Distinct m rows) {new : Tuple} (hnew : new Record.idColumn = .text k)
    (hfree : ∀ row ∈ rows, row Record.idColumn ≠ .text k) : Distinct m (rows ++ [new]) := by
  refine List.pairwise_append.mpr ⟨hrows, List.pairwise_singleton _ _, fun row hrow row' hrow' => ?_⟩
  rw [List.mem_singleton.mp hrow']
  exact Bool.eq_false_iff.mpr fun h => hfree row hrow ((clash_iff hm hnew).mp h)

theorem distinct_map (hrows : Distinct m rows) {f : Tuple → Tuple}
    (hf : ∀ row ∈ rows, f row Record.idColumn = row Record.idColumn) : Distinct m (rows.map f) := by
  refine List.pairwise_map.mpr (List.Pairwise.imp_of_mem (fun ha hb h => ?_) hrows)
  rwa [clash, hf _ ha, hf _ hb]

/-- Rows whose keys become another key are distinct when no row has that key. -/
theorem distinct_rekeyed (k own : String) (hm : m.Exact) (hrows : Distinct m rows) {f : Tuple → Tuple}
    (hkeyed : ∀ row ∈ rows, row Record.idColumn = .text k → f row Record.idColumn = .text own)
    (hother : ∀ row ∈ rows, row Record.idColumn ≠ .text k → f row = row)
    (hfree : ∀ row ∈ rows, row Record.idColumn ≠ .text own) : Distinct m (rows.map f) := by
  refine List.pairwise_map.mpr (List.Pairwise.imp_of_mem (fun {a b} ha hb h => ?_) hrows)
  by_cases hka : a Record.idColumn = .text k
  · rw [hother b hb (Distinct.ne hm h hka), clash, hkeyed a ha hka]
    exact Bool.eq_false_iff.mpr fun he => hfree b hb ((hm.left _ _).mp he)
  · rw [hother a ha hka]
    by_cases hkb : b Record.idColumn = .text k
    · rw [clash, hkeyed b hb hkb]
      exact Bool.eq_false_iff.mpr fun he => hfree a ha ((hm.right _ _).mp he)
    · rwa [hother b hb hkb]

/-- Two rows with one key are not distinct, wherever they stand. -/
theorem not_distinct (hm : m.Exact) {f : Tuple → Tuple} {a b : Tuple} (ha : a ∈ rows) (hb : b ∈ rows) (hne : a ≠ b)
    (hfa : f a Record.idColumn = .text k) (hfb : f b Record.idColumn = .text k) : ¬Distinct m (rows.map f) := by
  intro h
  have hsame : ∀ {x y : Tuple}, f x Record.idColumn = .text k → f y Record.idColumn = .text k →
      clash m (f x) (f y) = true :=
    fun hx hy => (clash_iff hm hy).mpr hx
  have hboth : rows.Pairwise fun x y => clash m (f x) (f y) = false ∨ clash m (f y) (f x) = false :=
    (List.pairwise_map.mp h).imp Or.inl
  have : Std.Symm fun x y => clash m (f x) (f y) = false ∨ clash m (f y) (f x) = false := ⟨fun _ _ => Or.symm⟩
  rcases hboth.forall ha hb hne with h | h
  · rw [hsame hfa hfb] at h
    cases h
  · rw [hsame hfb hfa] at h
    cases h

/-! ## A sheet with a key and nothing else -/

/-- The key is unique, and the other columns are free. -/
structure Keyed (m : Meaning) (s : Sheet) : Prop where
  key : Record.idColumn ∈ s.columns
  unique : s.unique = true
  free : s.required = []
  distinct : Distinct m s.rows

theorem settled_free (hfree : s.required = []) (hrows : Distinct m rows) :
    s.settled m rows = .ok { s with rows } := by
  have hmissing : rows.findSome? s.missing? = none := by simp [missing?, hfree]
  rw [settled, hmissing]
  simp [hrows]

theorem settled_clash (hs : Keyed m s) (hrows : ¬Distinct m rows) : s.settled m rows = .error s.clashFault := by
  have hmissing : rows.findSome? s.missing? = none := by simp [missing?, hs.free]
  rw [settled, hmissing]
  simp [hs.unique, hrows]

end Sheet
end TableKeeper
