import TableKeeper.Proofs.Sheet.Removing
import TableKeeper.Proofs.Store.Reading

/-!
  TableKeeper.Proofs.Store.Agreement — the operations of a store agree on the rows that are meant.

  1. Listing, looking, reading and counting come to the same rows (`Agrees`), though each
     sends a statement of its own. Options make no difference to a count.
  2. Removing takes these rows and no other, and then they all agree that there is none
     (`operations_agree`).
  3. What an identifier means is said by the filter that it stands for, the items of its lists
     being themselves. Nothing is said of numbers in a list that is written out (`Unnumbered`).

  A name with back-ticks names another table, a number that is written out need not be found any
  more, and more rows than the largest integer are not counted (`agreement_fails`).
-/

namespace TableKeeper

open Sql

namespace Store

open Sheet

variable {m : Meaning} {s : Sheet} {st : Store} {i : Identifier} {f : Filter}

/-- The operations that read agree that the identifier names these rows. -/
structure Agrees (h : Handle Sheet) (st : Store) (s : Sheet) (i : Identifier) (rows : List Tuple) : Prop where
  listed : (st.list i.toFilter {}).Ends h s (.ok (rows.map (record s.columns))) s
  found : (st.exists? i).Ends h s (.ok (!rows.isEmpty)) s
  first : (st.read i).Ends h s (.ok (rows.map (record s.columns)).head?) s
  counted : ∀ o, (st.count i.toFilter o).Ends h s (.ok rows.length) s

theorem answers_keeper (m : Meaning) : Answers m (keeper m) where
  query hq ha := by
    simp only [keeper, Statement.counted?_of_query? hq]
    exact (answers_handle m).query hq ha
  release _ := rfl

theorem countOf_ofInt {k : Nat} (hk : k < 2 ^ 63) : countOf (.integer (.ofInt k)) = .ok k := by
  simp [countOf, toInt_ofInt hk]

theorem firstValue_tally (k : Nat) : Call.firstValue (some (tally k)) = .integer (.ofInt k) := rfl

section

variable {σ : Type} {h : Handle σ} {a : σ} {k : Nat}

/-- A count is what its one value comes to. -/
theorem ends_counting {v : Value} (hscalar : (Call.fetchScalar (st.countStatement f)).Ends h a (.ok v) a) :
    Call.Ends h (do
      Call.tell (sent "counting" (st.countStatement f))
      ExceptT.mk (.done (countOf (← Call.fetchScalar (st.countStatement f))))) a (countOf v) a :=
  Call.ends_bind (Call.ends_tell _) (Call.ends_bind hscalar ⟨rfl, rfl⟩)

theorem ends_tally (hreply : h.query a (st.countStatement f) = ⟨.ok ([tally k].map .ok), a, []⟩)
    (hrelease : h.release a = a) :
    (Call.fetchScalar (st.countStatement f)).Ends h a (.ok (.integer (.ofInt k))) a := by
  rw [← firstValue_tally]
  refine Call.ends_bind (Call.ends_fetchRow (by rw [hreply]) ?_) (Call.ends_pure _)
  rw [hreply]
  exact hrelease

theorem ends_count_of_scalar (hscalar : (Call.fetchScalar (st.countStatement f)).Ends h a (.ok (.integer (.ofInt k))) a)
    (hk : k < 2 ^ 63) (o : QueryOptions) : (st.count f o).Ends h a (.ok k) a := by
  have hcounting := ends_counting hscalar
  rw [countOf_ofInt hk] at hcounting
  exact ends_inSpan (ends_observe hcounting _ _) _

theorem ends_count_refused
    (hscalar : (Call.fetchScalar (st.countStatement f)).Ends h a (.ok (.integer (.ofInt (2 ^ 63 : Nat)))) a)
    (o : QueryOptions) : ∃ e, (st.count f o).Ends h a (.error e) a :=
  ⟨_, ends_inSpan (ends_observe_error (ends_counting hscalar) _ _) _⟩

end

/-- What counts the rows of a filter is read as that. -/
theorem counted?_countStatement (m : Meaning) (ht : Plain st.table) (hf : PlainNames f) :
    (st.countStatement f).counted? m = some ⟨st.table, accepts m st.binding f.entries⟩ := by
  have haligned : Aligned (Request.slots st.binding st.table (.count f)) (st.countStatement f) :=
    requested_aligned ht (q := .count f) hf rfl
  exact Statement.counted?_count haligned.tokens rfl

section

variable (ht : Plain st.table) (hn : st.table = s.name)
include ht hn

theorem ends_scalar (hf : PlainNames f) : (Call.fetchScalar (st.countStatement f)).Ends (keeper m) s
    (.ok (.integer (.ofInt (s.named m st.binding f).length))) s := by
  have hcounted := counted?_countStatement m ht hf
  refine ends_tally ?_ rfl
  simp [keeper, hcounted, hn, named]

theorem ends_count (hsize : s.rows.length < 2 ^ 63) (hf : PlainNames f) (o : QueryOptions) :
    (st.count f o).Ends (keeper m) s (.ok (s.named m st.binding f).length) s :=
  ends_count_of_scalar (ends_scalar ht hn hf) (Nat.lt_of_le_of_lt (List.length_filter_le _ _) hsize) o

theorem ends_remove (hi : PlainNames i.toFilter) :
    (st.remove i).Ends (keeper m) s (.ok { rowsAffected := (s.named m st.binding i.toFilter).length })
      (s.without m st.binding i.toFilter) := by
  have haligned : Aligned (Request.slots st.binding st.table (.delete i.toFilter)) (st.deleteStatement i.toFilter) :=
    requested_aligned ht (q := .delete i.toFilter) hi rfl
  have hremoved := Statement.removed?_delete (m := m) haligned.tokens rfl
  have hreply : (keeper m).execute s (st.deleteStatement i.toFilter) =
      ⟨.ok { rowsAffected := (s.named m st.binding i.toFilter).length }, s.without m st.binding i.toFilter, []⟩ := by
    simp [keeper, hremoved, hn, named, without]
  refine ends_inSpan (ends_observe (Call.ends_bind (Call.ends_pure _) (Call.ends_bind (Call.ends_tell _) ?_)) _ _) _
  exact Call.ends_execute (by rw [hreply]) (by rw [hreply])

theorem agrees_named (hid : Record.idColumn ∈ s.columns) (hsize : s.rows.length < 2 ^ 63)
    (hi : PlainNames i.toFilter) : Agrees (keeper m) st s i (s.named m st.binding i.toFilter) where
  listed := ends_list (answers_keeper m) ht hn hi
  found := ends_exists (answers_keeper m) ht hn hid hi
  first := ends_read (answers_keeper m) ht hn hi
  counted := ends_count ht hn hsize hi

end

theorem plain_toFilter (hi : ∀ f, i = .filter f → PlainNames f) : PlainNames i.toFilter := by
  cases i with
  | key v => exact plain_byId v
  | keys vs => exact plainNames_empty.put plain_id _
  | filter f => exact hi f rfl

/-! ## What is meant -/

/-- No list of the filter has a number among its items. -/
def Unnumbered (f : Filter) : Prop := ∀ e ∈ f.entries, ∀ v ∈ listed e.2, v.number? = none

instance (f : Filter) : Decidable (Unnumbered f) :=
  inferInstanceAs (Decidable (∀ e ∈ f.entries, ∀ v ∈ listed e.2, v.number? = none))

/-- Either way its lists are handed over, a filter holds of the rows that it means. -/
theorem accepts_meant (m : Meaning) {b : ListBinding} (h : b = .inline → Unnumbered f) :
    accepts m b f.entries = accepts m .bound f.entries := by
  cases b with
  | bound => rfl
  | inline => exact accepts_unnumbered m .inline (h rfl)

theorem named_meant (m : Meaning) (s : Sheet) {b : ListBinding} (h : b = .inline → Unnumbered f) :
    s.named m b f = s.named m .bound f := by
  rw [named, named, accepts_meant m h]

theorem without_meant (m : Meaning) (s : Sheet) {b : ListBinding} (h : b = .inline → Unnumbered f) :
    s.without m b f = s.without m .bound f := by
  rw [without, without, accepts_meant m h]

/-- All operations agree on the rows that an identifier means, in the order of the sheet; removing
it takes just these, and then there are none. No keys mean no row. -/
theorem operations_agree (m : Meaning) (ht : Plain st.table) (hn : st.table = s.name)
    (hid : Record.idColumn ∈ s.columns) (hsize : s.rows.length < 2 ^ 63) (i : Identifier)
    (hi : ∀ f, i = .filter f → PlainNames f) (hlists : st.binding = .inline → Unnumbered i.toFilter) :
    Agrees (keeper m) st s i (s.named m .bound i.toFilter) ∧
      (∃ w, (st.remove i).Ends (keeper m) s (.ok w) (s.without m .bound i.toFilter) ∧
        w.rowsAffected = (s.named m .bound i.toFilter).length) ∧
      Agrees (keeper m) st (s.without m .bound i.toFilter) i [] ∧
      (i = .keys [] → s.named m .bound i.toFilter = [] ∧ s.without m .bound i.toFilter = s) := by
  have hplain := plain_toFilter hi
  rw [← named_meant m s hlists, ← without_meant m s hlists]
  refine ⟨agrees_named ht hn hid hsize hplain, ⟨_, ends_remove ht hn hplain, rfl⟩, ?_, ?_⟩
  · have hless : (s.without m st.binding i.toFilter).rows.length < 2 ^ 63 :=
      Nat.lt_of_le_of_lt (List.length_filter_le _ _) hsize
    have hagrees := agrees_named (m := m) (s := s.without m st.binding i.toFilter) ht hn hid hless hplain
    rwa [named_without] at hagrees
  · rintro rfl
    exact ⟨named_no_keys m s st.binding, without_of_named m s st.binding _ (named_no_keys m s st.binding)⟩

/-- `=` of values as they are stored, with no pattern that anything is like. -/
def storedMeaning : Meaning := .stored fun _ _ => false

def book (id title : Value) : Tuple := fun c =>
  if c = Record.idColumn then id else if c = "title" then title else .null

def sevenAndAHalf : Value := .real ⟨0x401e000000000000⟩

/-- Keys repeat, one is NULL and two are numbers. -/
def books (name : String) : Sheet where
  name := name
  columns := ["id", "title"]
  unique := false
  rows := [book (.text "a") (.text "7"), book .null (.text "x"), book (.integer 7) .null, book sevenAndAHalf .null,
    book (.text "a") (.text "x")]

/-- Some titles, one of which has to be escaped where it is written out. -/
def titled : Filter := .ofList [("title", .oneOf [.text "7", .null, .text "it's"]), ("id", .equals (.text "a"))]

theorem titled_books_agree :
    Agrees (keeper storedMeaning) ⟨"my books", .inline⟩ (books "my books") (.filter titled)
        ((books "my books").named storedMeaning .bound titled) ∧
      (∃ w, (Store.remove ⟨"my books", .inline⟩ (.filter titled)).Ends (keeper storedMeaning) (books "my books") (.ok w)
        ((books "my books").without storedMeaning .bound titled) ∧
        w.rowsAffected = ((books "my books").named storedMeaning .bound titled).length) ∧
      Agrees (keeper storedMeaning) ⟨"my books", .inline⟩ ((books "my books").without storedMeaning .bound titled)
        (.filter titled) [] ∧
      (.filter titled = Identifier.keys [] → (books "my books").named storedMeaning .bound titled = [] ∧
        (books "my books").without storedMeaning .bound titled = books "my books") :=
  operations_agree storedMeaning (show Plain (Store.table ⟨"my books", .inline⟩) by decide) rfl (by decide)
    (by decide) (.filter titled) (by rintro _ ⟨⟩; decide) (fun _ => by decide)

/-! ## Where they do not agree -/

/-- A listing whose text names another table comes to an error. -/
theorem ends_list_elsewhere {q : Query} (hq : (st.selectStatement f {}).query? m = some q) (hother : q.table ≠ s.name) :
    ∃ e, (st.list f {}).Ends (keeper m) s (.error e) s := by
  have hreply : (keeper m).query s (st.selectStatement f {}) =
      ⟨.error (.operationFailed "query" ("no such table: " ++ q.table)), s, []⟩ := by
    simp [keeper, Statement.counted?_of_query? hq, Sheet.handle, hq, answer, hother]
  have hselect : (st.select f {}).Ends (keeper m) s
      (.error (.operationFailed "query" ("no such table: " ++ q.table))) s :=
    Call.ends_bind (Call.ends_tell _) (Call.ends_read_error (by rw [hreply]) (by rw [hreply]))
  exact ⟨_, ends_inSpan (ends_observe_error hselect _ _) _⟩

/-- A sheet of rows without a key. -/
def crowd (size : Nat) : Sheet where
  name := "books"
  columns := ["id"]
  unique := false
  rows := List.replicate size (book .null .null)

theorem length_crowd (m : Meaning) (size : Nat) (b : ListBinding) :
    ((crowd size).named m b .empty).length = size := by
  have hall : (crowd size).named m b .empty = (crowd size).rows := List.filter_eq_self.mpr fun _ _ => rfl
  rw [hall]
  exact List.length_replicate

/-- A name with back-ticks names another table. A number in a list that is written out misses a
row with that number for a key. And more rows than the largest integer are not counted. -/
theorem agreement_fails :
    (¬∃ rows, Agrees (keeper storedMeaning) ⟨"a``b", .bound⟩ (books "a``b") (.filter .empty) rows) ∧
      (∀ v ∈ [.integer 7, sevenAndAHalf], ¬Agrees (keeper storedMeaning) ⟨"books", .inline⟩ (books "books") (.keys [v])
        ((books "books").rows.filter fun row => storedMeaning.equal (row Record.idColumn) v)) ∧
      ¬∃ rows, Agrees (keeper storedMeaning) ⟨"books", .bound⟩ (crowd (2 ^ 63)) (.filter .empty) rows := by
  refine ⟨?_, fun v hv h => ?_, ?_⟩
  · rintro ⟨rows, h⟩
    have htokens : tokens (Store.selectStatement ⟨"a``b", .bound⟩ .empty {}).sql.toList =
        (Request.slots .bound "a`b" (.rows .empty {})).map Slot.token ++ [.ending] := by decide +kernel
    have hquery := Statement.query?_rows (m := storedMeaning) htokens rfl nofun (heads_all (books "a``b")).small
    obtain ⟨e, he⟩ := ends_list_elsewhere (s := books "a``b") hquery (by decide)
    cases h.listed.1.symm.trans he.1
  · have hnamed : Agrees (keeper storedMeaning) ⟨"books", .inline⟩ (books "books") (.keys [v]) _ :=
      agrees_named (by decide) rfl (by decide) (by decide) (plainNames_empty.put plain_id _)
    have hnone : ∀ v ∈ [.integer 7, sevenAndAHalf],
        ((books "books").named storedMeaning .inline (Identifier.keys [v]).toFilter).isEmpty = true := by decide +kernel
    have hthere : ∀ v ∈ [.integer 7, sevenAndAHalf], ((books "books").rows.filter fun row =>
        storedMeaning.equal (row Record.idColumn) v).isEmpty = false := by decide +kernel
    have hsame := h.found.1.symm.trans hnamed.found.1
    rw [hnone v hv, hthere v hv] at hsame
    cases hsame
  · rintro ⟨rows, h⟩
    have hscalar : (Call.fetchScalar (Store.countStatement ⟨"books", .bound⟩ .empty)).Ends (keeper storedMeaning)
        (crowd (2 ^ 63)) _ _ := ends_scalar (by decide) rfl plainNames_empty
    rw [length_crowd] at hscalar
    obtain ⟨e, he⟩ := ends_count_refused hscalar {}
    cases (h.counted {}).1.symm.trans he.1

end Store
end TableKeeper
