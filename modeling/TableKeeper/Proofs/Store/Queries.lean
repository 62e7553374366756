import TableKeeper.Proofs.Sql.Queries
import TableKeeper.Proofs.Store.Requests

/-!
  TableKeeper.Proofs.Store.Queries — what a listing asks the database for.

  A listing sends one SELECT, whatever the database replies. Its text is read as the query
  that the filter and the options stand for.
-/

namespace TableKeeper.Store

open Sql

variable {α : Type}

theorem sendsList_inSpan {ss : List Statement} {c : Call α} (s : Span) (h : Program.SendsList ss c.run) :
    Program.SendsList ss (inSpan s c).run :=
  Program.sendsList_bind h fun _ => rfl

theorem sendsList_tellAll (ns : List Notice) (r : Except Error α) : Program.SendsList [] (tellAll ns r) := by
  induction ns with
  | nil => rfl
  | cons n ns ih => exact ih

theorem sendsList_observe {ss : List Statement} {c : Call α} (operation table : String)
    (h : Program.SendsList ss c.run) :
    Program.SendsList ss (observe operation table c).run :=
  Program.sendsList_bind h fun
    | .ok _ => sendsList_tellAll _ _
    | .error _ => sendsList_tellAll _ _

theorem sendsList_list (st : Store) (f : Filter) (o : QueryOptions) :
    Program.SendsList [st.selectStatement f o] (st.list f o).run :=
  sendsList_inSpan (st.spanOf "list" (predicatesField f)) <|
    sendsList_observe "list" st.table (Call.sendsList_read (st.selectStatement f o) .all)

theorem sendsList_iterate (st : Store) (f : Filter) (o : QueryOptions) (reader : Reader α) :
    Program.SendsList [st.selectStatement f o] (st.iterate f o reader).run :=
  sendsList_inSpan (st.spanOf "iterate" (predicatesField f)) <|
    sendsList_observe "iterate" st.table (Call.sendsList_read (st.selectStatement f o) reader)

/-- What a SELECT asks for is what its filter and its options do, as the binding hands them over. -/
theorem query?_select (m : Meaning) {st : Store} {f : Filter} {o : QueryOptions} (ht : Plain st.table)
    (hq : PlainQuery f o) (hf : o.fields ≠ some []) (hpage : SmallPage o) :
    (st.selectStatement f o).query? m = some (Query.handed m st.binding st.table f o) := by
  have haligned : Aligned (Request.slots st.binding st.table (.rows f o)) (st.selectStatement f o) :=
    requested_aligned ht (q := .rows f o) hq rfl
  exact Statement.query?_rows haligned.tokens rfl hf hpage

theorem query?_selectStatement (m : Meaning) {st : Store} {f : Filter} {o : QueryOptions} (hb : st.binding = .bound)
    (ht : Plain st.table) (hq : PlainQuery f o) (hf : o.fields ≠ some []) (hpage : SmallPage o) :
    (st.selectStatement f o).query? m = some (Query.ofFilter m st.table f o) := by
  rw [query?_select m ht hq hf hpage, hb]
  rfl

/-- A listing asks for the rows that its filter accepts, in the order and the part that its
options ask for, and for nothing else. -/
theorem listing_asks (m : Meaning) {σ : Type} (h : Handle σ) (start : σ) {st : Store} {f : Filter} {o : QueryOptions}
    (hb : st.binding = .bound) (ht : Plain st.table) (hq : PlainQuery f o) (hf : o.fields ≠ some [])
    (hpage : SmallPage o) (reader : Reader α) :
    ∃ s : Statement, (Program.run h (st.list f o).run start).statements = [s] ∧
      (Program.run h (st.iterate f o reader).run start).statements = [s] ∧
      s.query? m = some (Query.ofFilter m st.table f o) :=
  ⟨st.selectStatement f o, Program.statements_run h (sendsList_list st f o) start,
    Program.statements_run h (sendsList_iterate st f o reader) start, query?_selectStatement m hb ht hq hf hpage⟩

/-- Values are equal as they are, and a pattern is the text itself. -/
def plainMeaning : Meaning where
  equal v w := v == w
  like v p := v == p

/-- Keywords and commas in names, and no item to equal. -/
def oddFilter : Filter :=
  .ofList [("a, b AND c", .equals (.text "it's")), ("x' OR '", .oneOf []), ("note", .matches ⟨"%?"⟩)]

/-- A direction without a meaning, and an offset without a limit. -/
def oddOptions : QueryOptions :=
  { fields := some ["select", "a, b AND c"], order := [("select", 1), ("note", 7), ("FROM", -1)], limit := some 0,
    offset := some 3 }

theorem odd_listing_asks :
    ∃ s : Statement,
      (Program.run refusing (Store.list ⟨"my items", .bound⟩ oddFilter oddOptions).run ()).statements = [s] ∧
      (Program.run refusing (Store.iterate ⟨"my items", .bound⟩ oddFilter oddOptions Reader.first).run ()).statements = [s] ∧
      s.query? plainMeaning = some (Query.ofFilter plainMeaning "my items" oddFilter oddOptions) :=
  listing_asks plainMeaning refusing () rfl (show Plain "my items" by decide) ⟨by decide, by decide, by decide⟩
    (by decide) ⟨by rintro _ ⟨⟩; decide, by rintro _ ⟨⟩; decide⟩ Reader.first

end TableKeeper.Store
