import TableKeeper.Proofs.Sheet
import TableKeeper.Proofs.Store.Queries

/-!
  TableKeeper.Proofs.Store.Reading — what a store reads off a sheet.

  1. A handle answers for a sheet when it gives back the rows that a query asks for and leaves
     the sheet as it is (`Answers`).
  2. A filter with options that leave the rows in their order comes to the rows that it names,
     or to the first of them (`answer_heads`). So the operations that read come to what is
     named: all of it, its first row, or whether there is any (`ends_list`, `ends_read`,
     `ends_exists`).
-/

namespace TableKeeper

open Sql

namespace Store

open Sheet

variable {α σ : Type} {m : Meaning} {s : Sheet} {st : Store} {f : Filter} {o : QueryOptions}

/-! ## Runs of calls -/

section

variable {h : Handle σ} {a b : σ} {c : Call α}

theorem ends_inSpan {x : Except Error α} (hc : c.Ends h a x b) (sp : Span) : (inSpan sp c).Ends h a x b :=
  Program.ends_bind hc ⟨rfl, rfl⟩

theorem ends_tellAll (ns : List Notice) (x : Except Error α) : (tellAll ns x).Ends h a x a := by
  induction ns with
  | nil => exact ⟨rfl, rfl⟩
  | cons n ns ih => exact ih

theorem ends_observe {x : α} (hc : c.Ends h a (.ok x) b) (operation table : String) :
    (observe operation table c).Ends h a (.ok x) b :=
  Program.ends_bind hc (ends_tellAll _ _)

theorem ends_observe_error {e : Error} (hc : c.Ends h a (.error e) b) (operation table : String) :
    (observe operation table c).Ends h a (.error (attributed operation e)) b :=
  Program.ends_bind hc (ends_tellAll _ _)

/-- A SELECT comes to the rows that the handle gives back. -/
theorem ends_selecting {rows : List Record} (hreply : h.query a (st.selectStatement f o) = ⟨.ok (rows.map .ok), a, []⟩)
    (hrelease : h.release a = a) : (st.select f o).Ends h a (.ok rows) a := by
  refine Call.ends_bind (Call.ends_tell _) (Call.ends_fetchAll (by rw [hreply]) ?_)
  rw [hreply]
  exact hrelease

end

/-! ## Answers -/

/-- The handle gives back what is asked of a sheet, and leaves it as it is. -/
structure Answers (m : Meaning) (h : Handle Sheet) : Prop where
  query : ∀ {s : Sheet} {st : Statement} {q : Query} {rows : List Record}, st.query? m = some q →
    s.answer q = .ok rows → h.query s st = ⟨.ok (rows.map .ok), s, []⟩
  release : ∀ s : Sheet, h.release s = s

theorem answers_handle (m : Meaning) : Answers m (Sheet.handle m) where
  query hq ha := by simp [Sheet.handle, hq, ha]
  release _ := rfl

/-- The options ask for the first rows as they stand, with columns of the sheet. -/
structure Heads (s : Sheet) (o : QueryOptions) : Prop where
  order : o.order = []
  offset : o.offset = none
  limit : ∀ x ∈ o.limit, 0 < x.toNat ∧ x.toNat < 2 ^ 63
  fields : ∀ ns ∈ o.fields, ns ≠ [] ∧ ∀ n ∈ ns, Plain n ∧ n ∈ s.columns

def upTo (limit : Option UInt64) (rows : List Tuple) : List Tuple :=
  match limit with
  | none => rows
  | some n => rows.take n.toNat

theorem answer_heads (ho : Heads s o) (b : ListBinding) (f : Filter) :
    s.answer (Query.handed m b s.name f o) =
      .ok ((upTo o.limit (s.named m b f)).map (record (o.fields.getD s.columns))) := by
  obtain ⟨fields, order, limit, offset⟩ := o
  obtain ⟨rfl, rfl, hlimit, hfields⟩ := ho
  have hknown : ((fields.getD s.columns).all s.columns.contains) = true := by
    rw [List.all_eq_true]
    intro n hn
    cases fields with
    | none => simpa using hn
    | some ns => simpa using ((hfields ns rfl).2 n hn).2
  have hpositive : ∀ x ∈ limit, x ≠ 0 := by
    rintro x hx rfl
    exact absurd (hlimit 0 hx).1 (by decide)
  unfold answer
  cases fields with
  | none =>
    cases limit with
    | none => simp [Query.handed, Query.ofFilter, upTo, named]
    | some x => simp [Query.handed, Query.ofFilter, upTo, named, hpositive x rfl]
  | some ns =>
    have hshown : ∀ n ∈ ns, n ∈ s.columns := by simpa using hknown
    cases limit with
    | none => simpa [Query.handed, Query.ofFilter, upTo, named] using hshown
    | some x => simpa [Query.handed, Query.ofFilter, upTo, named, hpositive x rfl] using hshown

theorem Heads.small (ho : Heads s o) : SmallPage o :=
  ⟨fun x hx => (ho.limit x hx).2, fun x hx => by rw [ho.offset] at hx; cases hx⟩

theorem Heads.plain (ho : Heads s o) (hf : PlainNames f) : PlainQuery f o :=
  hf.query ho.order fun ns hns n hn => ((ho.fields ns hns).2 n hn).1

theorem heads_all (s : Sheet) : Heads s {} := ⟨rfl, rfl, nofun, nofun⟩

theorem heads_first (s : Sheet) : Heads s { limit := some 1 } :=
  ⟨rfl, rfl, by rintro _ ⟨⟩; decide, nofun⟩

theorem heads_existence (hid : Record.idColumn ∈ s.columns) : Heads s existenceOptions := by
  refine ⟨rfl, rfl, by rintro _ ⟨⟩; decide, ?_⟩
  rintro _ ⟨⟩
  exact ⟨by decide, fun n hn => by rw [List.mem_singleton.mp hn]; exact ⟨plain_id, hid⟩⟩

/-! ## Operations that read -/

section

variable {h : Handle Sheet} (hh : Answers m h) (ht : Plain st.table) (hn : st.table = s.name)
include hh ht hn

theorem ends_select (ho : Heads s o) (hf : PlainNames f) :
    (st.select f o).Ends h s
      (.ok ((upTo o.limit (s.named m st.binding f)).map (record (o.fields.getD s.columns)))) s := by
  have hfields : o.fields ≠ some [] := fun hnone => (ho.fields [] hnone).1 rfl
  have hquery := query?_select m ht (ho.plain hf) hfields ho.small
  rw [hn] at hquery
  exact ends_selecting (hh.query hquery (answer_heads ho st.binding f)) (hh.release s)

theorem ends_list (hf : PlainNames f) :
    (st.list f {}).Ends h s (.ok ((s.named m st.binding f).map (record s.columns))) s :=
  ends_inSpan (ends_observe (ends_select hh ht hn (heads_all s) hf) _ _) _

theorem ends_exists (hid : Record.idColumn ∈ s.columns) {i : Identifier} (hi : PlainNames i.toFilter) :
    (st.exists? i).Ends h s (.ok (!(s.named m st.binding i.toFilter).isEmpty)) s := by
  have hselect := ends_select hh ht hn (heads_existence hid) hi
  refine ends_inSpan (ends_observe (Call.ends_bind hselect ?_) _ _) _
  have hany : ∀ rows : List Tuple, ((upTo (some 1) rows).map (record [Record.idColumn])).isEmpty = rows.isEmpty := by
    intro rows
    cases rows <;> rfl
  rw [← hany]
  exact Call.ends_pure _

/-- The row with a key is read by a statement of its own, which asks for the same rows. -/
theorem ends_selectById (v : Value) :
    (Call.fetchRow (statement (.selectById st.table) [v])).Ends h s
      (.ok ((s.named m st.binding (Filter.byId v)).map (record s.columns)).head?) s := by
  have haligned : Aligned (Request.slots st.binding st.table (.row v)) (statement (.selectById st.table) [v]) :=
    requested_aligned ht (q := .row v) trivial rfl
  have hslots : Request.slots st.binding st.table (.row v) = Request.slots st.binding st.table (.rows (.byId v) {}) :=
    rfl
  rw [hslots] at haligned
  have hquery := Statement.query?_rows (m := m) haligned.tokens rfl nofun (heads_all s).small
  have hanswer := answer_heads (m := m) (heads_all s) st.binding (Filter.byId v)
  rw [← hn] at hanswer
  have hreply := hh.query hquery hanswer
  refine Call.ends_fetchRow (by rw [hreply]; rfl) ?_
  rw [hreply]
  exact hh.release s

theorem ends_read {i : Identifier} (hi : PlainNames i.toFilter) :
    (st.read i).Ends h s (.ok ((s.named m st.binding i.toFilter).map (record s.columns)).head?) s := by
  have hfirst : ∀ rows : List Tuple, ((upTo (some 1) rows).map (record s.columns)).head? =
      (rows.map (record s.columns)).head? := by
    intro rows
    cases rows <;> rfl
  have hselect : ∀ f : Filter, PlainNames f →
      Call.Ends h (do return (← st.select f { limit := some 1 }).head?) s
        (.ok ((s.named m st.binding f).map (record s.columns)).head?) s := by
    intro f hf
    refine Call.ends_bind (ends_select hh ht hn (heads_first s) hf) ?_
    rw [← hfirst]
    exact Call.ends_pure _
  refine ends_inSpan (ends_observe ?_ _ _) _
  cases i with
  | key v => exact Call.ends_bind (Call.ends_tell _) (ends_selectById hh ht hn v)
  | keys vs => exact hselect _ hi
  | filter f => exact hselect _ hi

end

end Store
end TableKeeper
