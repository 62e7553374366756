import TableKeeper.Proofs.Record
import TableKeeper.Proofs.Sql.Changes
import TableKeeper.Proofs.Store.Sentences

/-!
  TableKeeper.Proofs.Store.Columns — records and filters are ordered maps, and no statement names
  a column twice.

  1. A command that writes lists the columns of its record, and an upsert once more those that it
     overwrites (`Command.listed`). Plain names are read as they are meant, and so the change that
     the statement asks for lists the same columns (`namesOnce`).
  2. An operation writes the record that it was given, or that record with the key's column
     behind the others if it had none (`given_written`).
  3. `maps_ordered` puts this beside what edits leave in a record or a filter.
-/

namespace TableKeeper

open Sql

namespace Sql

/-! ## Columns that are listed -/

/-- The columns that a command writes, and those that it overwrites. -/
def Command.listed : Command → List (List String)
  | insert _ columns => [columns]
  | update _ columns => [columns]
  | upsert _ columns => [columns, overwritten columns]
  | _ => []

/-- The columns that a change gives values to, and those that a clash sets. -/
def Change.listed : Change → List (List String)
  | insert _ columns _ caught => columns :: (caught.bind (·.overwrite)).toList.map (·.map (·.1))
  | update _ assignments _ => [assignments.map (·.1)]

/-- The record that a request writes. -/
def Request.written? : Request → Option Record
  | insert r => some r
  | update _ r => some r
  | upsert r => some r
  | _ => none

/-- Each list is one of columns of the record, and names none twice. -/
def ListsOnce (r : Record) (lists : List (List String)) : Prop :=
  r.names ∈ lists ∧ ∀ columns ∈ lists, columns.Nodup ∧ columns ⊆ r.names

theorem listsOnce_self (r : Record) : ListsOnce r [r.names] := by
  refine ⟨List.mem_singleton_self _, fun columns h => ?_⟩
  rw [List.mem_singleton.mp h]
  exact ⟨r.distinct, List.Subset.refl _⟩

theorem listsOnce_overwritten (r : Record) : ListsOnce r [r.names, overwritten r.names] := by
  refine ⟨List.mem_cons_self, fun columns h => ?_⟩
  rcases List.mem_cons.mp h with rfl | h
  · exact ⟨r.distinct, List.Subset.refl _⟩
  · rw [List.mem_singleton.mp h]
    exact ⟨r.distinct.filter _, List.filter_subset_self _⟩

theorem listsOnce_upserting (table : String) (r : Record) : ListsOnce r (upserting table r).listed := by
  by_cases hnone : overwritten r.names = []
  · have hlisted : (upserting table r).listed = [r.names] := by
      simp [upserting, Change.listed, keyClash, overwriting, hnone]
    exact hlisted ▸ listsOnce_self r
  · have hlisted : (upserting table r).listed = [r.names, overwritten r.names] := by
      simp [upserting, Change.listed, keyClash, overwriting, hnone, Function.comp_def]
    exact hlisted ▸ listsOnce_overwritten r

end Sql

/-! ## Records that are given -/

/-- The record that an operation is to write. -/
def Operation.given? : Operation → Option Record
  | write _ r => some r
  | writeChecked _ r => some r
  | create _ r => some r
  | update _ r => some r
  | _ => none

/-- The record as it was given, or with the key's column behind the others. -/
def Record.CarriedBy (given written : Record) : Prop :=
  written = given ∨ (idColumn ∉ given.names ∧ written.names = given.names ++ [idColumn])

namespace Store

variable {st : Store} {s : Statement} {q : Request} {r r' : Record}

theorem carriedBy_withId (r : Record) (key : Value) : r.CarriedBy (r.withId key) := by
  unfold Record.withId
  split
  · exact .inl rfl
  · next hcontains =>
    have hid : Record.idColumn ∉ r.names := fun hmem => hcontains ((OrderedMap.views r).contains _ |>.mpr hmem)
    refine .inr ⟨hid, ?_⟩
    show (OrderedMap.putEntry Record.idColumn key r.entries).map (·.1) = r.names ++ [Record.idColumn]
    rw [OrderedMap.putEntry_of_notMem key hid, List.map_append]
    rfl

theorem carriedBy_keyed (id : Option Value) (r : Record) : r.CarriedBy (keyed id r) := by
  unfold keyed
  split
  · exact carriedBy_withId r _
  · exact .inl rfl

theorem carriedBy_trans {r'' : Record} (h : r.CarriedBy r') (h' : r'.CarriedBy r'') : r.CarriedBy r'' := by
  rcases h with rfl | ⟨hid, hnames⟩
  · exact h'
  · rcases h' with rfl | ⟨hid', -⟩
    · exact .inr ⟨hid, hnames⟩
    · exact absurd (hnames ▸ List.mem_append_right _ (List.mem_singleton_self _)) hid'

theorem given_checked {id : Option Value} (hq : q ∈ Operation.checkedRequests id r) (hr : q.written? = some r') :
    r.CarriedBy r' := by
  unfold Operation.checkedRequests at hq
  cases hid : truthy? id with
  | none =>
    simp only [hid, List.mem_singleton] at hq
    subst hq
    cases hr
    exact .inl rfl
  | some key =>
    simp only [hid, List.mem_cons, List.not_mem_nil, or_false] at hq
    rcases hq with rfl | rfl | rfl
    · cases hr
    · cases hr
      exact .inl rfl
    · cases hr
      exact carriedBy_keyed _ _

/-- What is written is the record that was given, but for the key. -/
theorem given_written {op : Operation} (hq : q ∈ op.requests) (hr : q.written? = some r') :
    ∃ r ∈ op.given?, r.CarriedBy r' := by
  cases op with
  | write id r =>
    refine ⟨r, rfl, ?_⟩
    simp only [Operation.requests] at hq
    cases hid : truthy? id with
    | none =>
      simp only [hid, List.mem_singleton] at hq
      subst hq
      cases hr
      exact .inl rfl
    | some key =>
      simp only [hid] at hq
      split at hq
      · exact given_checked hq hr
      · have hkey := carriedBy_withId r key
        rcases List.mem_cons.mp hq with rfl | hq
        · cases hr
          exact hkey
        · exact carriedBy_trans hkey (given_checked hq hr)
  | writeChecked id r => exact ⟨r, rfl, given_checked hq hr⟩
  | create id r =>
    cases List.mem_singleton.mp hq
    cases hr
    exact ⟨r, rfl, carriedBy_keyed id r⟩
  | update id r =>
    cases List.mem_singleton.mp hq
    exact ⟨r, rfl, .inl (Option.some.inj hr).symm⟩
  | read i =>
    cases i <;> cases List.mem_singleton.mp hq <;> cases hr
  | _ =>
    cases List.mem_singleton.mp hq
    cases hr

/-! ## Statements -/

/-- A statement names each column of the record once, and no other. -/
structure NamesOnce (st : Store) (r : Record) (s : Statement) : Prop where
  command : ∃ c : Command, s.sql = c.text ∧ ListsOnce r c.listed
  /-- The text is read so, if back-ticks keep the names. -/
  change : Plain st.table → PlainNames r → ∀ m : Meaning, ∃ d, s.change? m = some d ∧ ListsOnce r d.listed

/-- What is sent for a request names the columns of its record. -/
theorem namesOnce (h : st.requested q = .ok s) (hr : q.written? = some r) : NamesOnce st r s := by
  have hnames : q.NamesColumns := namesColumns_of_requested h fun f o hq => by rw [hq] at hr; cases hr
  cases q with
  | insert r' =>
    cases hr
    obtain ⟨command, hc, rfl⟩ := shaped_eq_ok h
    cases ite_eq_ok hc
    refine ⟨⟨.insert st.table r.names, rfl, listsOnce_self r⟩, fun ht hplain m => ?_⟩
    have haligned := requested_aligned ht (q := .insert r) hplain h
    exact ⟨_, Statement.change?_insert haligned.tokens rfl hnames, listsOnce_self r⟩
  | update key r' =>
    cases hr
    obtain ⟨command, hc, rfl⟩ := shaped_eq_ok h
    cases ite_eq_ok hc
    refine ⟨⟨.update st.table r.names, rfl, listsOnce_self r⟩, fun ht hplain m => ?_⟩
    have haligned := requested_aligned ht (q := .update key r) hplain h
    exact ⟨_, Statement.change?_update haligned.tokens rfl hnames, listsOnce_self r⟩
  | upsert r' =>
    cases hr
    obtain ⟨command, hc, rfl⟩ := shaped_eq_ok h
    cases ite_eq_ok hc
    refine ⟨⟨.upsert st.table r.names, rfl, listsOnce_overwritten r⟩, fun ht hplain m => ?_⟩
    have haligned := requested_aligned ht (q := .upsert r) hplain h
    exact ⟨_, Statement.change?_upsert haligned.tokens rfl hnames, listsOnce_upserting _ r⟩
  | _ => cases hr

/-- A record or a filter holds what its edits leave, however it was made; one more edit touches
one entry; and of a record that an operation writes, every column is named once. -/
theorem maps_ordered {σ : Type} (h : Handle σ) (start : σ) (st : Store) (op : Operation) :
    (∀ es (r : Record), Record.Built es r →
      OrderedMap.Follows r es ∧ OrderedMap.Steady r ∧ OrderedMap.Views r) ∧
    (∀ es (f : Filter), Filter.Built es f →
      OrderedMap.Follows f es ∧ OrderedMap.Steady f ∧ OrderedMap.Views f) ∧
    ∀ s ∈ (Program.run h (st.perform op).run start).statements, ∃ q ∈ op.requests, st.requested q = .ok s ∧
      ∀ r' ∈ q.written?, NamesOnce st r' s ∧ ∃ r ∈ op.given?, r.CarriedBy r' := by
  refine ⟨fun es r hr => ⟨hr.follows, r.steady, r.views⟩, fun es f hf => ⟨hf.follows, f.steady, f.views⟩, ?_⟩
  intro s hs
  obtain ⟨q, hq, hst⟩ := Program.sends_run h (sends_requested st op) start s hs
  exact ⟨q, hq, hst, fun r' hr => ⟨namesOnce hst hr, given_written hq hr⟩⟩

/-- A title that is taken out comes back behind the pages. -/
def retitling : List (Edit Value) :=
  [.insert "title" (.text "Draft"), .insert "pages" (.integer 80), .remove "title", .insert "title" (.text "Dune")]

def retitled : Record :=
  (((OrderedMap.empty.insert "title" (.text "Draft")).2.insert "pages" (.integer 80)).2.remove "title").2.put "title"
    (.text "Dune")

theorem built_retitled : Record.Built retitling retitled :=
  .put "title" _ (.remove "title" (.insert "pages" _ (.insert "title" _ .new)))

/-- What is sent to create it with a key. -/
def retitledInsert : Statement :=
  ⟨"INSERT INTO `books` (`pages`,`title`,`id`) VALUES (?,?,?)", [.integer 80, .text "Dune", .integer 7]⟩

/-- The key comes behind the columns of a record that was edited. -/
theorem retitled_created :
    (retitled.names = ["pages", "title"] ∧ OrderedMap.Follows retitled retitling) ∧
      OrderedMap.Follows (Filter.oneOf (Filter.eq .empty "pages" (.integer 80)) "pages" [.null])
        [.insert "pages" (.equals (.integer 80)), .insert "pages" (.oneOf [.null])] ∧
      NamesOnce ⟨"books", .bound⟩ (retitled.withId (.integer 7)) retitledInsert := by
  have hordered := maps_ordered refusing () ⟨"books", .bound⟩ (.create (some (.integer 7)) retitled)
  obtain ⟨hrecords, hfilters, hsent⟩ := hordered
  have hstatements : (Program.run refusing
      (Store.perform ⟨"books", .bound⟩ (.create (some (.integer 7)) retitled)).run ()).statements =
        [retitledInsert] := by decide
  refine ⟨⟨by decide, (hrecords _ _ built_retitled).1⟩, ?_, ?_⟩
  · exact (hfilters _ _ (.oneOf "pages" [.null] (.eq "pages" (.integer 80) .new))).1
  · obtain ⟨q, hq, -, hnames⟩ := hsent _ (hstatements ▸ List.mem_singleton_self _)
    cases List.mem_singleton.mp hq
    exact (hnames _ rfl).1

end Store
end TableKeeper
