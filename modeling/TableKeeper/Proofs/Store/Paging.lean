import TableKeeper.Proofs.Pages
import TableKeeper.Proofs.Store.Agreement

/-!
  TableKeeper.Proofs.Store.Paging — the pages of a listing.

  1. A lineup is a table that is only read (`Lineup`). The condition and the order of a query
     fix which of its rows come and in which sequence; a query leaves out what it skips and
     what goes beyond its bound.
  2. A listing is the part that its limit and its offset ask for of what its filter and its
     order come to (`ends_list_page`).
  3. So the pages of one size, up to the first that is not full, are the whole listing, and a
     count is the number of their rows, whatever its options (`listing_paged`).
  4. A name with back-ticks can end the text in front of its page, and more rows than the
     largest integer are not counted (`paging_fails`).
-/

namespace TableKeeper

open Sql

/-- A table that is only read. -/
structure Lineup where
  name : String
  columns : List String
  rows : List Tuple
  /-- The rows that meet a condition, in the sequence in which an order has them. -/
  arranged : (Tuple → Bool) → List (String × Direction) → List Tuple
  arranged_perm : ∀ keep order, (arranged keep order).Perm (rows.filter keep)

namespace Lineup

/-- The columns of a projection. -/
def shown (t : Lineup) : Projection → List String
  | .all => t.columns
  | .columns names => names

/-- The rows that a query leaves. -/
def part (q : Query) (rows : List Tuple) : List Tuple :=
  match q.bound with
  | none => rows.drop q.skip
  | some n => (rows.drop q.skip).take n

def answer (t : Lineup) (q : Query) : List Record :=
  (part q (t.arranged q.keep q.order)).map (Sheet.record (t.shown q.projection))

/-- Answers queries and counts, and refuses whatever else it is sent. -/
def handle (m : Meaning) (t : Lineup) : Handle Unit where
  execute _ _ := ⟨.error (.operationFailed "execute" "attempt to write a readonly database"), (), []⟩
  query _ s :=
    match s.counted? m with
    | some c =>
      if c.table ≠ t.name then ⟨.error (Sheet.noTable "query" c.table), (), []⟩
      else ⟨.ok [.ok (Sheet.tally (t.rows.filter c.keep).length)], (), []⟩
    | none =>
      match s.query? m with
      | none => ⟨.error (.operationFailed "query" "the statement is no query"), (), []⟩
      | some q =>
        if q.table ≠ t.name then ⟨.error (Sheet.noTable "query" q.table), (), []⟩
        else ⟨.ok ((t.answer q).map .ok), (), []⟩
  release := id
  unwind := id

end Lineup

namespace Store

open Lineup
open Grammar (projectionOf bound_ofFilter skip_ofFilter order_ofFilter)

variable {m : Meaning} {t : Lineup} {st : Store} {f : Filter} {o : QueryOptions} {size i : Nat}

/-! ## One listing -/

/-- The records that a filter and an order come to, no page asked for. -/
def lined (m : Meaning) (t : Lineup) (st : Store) (f : Filter) (o : QueryOptions) : List Record :=
  (t.arranged (accepts m st.binding f.entries) (orderOf o)).map (Sheet.record (t.shown (projectionOf o.fields)))

theorem length_lined (m : Meaning) (t : Lineup) (st : Store) (f : Filter) (o : QueryOptions) :
    (lined m t st f o).length = (t.rows.filter (accepts m st.binding f.entries)).length := by
  rw [lined, List.length_map, (t.arranged_perm _ _).length_eq]

/-- What a query leaves is the page that its options ask for. -/
theorem part_handed (m : Meaning) (st : Store) (f : Filter) (o : QueryOptions) (rows : List Tuple) :
    part (Query.handed m st.binding st.table f o) rows = o.page rows := by
  have hskip : (Query.handed m st.binding st.table f o).skip = _ := skip_ofFilter (m := m) st.table f o
  have hbound : (Query.handed m st.binding st.table f o).bound = _ := bound_ofFilter (m := m) st.table f o
  rw [part, hbound, hskip, o.page_eq]
  cases o.limit? with
  | none => rfl
  | some n => rfl

theorem answer_handed (m : Meaning) (t : Lineup) (st : Store) (f : Filter) (o : QueryOptions) :
    t.answer (Query.handed m st.binding st.table f o) = o.page (lined m t st f o) := by
  have horder : (Query.handed m st.binding st.table f o).order = orderOf o := order_ofFilter (m := m) st.table f o
  have hprojection : (Query.handed m st.binding st.table f o).projection = projectionOf o.fields := rfl
  rw [answer, part_handed, horder, hprojection, o.map_page]
  rfl

/-- A listing comes to what its text is read as. -/
theorem ends_list_query {q : Query} (hq : (st.selectStatement f o).query? m = some q) (hn : q.table = t.name) :
    (st.list f o).Ends (t.handle m) () (.ok (t.answer q)) () := by
  have hreply : (t.handle m).query () (st.selectStatement f o) = ⟨.ok ((t.answer q).map .ok), (), []⟩ := by
    simp only [Lineup.handle, Statement.counted?_of_query? hq, hq]
    exact if_neg (by simpa using hn)
  exact ends_inSpan (ends_observe (ends_selecting hreply rfl) _ _) _

section

variable (ht : Plain st.table) (hn : st.table = t.name)
include ht hn

/-- A listing is the page that its options ask for. -/
theorem ends_list_page (hq : PlainQuery f o) (hfields : o.fields ≠ some []) (hpage : SmallPage o) :
    (st.list f o).Ends (t.handle m) () (.ok (o.page (lined m t st f o))) () := by
  rw [← answer_handed]
  exact ends_list_query (query?_select m ht hq hfields hpage) hn

theorem ends_scalar_lineup (hf : PlainNames f) : (Call.fetchScalar (st.countStatement f)).Ends (t.handle m) ()
    (.ok (.integer (.ofInt (t.rows.filter (accepts m st.binding f.entries)).length))) () := by
  refine ends_tally ?_ rfl
  simp only [Lineup.handle, counted?_countStatement m ht hf]
  rw [if_neg (by simpa using hn)]
  rfl

theorem ends_count_lineup (hf : PlainNames f) (hfew : (t.rows.filter (accepts m st.binding f.entries)).length < 2 ^ 63)
    (p : QueryOptions) : (st.count f p).Ends (t.handle m) () (.ok (lined m t st f o).length) () := by
  rw [length_lined]
  exact ends_count_of_scalar (ends_scalar_lineup ht hn hf) hfew p

end

/-! ## All pages -/

/-- Pages of one size make up the listing of a filter and an order, and a count counts their
rows. The last of them is the first that is not full. -/
structure Pages {σ : Type} (h : Handle σ) (a : σ) (st : Store) (f : Filter) (o : QueryOptions) (size : Nat)
    (pages : Nat → List Record) (last : Nat) : Prop where
  page : ∀ i, i * size < 2 ^ 63 → (st.list f (o.pageAt size i)).Ends h a (.ok (pages i)) a
  full : ∀ i < last, (pages i).length = size
  short : (pages last).length < size
  reached : last * size < 2 ^ 63
  past : ∀ i, last < i → pages i = []
  listed : (st.list f o.unpaged).Ends h a (.ok ((List.range (last + 1)).flatMap pages)) a
  counted : ∀ p, (st.count f p).Ends h a (.ok ((List.range (last + 1)).flatMap pages).length) a

theorem smallPage_pageAt (hsmall : size < 2 ^ 63) (hi : i * size < 2 ^ 63) : SmallPage (o.pageAt size i) := by
  have hword : ∀ n < 2 ^ 63, (UInt64.ofNat n).toNat < 2 ^ 63 := by
    intro n hn
    rwa [UInt64.toNat_ofNat_of_lt' (Nat.lt_trans hn (by decide))]
  constructor
  · rintro _ ⟨⟩
    exact hword size hsmall
  · rintro _ ⟨⟩
    exact hword (i * size) hi

/-- Pages of any size partition what is listed: none of it is lost, repeated or moved, what
comes behind the first page that is not full is empty, and a count with whatever options is
the number of all their rows. -/
theorem listing_paged (m : Meaning) (t : Lineup) (ht : Plain st.table) (hn : st.table = t.name) (hq : PlainQuery f o)
    (hfields : o.fields ≠ some []) (hfew : (t.rows.filter (accepts m st.binding f.entries)).length < 2 ^ 63)
    (hsize : 0 < size) (hsmall : size < 2 ^ 63) : ∃ pages last, Pages (t.handle m) () st f o size pages last := by
  have hall : (List.range ((lined m t st f o).length / size + 1)).flatMap (pageOf size (lined m t st f o)) =
      lined m t st f o := flatMap_pageOf_all hsize
  refine ⟨pageOf size (lined m t st f o), (lined m t st f o).length / size, ?_⟩
  constructor
  case page =>
    intro i hi
    have hlist := ends_list_page (m := m) (o := o.pageAt size i) ht hn ⟨hq.filter, hq.order, hq.fields⟩ hfields
      (smallPage_pageAt hsmall hi)
    rwa [o.page_pageAt hsize hsmall hi] at hlist
  case full =>
    intro i hi
    exact length_pageOf_of_lt hi
  case short => exact length_pageOf_last hsize
  case reached =>
    rw [← length_lined] at hfew
    exact Nat.lt_of_le_of_lt (Nat.div_mul_le_self _ _) hfew
  case past =>
    intro i hi
    exact pageOf_eq_nil hsize hi
  case listed =>
    rw [hall]
    exact ends_list_page (o := o.unpaged) ht hn ⟨hq.filter, hq.order, hq.fields⟩ hfields ⟨nofun, nofun⟩
  case counted =>
    rw [hall]
    exact ends_count_lineup ht hn hq.filter hfew

/-- The rows of a sheet; whatever the order, they come from the last to the first. -/
def backwards (s : Sheet) : Lineup where
  name := s.name
  columns := s.columns
  rows := s.rows
  arranged keep order := if order.isEmpty then s.rows.filter keep else (s.rows.filter keep).reverse
  arranged_perm keep order := by
    by_cases hnone : order.isEmpty
    · simp [hnone]
    · simp [hnone]

theorem books_paged : ∃ pages last, Pages ((backwards (books "my books")).handle storedMeaning) ()
    ⟨"my books", .inline⟩ titled { fields := some ["title"], order := [("title", -1)] } 2 pages last :=
  listing_paged storedMeaning (backwards (books "my books")) (by decide) rfl ⟨by decide, by decide, by decide⟩
    (by decide) (Nat.lt_of_le_of_lt (List.length_filter_le _ _) (by decide)) (by decide) (by decide)

/-! ## Where they do not add up -/

/-- An order whose name ends the text behind a page of its own. -/
def ending : QueryOptions := { order := [("id` ASC LIMIT 1 --", 1)] }

/-- What comes after the name is a comment, so the listing is one row and the count four. And
more rows than the largest integer are not counted. -/
theorem paging_fails :
    (¬∃ pages last, Pages ((backwards (books "books")).handle storedMeaning) () ⟨"books", .bound⟩ .empty ending 1
        pages last) ∧
      ¬∃ pages last, Pages ((backwards (crowd (2 ^ 63))).handle storedMeaning) () ⟨"books", .bound⟩ .empty {}
        (2 ^ 63 - 1) pages last := by
  refine ⟨?_, ?_⟩
  · rintro ⟨pages, last, h⟩
    have htokens : tokens (Store.selectStatement ⟨"books", .bound⟩ .empty ending.unpaged).sql.toList =
        (Request.slots .bound "books" (.rows .empty { order := [("id", 1)], limit := some 1 })).map Slot.token ++
          [.ending] := by decide +kernel
    have hquery := Statement.query?_rows (m := storedMeaning) htokens rfl nofun ⟨by rintro _ ⟨⟩; decide, nofun⟩
    have hlist := ends_list_query (t := backwards (books "books")) hquery rfl
    have hfew : ((books "books").rows.filter (accepts storedMeaning .bound [])).length < 2 ^ 63 :=
      Nat.lt_of_le_of_lt (List.length_filter_le _ _) (by decide)
    have hcount : (Store.count ⟨"books", .bound⟩ .empty {}).Ends ((backwards (books "books")).handle storedMeaning) ()
        _ () := ends_count_lineup (o := {}) (by decide) rfl plainNames_empty hfew {}
    have hlisted := Except.ok.inj (Option.some.inj (h.listed.1.symm.trans hlist.1))
    have hcounted := Except.ok.inj (Option.some.inj ((h.counted {}).1.symm.trans hcount.1))
    rw [hlisted] at hcounted
    exact absurd hcounted (by decide +kernel)
  · rintro ⟨pages, last, h⟩
    have hscalar : (Call.fetchScalar (Store.countStatement ⟨"books", .bound⟩ .empty)).Ends
        ((backwards (crowd (2 ^ 63))).handle storedMeaning) () _ () :=
      ends_scalar_lineup (by decide) rfl plainNames_empty
    have hlength : ((backwards (crowd (2 ^ 63))).rows.filter
        (accepts storedMeaning .bound (OrderedMap.empty : Filter).entries)).length = 2 ^ 63 :=
      length_crowd storedMeaning (2 ^ 63) .bound
    rw [hlength] at hscalar
    obtain ⟨e, he⟩ := ends_count_refused hscalar {}
    cases (h.counted {}).1.symm.trans he.1

end Store
end TableKeeper
