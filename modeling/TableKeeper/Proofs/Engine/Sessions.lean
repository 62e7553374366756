import TableKeeper.Engine.Session
import TableKeeper.Proofs.Engine.TableQueries

/-!
  TableKeeper.Proofs.Engine.Sessions — the text of a query as a session runs it.

  1. A text that is one statement is prepared as what is read of it, and nothing stands behind
     it (`prepare_of_takes`). The session reads within the bounds of the engine, and a text up
     to its first NUL.
  2. Of a listing under two bindings the session reads both statements or refuses both: their
     conditions are equally deep. What it reads gives the same rows, if the items of the lists
     are alike beside their columns (`Lists.query_same`).
-/

namespace TableKeeper.Engine.Session

open Sql Sql.Grammar

variable {s : Session} {sql : String} {t : Token} {ts : List Token} {k : Nat} {q : Parsed → Prop}

/-! ## Preparing -/

/-- The text is cut at no NUL. -/
def IsWhole (sql : String) : Prop := ∀ c ∈ sql.toList, c.toNat ≠ 0

-- By the characters of the text, and not by all that there are.
instance (sql : String) : Decidable (IsWhole sql) := List.decidableBAll (fun c : Char => c.toNat ≠ 0) sql.toList

/-- Behind the one statement of a text is nothing. -/
theorem textAfter_all {rest : List Lexeme} (h : Lexes sql.toList (t :: ts)) (hw : IsWhole sql)
    (hrest : rest.map (·.token) = [.ending]) : textAfter sql (lex sql) rest = "" := by
  have hlength : rest.length = 1 := by
    rw [← List.length_map (f := fun l : Lexeme => l.token), hrest]
    rfl
  have hread := h.length_read (sql.toList.length + 1) 0 0 (Nat.lt_succ_self _)
  rw [Nat.zero_add] at hread
  rw [textAfter, lex_eq_lexemes hw, hlength, ← List.dropLast_eq_take, lexemes, hread, List.drop_length]

theorem prepareFirst_empty (s : Session) : s.prepareFirst "" = .ok none := rfl

/-- A text with one statement is prepared as what is read of it. -/
theorem prepare_of_takes (h : Lexes sql.toList (t :: ts)) (hw : IsWhole sql) (hb : t ≠ .symbol ";") (he : t ≠ .ending)
    (hq : ∀ c, ¬q (.createTable c))
    (ht : ∀ n : Nested, n.limits = .engine → Takes n parsed ⟨t :: ts, 0⟩ ⟨[.ending], k⟩ q) (s : Session) :
    ∃ p, q p ∧ s.prepare sql =
      match s.prepareParsed p with
      | .error f => .error (f.text sql)
      | .ok body => .ok ⟨body, k⟩ := by
  have hls : (lex sql).map (·.token) = t :: ts := by
    rw [lex_eq_lexemes hw]
    exact h.tokens_eq
  obtain ⟨r, hread, hrest, rfl, hr⟩ := readStatement_of_takes hls hb he hq ht
  refine ⟨r.parsed, hr, ?_⟩
  rw [prepare, prepareFirst]
  simp only [hread]
  cases s.prepareParsed r.parsed with
  | error f => rfl
  | ok body =>
    simp only [textAfter_all h hw hrest, prepareFirst_empty]

/-- A text that breaks the reader is not prepared. -/
theorem prepare_of_breaks (h : Lexes sql.toList (t :: ts)) (hw : IsWhole sql) (hb : t ≠ .symbol ";") (he : t ≠ .ending)
    (ht : ∀ n : Nested, n.limits = .engine → Breaks n parsed ⟨t :: ts, 0⟩) (s : Session) :
    ∃ e, s.prepare sql = .error e := by
  have hls : (lex sql).map (·.token) = t :: ts := by
    rw [lex_eq_lexemes hw]
    exact h.tokens_eq
  obtain ⟨f, hread⟩ := readStatement_of_breaks hls hb he ht
  refine ⟨(Fault.grammar f).text sql, ?_⟩
  rw [prepare, prepareFirst]
  simp only [hread]

/-! ## Querying -/

/-- The rows of a query do not depend on how the session holds the database. -/
theorem step_select (s : Session) (q : PreparedSelect) (n : Nat) (params : List Value) :
    (s.step ⟨.select q, n⟩ params).1 =
      runSelect { params := params.toArray, counters := ⟨(s.holding .reading).lastInsert, (s.holding .reading).changes⟩ } q := by
  rfl

/-- What a text that is prepared as a query gives. -/
theorem query_select {params : List Value} {p : PreparedSelect} (h : s.prepare sql = .ok ⟨.select p, params.length⟩) :
    (s.query sql params).1 = .ok (RowCursor.items
      { polls := (s.step ⟨.select p, params.length⟩ params).1.map pollOf, columns := p.columns }) := by
  have hcount : checkParameters ⟨.select p, params.length⟩ params = .ok () := by
    rw [checkParameters, Nat.min_eq_left (Nat.le_succ _), if_pos rfl]
  rw [query, h]
  simp only [hcount]
  rfl

theorem query_fault {params : List Value} {e : String} (h : s.prepare sql = .error e) :
    (s.query sql params).1.toOption = none := by
  rw [query, h]
  rfl

/-- Queries that are prepared alike give the same rows, or both fail. -/
theorem query_same {sql sql' : String} {params params' : List Value} {r r' : Except Fault PreparedSelect}
    (hp : s.prepare sql = match r with
      | .error f => .error (f.text sql)
      | .ok q => .ok ⟨.select q, params.length⟩)
    (hp' : s.prepare sql' = match r' with
      | .error f => .error (f.text sql')
      | .ok q => .ok ⟨.select q, params'.length⟩)
    (h : Both (fun q q' => q.columns = q'.columns ∧ ∀ f : Frame,
      runSelect { f with params := params.toArray } q = runSelect { f with params := params'.toArray } q') r r') :
    (s.query sql params).1.toOption = (s.query sql' params').1.toOption := by
  cases r with
  | error f =>
    cases r' with
    | error f' => rw [query_fault hp, query_fault hp']
    | ok q' => exact h.elim
  | ok q =>
    cases r' with
    | error f' => exact h.elim
    | ok q' =>
      obtain ⟨hcolumns, hrows⟩ := h
      have hsame := hrows { params := #[], counters := ⟨(s.holding .reading).lastInsert, (s.holding .reading).changes⟩ }
      rw [query_select hp, query_select hp', step_select, step_select, hcolumns]
      rw [hsame]

/-! ## Listings -/

variable {db : Database} {tb : Table} {table : String} {b b' : ListBinding} {f : Filter} {o : QueryOptions}

/-- The text and the values are those of a listing under a binding, and they are not too large
for the engine. -/
structure Lists (b : ListBinding) (table : String) (f : Filter) (o : QueryOptions) (st : Statement) : Prop where
  text : Lexes st.sql.toList ((Request.slots b table (.rows f o)).map Slot.token ++ [.ending])
  whole : IsWhole st.sql
  values : st.params = valuesFor b f.entries
  count : st.params.length ≤ parameterLimit

/-- The condition of some entries is deeper than an expression may be. -/
def TooDeep (es : List (String × Constraint)) : Prop :=
  ∃ b k c, IsCondition b k es (some c) ∧ heightLimit < c.height

theorem fits_engine {n : Nested} (hn : n.limits = .engine) (hcount : (valuesFor b f.entries).length ≤ parameterLimit)
    (hdeep : ¬TooDeep f.entries) : Fits n b 0 f := by
  refine ⟨fun h hh => ?_, fun i hi => ?_, fun c hc => ?_⟩
  · rw [hn]
    exact decide_eq_true (Nat.le_trans hh (by decide))
  · rw [hn]
    exact decide_eq_true (by omega)
  · rw [hn]
    exact decide_eq_true (Nat.le_of_not_lt fun h => hdeep ⟨b, 0, c, hc, h⟩)

theorem breaks_tooDeep {n : Nested} (hn : n.limits = .engine) (hcount : (valuesFor b f.entries).length ≤ parameterLimit)
    (hdeep : TooDeep f.entries) (table : String) (ho : o.fields ≠ some []) :
    Breaks n (plainSelect []) ⟨(Request.slots b table (.rows f o)).map Slot.token ++ [.ending], 0⟩ := by
  obtain ⟨b', k', c', hc', hheight⟩ := hdeep
  have hne : f.entries ≠ [] := by
    intro hnil
    rw [hnil] at hc'
    cases hc'
  refine breaks_deep (fun h hh => ?_) (fun i hi => ?_) hne (fun c hc => ?_) table ho
  · rw [hn]
    exact decide_eq_true (Nat.le_trans hh (by decide))
  · rw [hn]
    exact decide_eq_true (by omega)
  · rw [hn]
    exact decide_eq_false (by rw [hc.height hc']; exact Nat.not_le.mpr hheight)

namespace Lists

variable {st st' : Statement}

theorem prepare_of_fits (h : Lists b table f o st) (hdeep : ¬TooDeep f.entries) (ho : o.fields ≠ some []) (s : Session) :
    ∃ q, IsSelect b table f o 0 q ∧ s.prepare st.sql =
      match prepareSelect s.context q with
      | .error fault => .error (fault.text st.sql)
      | .ok q => .ok ⟨.select q, st.params.length⟩ := by
  have htext := h.text
  have hcount := h.values ▸ h.count
  rw [tokens_select] at htext
  obtain ⟨p, ⟨q, rfl, hq⟩, hprepare⟩ := prepare_of_takes htext h.whole (by simp) (by simp) (by simp)
    (fun n hn => tokens_select b table f o ▸ takes_rows (fits_engine hn hcount hdeep) table ho) s
  refine ⟨q, hq, ?_⟩
  rw [hprepare, h.values, prepareParsed]
  cases prepareSelect s.context q <;> rfl

theorem query_of_breaks (h : Lists b table f o st) (hb : ∀ n : Nested, n.limits = .engine →
    Breaks n (plainSelect []) ⟨(Request.slots b table (.rows f o)).map Slot.token ++ [.ending], 0⟩) (s : Session) :
    (s.query st.sql st.params).1.toOption = none := by
  have htext := h.text
  rw [tokens_select] at htext
  obtain ⟨e, he⟩ := prepare_of_breaks htext h.whole (by simp) (by simp)
    (fun n hn => tokens_select b table f o ▸ breaks_rows (hb n hn)) s
  exact query_fault he

/-- What the session gives, worked out on the query that the statement is. -/
theorem query_eq {q : Select} {c : Expr} (h : Lists b table f o st) (hq : IsSelect b table f o 0 q) (ho : o.fields ≠ some [])
    (hc : IsCondition b 0 f.entries (some c)) (hheight : c.height ≤ heightLimit) (hdb : s.database = .ok db)
    (ht : db.relation? { name := table } = some (.table tb)) :
    (s.query st.sql st.params).1.toOption = (prepareSelect db.context q).toOption.map fun r => RowCursor.items
      { polls := (s.step ⟨.select r, st.params.length⟩ st.params).1.map pollOf, columns := r.columns } := by
  have hdeep : ¬TooDeep f.entries := by
    rintro ⟨b', k', c', hc', hlt⟩
    rw [hc'.height hc] at hlt
    exact absurd hheight (Nat.not_le.mpr hlt)
  obtain ⟨q', hq', hprepare⟩ := h.prepare_of_fits hdeep ho s
  have hcontext : s.context = db.context := by rw [context, hdb]
  have hsent : SentFrom st.params 0 (valuesFor b f.entries) := h.values ▸ List.prefix_rfl
  have hboth := both_select ht hq' hq hsent hsent fun _ _ _ _ _ _ _ _ => rfl
  rw [hcontext] at hprepare
  cases hr : prepareSelect db.context q' with
  | error fault =>
    rw [hr] at hprepare hboth
    cases hr' : prepareSelect db.context q with
    | error fault' => exact query_fault hprepare
    | ok r' =>
      rw [hr'] at hboth
      exact hboth.elim
  | ok r =>
    rw [hr] at hprepare hboth
    obtain ⟨r', hr', hcolumns, hrows⟩ := hboth.left
    rw [query_select hprepare, step_select, hr', hcolumns]
    have hsame := hrows { params := #[], counters := ⟨(s.holding .reading).lastInsert, (s.holding .reading).changes⟩ }
    rw [hsame]
    rfl

/-- One listing under two bindings: the session gives the same rows in the same order, or fails. -/
theorem query_same (h : Lists b table f o st) (h' : Lists b' table f o st') (hdb : s.database = .ok db)
    (ht : db.relation? { name := table } = some (.table tb)) (hw : HandedAlike tb b b' f.entries) :
    (s.query st.sql st.params).1.toOption = (s.query st'.sql st'.params).1.toOption := by
  have hcount := h.values ▸ h.count
  have hcount' := h'.values ▸ h'.count
  by_cases ho : o.fields = some []
  · rw [h.query_of_breaks fun n _ => breaks_noColumn ho b table, h'.query_of_breaks fun n _ => breaks_noColumn ho b' table]
  · by_cases hdeep : TooDeep f.entries
    · rw [h.query_of_breaks fun n hn => breaks_tooDeep hn hcount hdeep table ho,
        h'.query_of_breaks fun n hn => breaks_tooDeep hn hcount' hdeep table ho]
    · obtain ⟨q, hq, hprepare⟩ := h.prepare_of_fits hdeep ho s
      obtain ⟨q', hq', hprepare'⟩ := h'.prepare_of_fits hdeep ho s
      have hcontext : s.context = db.context := by rw [context, hdb]
      rw [hcontext] at hprepare hprepare'
      refine Session.query_same hprepare hprepare' ?_
      exact both_select ht hq hq' (h.values ▸ List.prefix_rfl) (h'.values ▸ List.prefix_rfl) hw

end Lists

end TableKeeper.Engine.Session
