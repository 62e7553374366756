import TableKeeper.Proofs.Sql.Changes

/-!
  TableKeeper.Proofs.Sql.Scopes — the rows that a count and a DELETE are about, and how they are read.

  1. Both are about the rows of a table that a condition accepts (`Scope`). A count of all
     rows has no groups, no order and no bounds; with any of them it is something else
     (`Select.counted?`).
  2. The statements that count and remove are about the rows that their filter accepts
     (`Statement.counted?_count`, `Statement.removed?_delete`).
-/

namespace TableKeeper.Sql

/-- The rows of a table that a condition accepts. -/
structure Scope where
  table : String
  keep : Tuple → Bool

/-- The column is the number of all rows. -/
def ResultColumn.isCount : ResultColumn → Bool
  | .expr (.call name _ false [] none) none _ => Grammar.upper name == "COUNT"
  | _ => false

/-- The rows that a SELECT counts. -/
def Select.counted? (m : Meaning) (params : List Value) : Select → Option Scope
  | ⟨[], .select ⟨false, [column], [source], condition, [], none⟩, [], [], none, none⟩ => do
    if !column.isCount then none
    return { table := ← source.table?, keep := ← condition? m params condition }
  | _ => none

/-- The rows that a DELETE removes. -/
def Delete.removed? (m : Meaning) (params : List Value) : Delete → Option Scope
  | ⟨⟨⟨none, table⟩, none⟩, none, condition, [], []⟩ => do
    return { table, keep := ← condition? m params condition }
  | _ => none

def Statement.counted? (m : Meaning) (s : Statement) : Option Scope :=
  match s.parsed? with
  | some (.select q) => q.counted? m s.params
  | _ => none

def Statement.removed? (m : Meaning) (s : Statement) : Option Scope :=
  match s.parsed? with
  | some (.delete d) => d.removed? m s.params
  | _ => none

/-- The number of rows is the name of no column. -/
theorem ResultColumn.name?_isCount {c : ResultColumn} (h : c.isCount = true) : c.name? = none := by
  unfold isCount at h
  split at h
  · rfl
  · cases h

theorem Select.counted?_of_query? {m : Meaning} {params : List Value} {s : Select} {q : Query}
    (h : s.query? m params = some q) : s.counted? m params = none := by
  unfold Select.counted?
  split
  · rename_i column source condition
    have hshown : column.isCount = false := by
      rw [← Bool.not_eq_true]
      intro hcount
      have hname := ResultColumn.name?_isCount hcount
      have hprojection : projection? [column] = none := by
        cases column with
        | expr e label text => simp [projection?, hname]
        | _ => cases hcount
      simp [Select.query?, hprojection] at h
    simp [hshown]
  · rfl

/-- What asks for rows counts none. -/
theorem Statement.counted?_of_query? {m : Meaning} {s : Statement} {q : Query} (h : s.query? m = some q) :
    s.counted? m = none := by
  obtain ⟨q', hparsed, hq⟩ : ∃ q', s.parsed? = some (.select q') ∧ q'.query? m s.params = some q := by
    unfold Statement.query? at h
    split at h
    · rename_i q' hparsed
      exact ⟨q', hparsed, h⟩
    · cases h
  unfold Statement.counted?
  rw [hparsed]
  exact Select.counted?_of_query? hq

/-- What adds rows or sets columns removes none. -/
theorem Statement.removed?_of_change? {m : Meaning} {s : Statement} {c : Change} (h : s.change? m = some c) :
    s.removed? m = none := by
  unfold Statement.removed?
  split
  · rename_i d hparsed
    simp [Statement.change?, hparsed] at h
  · rfl

namespace Grammar

variable {n : Nested} {m : Meaning} {params : List Value} {t : Token} {ts : List Token} {k : Nat} {b : ListBinding}

/-! ## Counts -/

/-- The tokens of the number of all rows. -/
def countTokens : List Token := [.word "count", .symbol "(", .symbol "*", .symbol ")"]

theorem takes_operand_count (hf : keywordOf t ≠ some "FILTER") (fuel : Nat) :
    Takes n (operand (fuel + 3)) ⟨countTokens ++ t :: ts, k⟩ ⟨t :: ts, k⟩
      fun e => ∃ offset, e = .call "count" offset false [] none := by
  refine takes_operand_word (by decide) _ fun offset => ?_
  rw [named]
  refine (takes_symbol? _).step (.neg (by decide) ?_)
  refine Takes.step (a := (false, [])) (v := ⟨t :: ts, k⟩) ?_ ?_
  · rw [arguments]
    exact (takes_symbol? _).step (.pos rfl ((takes_symbol _).bind fun _ _ => .done rfl))
  · refine Takes.step (a := none) (v := ⟨t :: ts, k⟩) ?_ (.done ⟨offset, rfl⟩)
    rw [filter?]
    refine (takes_isKeyword _).step (takes_second.step (.pos ?_ (.done rfl)))
    simp [hf]

theorem takes_countColumn (hn : Unbounded n) (ht : Closes t) (hf : keywordOf t ≠ some "FILTER") :
    Takes n resultColumn ⟨countTokens ++ t :: ts, k⟩ ⟨t :: ts, k⟩ fun c => c.isCount = true := by
  have hexpr : Takes n expr ⟨countTokens ++ t :: ts, k⟩ ⟨t :: ts, k⟩
      fun e => ∃ offset, e = .call "count" offset false [] none := by
    refine takes_expr (fun e _ => hn.height e.height) fun fuel hfuel => ?_
    obtain ⟨fuel, rfl⟩ : ∃ f, fuel = f + 5 := ⟨fuel - 5, by omega⟩
    refine takes_alone (takes_prefixed (by decide) rfl (takes_operand_count hf fuel)) fun op hop => ?_
    simp [ht.2.2.1] at hop
  refine (leaves_symbol? (by decide)).step (.neg (by decide) ?_)
  refine (leaves_starredTable? (by decide)).step (takes_get.bind fun _ _ => hexpr.bind fun e he => ?_)
  refine takes_get.bind fun _ _ => (leaves_label? ht.2.2.2.1 ht.2.2.2.2).step (.done ?_)
  obtain ⟨offset, rfl⟩ := he
  have hword : upper "count" = "COUNT" := by decide
  simp [ResultColumn.isCount, hword]

theorem takesColumns_count (hn : Unbounded n) :
    TakesColumns n countTokens fun cs => ∃ c, cs = [c] ∧ c.isCount = true := by
  refine ⟨fun rest => ⟨.word "count", _, rfl, by decide⟩, fun rest k => ?_⟩
  have hcolumn : TakesBare n resultColumn (fun (_ : Unit) c => c.isCount = true) (fun _ => countTokens)
      (.word "FROM") () := by
    intro t' ts k ht
    have hends : Closes t' ∧ keywordOf t' ≠ some "FILTER" := by rcases ht with rfl | rfl <;> decide
    exact takes_countColumn hn hends.1 hends.2
  have hlist : Takes n (list resultColumn) ⟨countTokens ++ .word "FROM" :: rest, k⟩ _ _ :=
    takes_bareList (by decide) (List.cons_ne_nil () []) (by simp [countTokens]) (fun _ _ => hcolumn) k
  refine hlist.weaken fun cs hcs => ?_
  cases hcs with
  | cons hc hcs =>
    cases hcs
    exact ⟨_, rfl, hc⟩

/-- A count is about the rows that its filter accepts. -/
theorem takes_count (hn : Unbounded n) (table : String) {f : Filter} (hv : SentFrom params k (valuesFor b f.entries)) :
    Takes n (plainSelect []) ⟨(Request.slots b table (.count f)).map Slot.token ++ [.ending], k⟩
      ⟨[.ending], k + (valuesFor b f.entries).length⟩
      fun q => q.counted? m params = some ⟨table, accepts m b f.entries⟩ := by
  have htokens : (Request.slots b table (.count f)).map Slot.token ++ [.ending] =
      .word "SELECT" :: (countTokens ++ .word "FROM" :: .name '`' table ::
        ((filterSlots b f).map Slot.token ++ [.ending])) := by
    simp [Request.slots, clauseSlots_default, countTokens, Slot.token]
  rw [htokens]
  refine (takes_single (q := fun p => ∃ column condition, column.isCount = true ∧
    condition? m params condition = some (accepts m b f.entries) ∧ p = (.select
      { columns := [column], sources := [tableSource table], condition }, {})) ?_).weaken ?_
  · refine (leaves_keyword? (by decide)).step (.neg (by decide) ((takes_keyword (by decide)).bind fun _ _ => ?_))
    refine (takes_core (hn.fits _ _ _) (by simp) (takesColumns_count hn) table).bind fun c hc => ?_
    obtain ⟨_, condition, rfl, ⟨column, rfl, hcolumn⟩, hcondition⟩ := hc
    refine Takes.step (a := []) ((leaves_keyword? (by decide)).step (.neg (by decide) (.done rfl))) ?_
    refine Takes.step (a := (none, none)) ((leaves_keyword? (by decide)).step (.neg (by decide) (.done rfl))) ?_
    exact .done ⟨column, condition, hcolumn, hcondition.accepts hv, rfl⟩
  · rintro q ⟨p, ⟨column, condition, hcolumn, hcondition, rfl⟩, rfl⟩
    simp [Select.counted?, Source.table?, tableSource, hcolumn, hcondition]

/-! ## Removals -/

/-- A DELETE is about the rows that its filter accepts. -/
theorem takes_delete (hn : Unbounded n) (table : String) {f : Filter}
    (hv : SentFrom params k (valuesFor b f.entries)) :
    Takes n delete ⟨.word "FROM" :: .name '`' table :: ((filterSlots b f).map Slot.token ++ [.ending]), k⟩
      ⟨[.ending], k + (valuesFor b f.entries).length⟩
      fun d => { d with named := [] }.removed? m params = some ⟨table, accepts m b f.entries⟩ := by
  have hnext : ∀ t ∈ [.word "WHERE", Token.ending], t ≠ .symbol "." ∧ keywordOf t ≠ some "AS" ∧ ClosesSource t := by
    decide
  obtain ⟨t', ts', hfilter, ht'⟩ := (beginsWith_filter b f).next [] (List.mem_singleton_self Token.ending)
  obtain ⟨hd, ha, hsource⟩ := hnext t' ht'
  refine (takes_keyword (by decide)).bind fun _ _ => ?_
  rw [hfilter]
  refine (takes_subject hd ha table).step ((leaves_indexHint? hsource).step ?_)
  rw [← hfilter]
  refine (takes_where (hn.fits _ _ _) (by decide) (by decide) (by decide)).bind fun condition hcondition => ?_
  refine (leaves_returning (by decide)).step (.done ?_)
  simp [Delete.removed?, hcondition.accepts hv]

end Grammar

open Grammar

variable {m : Meaning} {b : ListBinding} {table : String} {f : Filter} {s : Statement}

theorem Statement.counted?_count
    (hs : tokens s.sql.toList = (Request.slots b table (.count f)).map Slot.token ++ [.ending])
    (hp : s.params = valuesFor b f.entries) : s.counted? m = some ⟨table, accepts m b f.entries⟩ := by
  have hsent : SentFrom s.params 0 (valuesFor b f.entries) := hp ▸ List.prefix_rfl
  have hreads : ∀ n, Unbounded n → Takes n parsed
      ⟨(Request.slots b table (.count f)).map Slot.token ++ [.ending], 0⟩ ⟨[.ending], s.params.length⟩
      fun p => ∃ q, p = .select q ∧ q.counted? m s.params = some ⟨table, accepts m b f.entries⟩ := by
    intro n hn
    refine takes_queryOrChange (w := "SELECT") (by decide) (by decide) rfl ?_
    have hcount := takes_count (m := m) hn table hsent
    rw [← hp, Nat.zero_add] at hcount
    exact hcount.bind fun q hq => .done ⟨q, rfl, hq⟩
  obtain ⟨p, hparsed, q, rfl, hq⟩ := Statement.parsed?_of_takes hs (by simp [Slot.token]) (by simp [Slot.token])
    (by simp) hreads
  unfold Statement.counted?
  rw [hparsed]
  exact hq

theorem Statement.removed?_delete
    (hs : tokens s.sql.toList = (Request.slots b table (.delete f)).map Slot.token ++ [.ending])
    (hp : s.params = valuesFor b f.entries) : s.removed? m = some ⟨table, accepts m b f.entries⟩ := by
  have hsent : SentFrom s.params 0 (valuesFor b f.entries) := hp ▸ List.prefix_rfl
  have htokens : (Request.slots b table (.delete f)).map Slot.token ++ [.ending] =
      .word "DELETE" :: .word "FROM" :: .name '`' table :: ((filterSlots b f).map Slot.token ++ [.ending]) := by
    simp [Request.slots, clauseSlots_default, Slot.token]
  rw [htokens] at hs
  have hreads : ∀ n, Unbounded n → Takes n parsed
      ⟨.word "DELETE" :: .word "FROM" :: .name '`' table :: ((filterSlots b f).map Slot.token ++ [.ending]), 0⟩
      ⟨[.ending], s.params.length⟩
      fun p => ∃ d, p = .delete d ∧ d.removed? m s.params = some ⟨table, accepts m b f.entries⟩ := by
    intro n hn
    refine takes_queryOrChange (w := "DELETE") (by decide) (by decide) rfl (takes_advance.bind fun _ _ => ?_)
    have hdelete := takes_delete (m := m) hn table hsent
    rw [← hp, Nat.zero_add] at hdelete
    exact hdelete.bind fun d hd => .done ⟨_, rfl, hd⟩
  obtain ⟨p, hparsed, d, rfl, hd⟩ := Statement.parsed?_of_takes hs (by simp) (by simp) (by simp) hreads
  unfold Statement.removed?
  rw [hparsed]
  exact hd

end TableKeeper.Sql
