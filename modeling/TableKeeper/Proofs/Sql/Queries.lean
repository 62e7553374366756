import TableKeeper.Proofs.Sql.Numerals
import TableKeeper.Proofs.Sql.Requests
import TableKeeper.Proofs.Sql.Statements

/-!
  TableKeeper.Proofs.Sql.Queries — a SELECT of a table as it is read.

  1. Each clause is read from its slots, whatever clause comes next: a token that begins a
     clause goes on nothing that stands in front of it (`Closes`, `ClosesSource`).
  2. What is read asks for what the filter and the options do (`takes_select`,
     `Statement.query?_rows`).
-/

namespace TableKeeper.Sql

/-- Limits and offsets of 63 bits. -/
structure SmallPage (o : QueryOptions) : Prop where
  limit : ∀ x ∈ o.limit, x.toNat < 2 ^ 63
  offset : ∀ x ∈ o.offset, x.toNat < 2 ^ 63

namespace Grammar

variable {n : Nested} {m : Meaning} {params : List Value} {t : Token} {ts : List Token} {k : Nat} {b : ListBinding}

/-! ## Result columns -/

/-- The token closes a column that stands alone. -/
def Closes (t : Token) : Prop :=
  t ≠ .symbol "." ∧ t ≠ .symbol "(" ∧ Infix.ofToken? t = none ∧ keywordOf t ≠ some "AS" ∧ labelOf? t = none

instance (t : Token) : Decidable (Closes t) := inferInstanceAs (Decidable (_ ∧ _ ∧ _ ∧ _ ∧ _))

theorem leaves_starredTable? {t' : Token} (h : t' ≠ .symbol ".") :
    Takes n starredTable? ⟨t :: t' :: ts, k⟩ ⟨t :: t' :: ts, k⟩ (· = none) := by
  refine takes_get.bind fun c hc => ?_
  obtain ⟨l, ls, hrest, -, hls⟩ := hc.cons
  rw [hrest]
  match ls with
  | [] => simp at hls
  | [_] => exact .done rfl
  | b :: d :: ls =>
    have hb : (b.token == .symbol ".") = false := by
      simp only [List.map_cons, List.cons.injEq] at hls
      simpa [hls.1] using h
    dsimp only
    rw [hb]
    cases nameOf? l.token <;> exact .done rfl

theorem takes_columnExpr (hn : Shallow n) (hd : t ≠ .symbol ".") (hp : t ≠ .symbol "(")
    (hi : Infix.ofToken? t = none)
    (s : String) : Takes n expr ⟨.name '`' s :: t :: ts, k⟩ ⟨t :: ts, k⟩ (IsColumn s) := by
  have hheight : ∀ e, IsColumn s e → n.limits.allowsHeight e.height = true := by
    rintro e ⟨offset, rfl⟩
    exact hn 1 (by decide)
  refine takes_expr hheight fun fuel hf => ?_
  obtain ⟨fuel, rfl⟩ : ∃ f, fuel = f + 4 := ⟨fuel - 4, by omega⟩
  exact takes_column hd hp (fun op hop => by simp [hi] at hop) fuel s

theorem takes_resultColumn (hn : Shallow n) (ht : Closes t) (s : String) :
    Takes n resultColumn ⟨.name '`' s :: t :: ts, k⟩ ⟨t :: ts, k⟩ fun c => c.name? = some s := by
  refine (leaves_symbol? (by simp)).step (.neg (by decide) ?_)
  refine (leaves_starredTable? ht.1).step (takes_get.bind fun _ _ => ?_)
  refine (takes_columnExpr hn ht.1 ht.2.1 ht.2.2.1 s).bind fun e he => takes_get.bind fun _ _ => ?_
  refine (leaves_label? ht.2.2.2.1 ht.2.2.2.2).step (.done ?_)
  obtain ⟨offset, rfl⟩ := he
  rfl

/-- What options show of the rows. -/
def projectionOf (fields : Option (List String)) : Projection :=
  match fields with
  | none => .all
  | some ns => .columns ns

/-- The projection of options that show a column. -/
theorem takes_projection (hn : Shallow n) {fields : Option (List String)} (hf : fields ≠ some []) :
    Takes n (list resultColumn) ⟨(projectionSlots fields).map Slot.token ++ .word "FROM" :: ts, k⟩
      ⟨.word "FROM" :: ts, k⟩
      fun cs => projection? cs = some (projectionOf fields) := by
  cases fields with
  | none =>
    have hall : TakesBare n resultColumn (fun (_ : Unit) c => c = .all) (fun _ => [.symbol "*"]) (.word "FROM") () :=
      fun t' ts k _ => (takes_symbol? "*").step (.pos rfl (.done rfl))
    have hlist : Takes n (list resultColumn) ⟨[.symbol "*"] ++ .word "FROM" :: ts, k⟩ _ _ :=
      takes_bareList (by decide) (List.cons_ne_nil () []) (by simp) (fun _ _ => hall) k
    refine hlist.weaken fun cs hcs => ?_
    cases hcs with
    | cons hc hcs =>
      cases hcs
      subst hc
      rfl
  | some ns =>
    have hname : ∀ s ∈ ns, TakesBare n resultColumn (fun s c => ResultColumn.name? c = some s) (fun s => [.name '`' s])
        (.word "FROM") s := fun s _ t' ts k ht => takes_resultColumn hn (by rcases ht with rfl | rfl <;> decide) s
    have htokens : (projectionSlots (some ns)).map Slot.token =
        [Token.symbol ","].intercalate (ns.map fun s => [.name '`' s]) :=
      tokens_commas _ ns
    rw [htokens]
    refine (takes_bareList (by decide) (by simpa using hf) (by simp) hname k).weaken fun cs hcs => ?_
    have hnames := mapM_eq_some_iff.mpr hcs
    unfold projection?
    split
    · simp [List.mapM_cons, ResultColumn.name?] at hnames
    · rw [hnames]
      rfl

/-! ## Sources -/

/-- A table that stands alone. -/
def tableSource (table : String) : Source := { relation := .table { name := table } }

/-- The token goes on no source. -/
def ClosesSource (t : Token) : Prop :=
  t ≠ .symbol "." ∧ t ≠ .symbol "," ∧ labelOf? t = none ∧
    ∀ w ∈ keywordOf t, w ∉ ["AS", "NOT", "INDEXED", "ON", "USING", "JOIN"] ++ joinWords

instance (t : Token) : Decidable (ClosesSource t) := inferInstanceAs (Decidable (_ ∧ _ ∧ _ ∧ ∀ w ∈ keywordOf t, _))

theorem ClosesSource.ne (h : ClosesSource t) {w : String}
    (hw : w ∈ ["AS", "NOT", "INDEXED", "ON", "USING", "JOIN"] ++ joinWords) :
    keywordOf t ≠ some w := fun hk => h.2.2.2 w hk hw

theorem leaves_indexHint? (h : ClosesSource t) : Takes n indexHint? ⟨t :: ts, k⟩ ⟨t :: ts, k⟩ (· = none) := by
  have hnot : (keywordOf t == some "NOT") = false := by simpa using h.ne (w := "NOT") (by decide)
  refine (takes_isKeyword "NOT").step (takes_second.step (.neg (by simp [hnot]) ?_))
  exact (leaves_keyword? (h.ne (by decide))).step (.neg (by decide) (.done rfl))

theorem leaves_joinCondition? (h : ClosesSource t) :
    Takes n joinCondition? ⟨t :: ts, k⟩ ⟨t :: ts, k⟩ (· = (none, none)) := by
  refine (leaves_keyword? (h.ne (by decide))).step (.neg (by decide) ?_)
  exact (leaves_keyword? (h.ne (by decide))).step (.neg (by decide) (.done rfl))

theorem leaves_join? (h : ClosesSource t) : Takes n join? ⟨t :: ts, k⟩ ⟨t :: ts, k⟩ (· = none) := by
  refine (leaves_symbol? h.2.1).step ((leaves_keyword? (h.ne (by decide))).step (.neg (by decide) ?_))
  refine takes_offsetHere.bind fun _ _ => (leaves_oneOf? fun w hw hin => ?_).step (.done rfl)
  exact h.2.2.2 w hw (List.mem_append_right _ (List.mem_filter.mp hin).1)

theorem takes_source (h : ClosesSource t) (fuel : Nat) (s : String) :
    Takes n (source (fuel + 1) {}) ⟨.name '`' s :: t :: ts, k⟩ ⟨t :: ts, k⟩ (· = [tableSource s]) := by
  rw [source]
  refine (leaves_symbol? (by simp)).step (.neg (by decide) ?_)
  refine (takes_tableName h.1).step (Takes.step ?_ (.done rfl))
  refine (leaves_label? (h.ne (by decide)) h.2.2.1).step ((leaves_indexHint? h).step ?_)
  exact (leaves_joinCondition? h).step (.done rfl)

theorem leaves_moreSources (h : ClosesSource t) (fuel : Nat) :
    Takes n (moreSources fuel) ⟨t :: ts, k⟩ ⟨t :: ts, k⟩ (· = []) := by
  cases fuel with
  | zero => exact .done rfl
  | succ fuel =>
    rw [moreSources]
    exact (leaves_join? h).step (.done rfl)

/-- FROM and a table. -/
theorem takes_sources (h : ClosesSource t) (s : String) :
    Takes n sources ⟨.word "FROM" :: .name '`' s :: t :: ts, k⟩ ⟨t :: ts, k⟩ (· = [tableSource s]) := by
  refine (takes_keyword? (by decide)).step (.pos rfl (takes_get.bind fun c hc => ?_))
  have hsize := hc.length_le
  obtain ⟨size, hsize⟩ : ∃ f, c.size = f + 1 := ⟨c.size - 1, by simp at hsize; omega⟩
  rw [hsize]
  refine (takes_source h size s).step ?_
  refine Takes.step (a := ()) (.done rfl) (takes_get.bind fun _ _ => ?_)
  exact (leaves_moreSources h _).step (.done rfl)

/-! ## Order -/

/-- The tokens of an order term. -/
def termTokens (x : String × Direction) : List Token := [.name '`' x.1, .word x.2.text]

theorem takes_groupTerm (hn : Shallow n) (hd : t ≠ .symbol ".") (hp : t ≠ .symbol "(")
    (hi : Infix.ofToken? t = none) (s : String) :
    Takes n groupTerm ⟨.name '`' s :: t :: ts, k⟩ ⟨t :: ts, k⟩
      fun o => o.expr.column? = some s ∧ o.nullsLast = none := by
  refine takes_get.bind fun _ _ => (takes_columnExpr hn hd hp hi s).bind fun e he => .done ⟨?_, rfl⟩
  obtain ⟨offset, rfl⟩ := he
  rfl

theorem takes_orderTerm (hn : Shallow n) (hd : keywordOf t ≠ some "NULLS") (x : String × Direction) :
    Takes n orderTerm ⟨termTokens x ++ t :: ts, k⟩ ⟨t :: ts, k⟩ fun o => o.term? = some x := by
  obtain ⟨s, d⟩ := x
  have hi : Infix.ofToken? (.word d.text) = none := by cases d <;> decide
  refine (takes_groupTerm hn (by simp) (by simp) hi s).bind fun o ho => ?_
  obtain ⟨he, hnulls⟩ := ho
  cases d with
  | ascending =>
    refine (takes_oneOf? (w := "ASC") (by decide) (by decide)).step ?_
    refine (leaves_keyword? hd).step (.neg (by decide) (.done ?_))
    simp [OrderTerm.term?, he, hnulls]
  | descending =>
    refine (takes_oneOf? (w := "DESC") (by decide) (by decide)).step ?_
    refine (leaves_keyword? hd).step (.neg (by decide) (.done ?_))
    simp [OrderTerm.term?, he, hnulls]

theorem takes_orderBy (hn : Shallow n) (hc : t ≠ .symbol ",") (hd : keywordOf t ≠ some "NULLS")
    (ho : keywordOf t ≠ some "ORDER") (o : QueryOptions) :
    Takes n orderBy ⟨(orderSlots o).map Slot.token ++ t :: ts, k⟩ ⟨t :: ts, k⟩ fun terms =>
      terms.mapM OrderTerm.term? = some (orderOf o) := by
  by_cases hnone : orderOf o = []
  · have hslots : orderSlots o = [] := by simp [orderSlots, listingSlots, hnone]
    rw [hslots]
    exact (leaves_keyword? ho).step (.neg (by decide) (.done (by rw [hnone]; rfl)))
  · have htokens : (orderSlots o).map Slot.token =
        .word "ORDER" :: .word "BY" :: [Token.symbol ","].intercalate ((orderOf o).map termTokens) := by
      simp only [orderSlots, listingSlots, List.isEmpty_map, List.isEmpty_iff, hnone, if_false, List.map_append,
        map_intercalate, List.map_map]
      rfl
    have hterm : ∀ x ∈ orderOf o, TakesBare n orderTerm (fun x (o : OrderTerm) => o.term? = some x) termTokens t x :=
      fun x _ t' ts k ht => takes_orderTerm hn (by rcases ht with rfl | rfl; exacts [by decide, hd]) x
    rw [htokens]
    refine (takes_keyword? (by decide)).step (.pos rfl ((takes_keyword (by decide)).bind fun _ _ => ?_))
    exact (takes_bareList hc hnone (by simp [termTokens]) hterm k).weaken fun terms h => mapM_eq_some_iff.mpr h

/-! ## Bounds -/

/-- A numeral as an expression. That of `2 ^ 63` has a token of its own. -/
def numeralExpr (j : Nat) : Expr :=
  match numeral j with
  | .number x => literalOf x
  | _ => .literal lowestReal

theorem numeralExpr_eq {j : Nat} (hj : j < 2 ^ 63) : numeralExpr j = .literal (.integer (.ofInt j)) := by
  rw [numeralExpr, numeral_eq hj]
  rfl

theorem height_numeral (j : Nat) : (numeralExpr j).height ≤ 2 := by
  unfold numeralExpr
  split
  · rename_i x _
    cases x <;> exact Nat.le_succ 1
  · exact Nat.le_succ 1

/-- A numeral, with nothing behind it. -/
theorem takes_numeral {least : Nat} (ht : Infix.ofToken? t = none) (j : Nat) (fuel : Nat) :
    Takes n (expressionOf (fuel + 3) least) ⟨numeral j :: t :: ts, k⟩ ⟨t :: ts, k⟩ (· = numeralExpr j) := by
  have hends : Ends least t := fun op hop => by simp [ht] at hop
  rcases numeral_cases j with ⟨x, hx⟩ | hx
  · rw [numeralExpr, hx]
    exact takes_alone (takes_prefixed (by simp [keywordOf]) rfl (takes_operand_number fuel _)) hends
  · rw [numeralExpr, hx]
    refine takes_alone (takes_prefixed (by simp [keywordOf]) rfl ?_) hends
    rw [operand]
    exact takes_offsetHere.bind fun offset _ => takes_peek.step (takes_advance.bind fun _ _ => .done rfl)

theorem takes_numeralExpr (hn : Shallow n) (ht : Infix.ofToken? t = none) (j : Nat) :
    Takes n expr ⟨numeral j :: t :: ts, k⟩ ⟨t :: ts, k⟩ (· = numeralExpr j) := by
  refine takes_expr (fun e he => he ▸ hn _ (height_numeral j)) fun fuel hf => ?_
  obtain ⟨fuel, rfl⟩ : ∃ f, fuel = f + 3 := ⟨fuel - 3, by omega⟩
  exact takes_numeral ht j fuel

/-- Minus one, which bounds nothing. -/
def minusOne : Expr := .signed .minus (numeralExpr 1)

theorem takes_minusOne (hn : Shallow n) (ht : Infix.ofToken? t = none) :
    Takes n expr ⟨.symbol "-" :: numeral 1 :: t :: ts, k⟩ ⟨t :: ts, k⟩ (· = minusOne) := by
  have hheight : minusOne.height ≤ 2 := by
    rw [minusOne, numeralExpr_eq (by decide)]
    decide
  refine takes_expr (fun e he => he ▸ hn _ hheight) fun fuel hf => ?_
  obtain ⟨fuel, rfl⟩ : ∃ f, fuel = f + 5 := ⟨fuel - 5, by simp at hf; omega⟩
  have hsigned : Takes n (prefixed (fuel + 4)) ⟨.symbol "-" :: numeral 1 :: t :: ts, k⟩ ⟨t :: ts, k⟩ (· = minusOne) := by
    rw [prefixed]
    refine (leaves_keyword? (by simp [keywordOf])).step (.neg (by decide) (takes_peek.step ?_))
    refine takes_advance.bind fun _ _ => takes_peek.step (.neg (by simp [numeral_eq]) ?_)
    exact (takes_numeral ht 1 fuel).step (.done rfl)
  exact takes_alone hsigned fun op hop => by simp [ht] at hop

/-- The bound that a limit and an offset are written as; an offset alone has one too. -/
def limitExpr? : Option UInt64 → Option UInt64 → Option Expr
  | some x, _ => some (numeralExpr x.toNat)
  | none, some _ => some minusOne
  | none, none => none

def offsetExpr? (o : Option UInt64) : Option Expr := o.map fun x => numeralExpr x.toNat

theorem takes_limit {l o : Option UInt64} (hn : Shallow n) (hi : Infix.ofToken? t = none)
    (hlimit : keywordOf t ≠ some "LIMIT") (hoffset : keywordOf t ≠ some "OFFSET") (hc : t ≠ .symbol ",") :
    Takes n limit? ⟨(limitSlots l o ++ offsetSlots o).map Slot.token ++ t :: ts, k⟩ ⟨t :: ts, k⟩
      (· = (limitExpr? l o, offsetExpr? o)) := by
  cases l with
  | some x =>
    cases o with
    | some y =>
      refine (takes_keyword? (by decide)).step (.pos rfl ?_)
      refine (takes_numeralExpr hn (by decide) x.toNat).step ((takes_keyword? (by decide)).step (.pos rfl ?_))
      exact (takes_numeralExpr hn hi y.toNat).step (.done rfl)
    | none =>
      refine (takes_keyword? (by decide)).step (.pos rfl ?_)
      refine (takes_numeralExpr hn hi x.toNat).step ((leaves_keyword? hoffset).step (.neg (by decide) ?_))
      exact (leaves_symbol? hc).step (.neg (by decide) (.done rfl))
  | none =>
    cases o with
    | some y =>
      refine (takes_keyword? (by decide)).step (.pos rfl ?_)
      refine (takes_minusOne hn (by decide)).step ((takes_keyword? (by decide)).step (.pos rfl ?_))
      exact (takes_numeralExpr hn hi y.toNat).step (.done rfl)
    | none => exact (leaves_keyword? hlimit).step (.neg (by decide) (.done rfl))

/-- Small bounds are the numbers that they are written as. -/
theorem bounds_written {l o : Option UInt64} (hl : ∀ x ∈ l, x.toNat < 2 ^ 63) (ho : ∀ x ∈ o, x.toNat < 2 ^ 63) :
    bound? (limitExpr? l o) = some (l.map UInt64.toNat) ∧
      skip? (offsetExpr? o) = some ((o.map UInt64.toNat).getD 0) := by
  have hnat : ∀ x : Nat, ¬((x : Int) < 0) := fun x => by omega
  have hnumeral : ∀ {j : Nat}, j < 2 ^ 63 → (numeralExpr j).integer? = some (j : Int) := fun hj => by
    rw [numeralExpr_eq hj, Expr.integer?, toInt_ofInt hj]
  constructor
  · cases l with
    | some x => simp [limitExpr?, bound?, hnumeral (hl x rfl), hnat]
    | none =>
      cases o with
      | some y => simp [limitExpr?, bound?, minusOne, Expr.integer?, hnumeral (j := 1) (by decide)]
      | none => rfl
  · cases o with
    | some y => simp [offsetExpr?, skip?, hnumeral (ho y rfl)]
    | none => rfl

/-! ## Queries -/

/-- A clause begins with its word, if it is there at all. -/
def BeginsWith (w : String) (slots : List Slot) : Prop := slots = [] ∨ ∃ rest, slots = .word w :: rest

theorem beginsWith_listing (w : String) (more sep : List Slot) (parts : List (List Slot)) :
    BeginsWith w (listingSlots (.word w :: more) sep parts) := by
  unfold listingSlots
  split
  · exact .inl rfl
  · exact .inr ⟨_, rfl⟩

theorem beginsWith_filter (b : ListBinding) (f : Filter) : BeginsWith "WHERE" (filterSlots b f) :=
  beginsWith_listing _ _ _ _

theorem beginsWith_order (o : QueryOptions) : BeginsWith "ORDER" (orderSlots o) := beginsWith_listing _ _ _ _

theorem beginsWith_page (l o : Option UInt64) : BeginsWith "LIMIT" (limitSlots l o ++ offsetSlots o) := by
  cases l with
  | some x => exact .inr ⟨_, rfl⟩
  | none =>
    cases o with
    | some y => exact .inr ⟨_, rfl⟩
    | none => exact .inl rfl

/-- The next token is that of the clause, or of what follows it. -/
theorem BeginsWith.next {w : String} {slots : List Slot} (h : BeginsWith w slots) (ts : List Token)
    {heads : List Token} (ht : t ∈ heads) :
    ∃ t' ts', slots.map Slot.token ++ t :: ts = t' :: ts' ∧ t' ∈ .word w :: heads := by
  rcases h with rfl | ⟨rest, rfl⟩
  · exact ⟨t, ts, rfl, List.mem_cons_of_mem _ ht⟩
  · exact ⟨.word w, _, rfl, List.mem_cons_self⟩

/-- The columns of a SELECT are read up to FROM. -/
structure TakesColumns (n : Nested) (ts : List Token) (q : List ResultColumn → Prop) : Prop where
  /-- The first token is no word that may stand behind SELECT. -/
  first : ∀ rest, ∃ t ts', ts ++ rest = t :: ts' ∧ ∀ w ∈ keywordOf t, w ∉ ["DISTINCT", "ALL"]
  takes : ∀ rest k, Takes n (list resultColumn) ⟨ts ++ .word "FROM" :: rest, k⟩ ⟨.word "FROM" :: rest, k⟩ q

/-- A SELECT of a table up to its condition. -/
theorem takes_core {f : Filter} (hn : Fits n b k f) (ht : t ∈ [.word "ORDER", .word "LIMIT", .ending])
    {shown : List Token} {q : List ResultColumn → Prop} (hshown : TakesColumns n shown q) (table : String) :
    Takes n core ⟨shown ++ .word "FROM" :: .name '`' table :: ((filterSlots b f).map Slot.token ++ t :: ts), k⟩
      ⟨t :: ts, k + (valuesFor b f.entries).length⟩ fun c =>
        ∃ columns condition, c = { columns, sources := [tableSource table], condition } ∧ q columns ∧
          IsCondition b k f.entries condition := by
  have hclosing : ∀ t ∈ [.word "ORDER", .word "LIMIT", Token.ending],
      Infix.ofToken? t = none ∧ keywordOf t ≠ some "ESCAPE" ∧
      keywordOf t ≠ some "WHERE" ∧ keywordOf t ≠ some "GROUP" ∧ keywordOf t ≠ some "HAVING" := by decide
  have hsource : ∀ t ∈ [.word "WHERE", .word "ORDER", .word "LIMIT", Token.ending], ClosesSource t := by decide
  obtain ⟨hi, hescape, hwhere, hgroup, hhaving⟩ := hclosing t ht
  obtain ⟨t', ts', hnext, ht'⟩ := (beginsWith_filter b f).next ts ht
  obtain ⟨t₀, ts₀, hfirst, hword⟩ := hshown.first
    (.word "FROM" :: .name '`' table :: ((filterSlots b f).map Slot.token ++ t :: ts))
  rw [hfirst]
  refine (leaves_oneOf? hword).step ?_
  rw [← hfirst]
  refine (hshown.takes _ k).bind fun columns hcolumns => ?_
  rw [hnext]
  refine (takes_sources (hsource t' ht') table).step ?_
  rw [← hnext]
  refine (takes_where hn hi hescape hwhere).bind fun condition hcondition => ?_
  refine Takes.step (a := []) ((leaves_keyword? hgroup).step (.neg (by decide) (.done rfl))) ?_
  refine (leaves_keyword? hhaving).step (.neg (by decide) (Takes.step (.done rfl) (.done ?_)))
  exact ⟨columns, condition, rfl, hcolumns, hcondition⟩

theorem takesColumns_projection (hn : Shallow n) {fields : Option (List String)} (hf : fields ≠ some []) :
    TakesColumns n ((projectionSlots fields).map Slot.token) fun cs => projection? cs = some (projectionOf fields) := by
  -- The first token of a projection is no word.
  have hfirst : ∀ rest, ∃ t ts,
      (projectionSlots fields).map Slot.token ++ rest = t :: ts ∧ ∀ w ∈ keywordOf t, w ∉ ["DISTINCT", "ALL"] := by
    intro rest
    match fields, hf with
    | none, _ => exact ⟨_, _, rfl, nofun⟩
    | some [s], _ => exact ⟨_, _, rfl, nofun⟩
    | some (s :: s' :: ns), _ => exact ⟨_, _, rfl, nofun⟩
  exact ⟨hfirst, fun rest k => takes_projection hn hf⟩

theorem bound_ofFilter (table : String) (f : Filter) (o : QueryOptions) :
    (Query.ofFilter m table f o).bound = o.limit?.map UInt64.toNat := by
  cases h : o.limit with
  | none => simp [Query.ofFilter, QueryOptions.limit?, h]
  | some x =>
    by_cases hx : x = 0
    · simp [Query.ofFilter, QueryOptions.limit?, h, hx, Option.filter]
    · simp [Query.ofFilter, QueryOptions.limit?, h, hx, Option.filter]

theorem skip_ofFilter (table : String) (f : Filter) (o : QueryOptions) :
    (Query.ofFilter m table f o).skip = (o.offset?.map UInt64.toNat).getD 0 := by
  cases h : o.offset with
  | none => simp [Query.ofFilter, QueryOptions.offset?, h]
  | some x =>
    by_cases hx : x = 0
    · simp [Query.ofFilter, QueryOptions.offset?, h, hx, Option.filter]
    · simp [Query.ofFilter, QueryOptions.offset?, h, hx, Option.filter]

theorem order_ofFilter (table : String) (f : Filter) (o : QueryOptions) :
    (Query.ofFilter m table f o).order = orderOf o := by
  have hterm : ∀ x : String × Int64, (directionOf? x.2).map (x.1, ·) =
      if x.2 = 1 then some (x.1, Direction.ascending) else if x.2 = -1 then some (x.1, .descending) else none := by
    intro x
    by_cases hup : x.2 = QueryOptions.ascending
    · rw [directionOf?, if_pos hup, if_pos (show x.2 = 1 from hup)]
      rfl
    · rw [directionOf?, if_neg hup, if_neg (show ¬x.2 = 1 from hup)]
      by_cases hdown : x.2 = QueryOptions.descending
      · rw [if_pos hdown, if_pos (show x.2 = -1 from hdown)]
        rfl
      · rw [if_neg hdown, if_neg (show ¬x.2 = -1 from hdown)]
        rfl
  simp only [Query.ofFilter, orderOf, hterm]

theorem leaves_moreParts (h : ∀ w ∈ keywordOf t, w ∉ ["UNION", "INTERSECT", "EXCEPT"]) (fuel : Nat) :
    Takes n (moreParts fuel) ⟨t :: ts, k⟩ ⟨t :: ts, k⟩ (· = []) := by
  cases fuel with
  | zero => exact .done rfl
  | succ fuel =>
    rw [moreParts]
    exact Takes.step (a := none) ((leaves_oneOf? h).step (.done rfl)) (.done rfl)

/-- A SELECT that stands alone is its one part. -/
theorem takes_single {u : View} {q : QueryPart × Tail → Prop} (h : Takes n queryPart u ⟨[.ending], k⟩ q) :
    Takes n (plainSelect []) u ⟨[.ending], k⟩ fun s => ∃ p, q p ∧
      s = { first := p.1, order := p.2.order, limit := p.2.limit, offset := p.2.offset } := by
  refine h.bind fun p hp => takes_get.bind fun c _ => ?_
  exact (leaves_moreParts (by simp [keywordOf]) c.size).step (.done ⟨p, hp, rfl⟩)

/-- The query is the SELECT of a filter and options, with parameters from the number `k` on. -/
def IsSelect (b : ListBinding) (table : String) (f : Filter) (o : QueryOptions) (k : Nat) (q : Select) : Prop :=
  ∃ columns condition order,
    q = { first := .select { columns, sources := [tableSource table], condition }, order,
          limit := limitExpr? o.limit? o.offset?, offset := offsetExpr? o.offset? } ∧
      projection? columns = some (projectionOf o.fields) ∧ IsCondition b k f.entries condition ∧
      order.mapM OrderTerm.term? = some (orderOf o)

/-- The tokens of a SELECT, and what follows its columns and its table. -/
theorem tokens_select (b : ListBinding) (table : String) (f : Filter) (o : QueryOptions) :
    (Request.slots b table (.rows f o)).map Slot.token ++ [.ending] =
      .word "SELECT" :: ((projectionSlots o.fields).map Slot.token ++ .word "FROM" :: .name '`' table ::
        ((filterSlots b f).map Slot.token ++ ((orderSlots o).map Slot.token ++
          ((limitSlots o.limit? o.offset? ++ offsetSlots o.offset?).map Slot.token ++ [.ending])))) := by
  simp [Request.slots, clauseSlots, Slot.token]

/-- What stands behind the condition of a SELECT begins with a clause, or is its end. -/
theorem tokens_behind (o : QueryOptions) :
    ∃ t ts, (orderSlots o).map Slot.token ++ ((limitSlots o.limit? o.offset? ++ offsetSlots o.offset?).map Slot.token ++
      [.ending]) = t :: ts ∧ t ∈ [.word "ORDER", .word "LIMIT", Token.ending] := by
  obtain ⟨t₁, ts₁, hpage, ht₁⟩ := (beginsWith_page o.limit? o.offset?).next [] (List.mem_singleton_self Token.ending)
  obtain ⟨t₂, ts₂, horder, ht₂⟩ := (beginsWith_order o).next ts₁ ht₁
  exact ⟨t₂, ts₂, by rw [hpage, horder], ht₂⟩

theorem takes_select {f : Filter} (hn : Fits n b k f) (table : String) {o : QueryOptions} (hf : o.fields ≠ some []) :
    Takes n (plainSelect []) ⟨(Request.slots b table (.rows f o)).map Slot.token ++ [.ending], k⟩
      ⟨[.ending], k + (valuesFor b f.entries).length⟩ (IsSelect b table f o k) := by
  obtain ⟨t₁, ts₁, hpageTokens, ht₁⟩ := (beginsWith_page o.limit? o.offset?).next []
    (List.mem_singleton_self Token.ending)
  obtain ⟨t₂, ts₂, horderTokens, ht₂⟩ := (beginsWith_order o).next ts₁ ht₁
  have hclosing : ∀ t ∈ [.word "LIMIT", Token.ending], t ≠ .symbol "," ∧ keywordOf t ≠ some "NULLS" ∧
      keywordOf t ≠ some "ORDER" := by decide
  obtain ⟨hcomma, hnulls, horder⟩ := hclosing t₁ ht₁
  rw [tokens_select, hpageTokens, horderTokens]
  refine (takes_single (q := fun p => ∃ columns condition order, p = (.select
    { columns, sources := [tableSource table], condition },
      { order, limit := limitExpr? o.limit? o.offset?, offset := offsetExpr? o.offset? }) ∧
      projection? columns = some (projectionOf o.fields) ∧ IsCondition b k f.entries condition ∧
      order.mapM OrderTerm.term? = some (orderOf o)) ?_).weaken ?_
  · refine (leaves_keyword? (by decide)).step (.neg (by decide) ((takes_keyword (by decide)).bind fun _ _ => ?_))
    refine (takes_core hn ht₂ (takesColumns_projection hn.shallow hf) table).bind fun c hc => ?_
    obtain ⟨columns, condition, rfl, hcolumns, hcondition⟩ := hc
    rw [← horderTokens]
    refine (takes_orderBy hn.shallow hcomma hnulls horder o).bind fun order horder => ?_
    rw [← hpageTokens]
    refine (takes_limit hn.shallow (by decide) (by decide) (by decide) (by decide)).step (.done ?_)
    exact ⟨columns, condition, order, rfl, hcolumns, hcondition, horder⟩
  · rintro q ⟨p, ⟨columns, condition, order, rfl, hcolumns, hcondition, horder⟩, rfl⟩
    exact ⟨columns, condition, order, rfl, hcolumns, hcondition, horder⟩

/-- The condition of a SELECT may be too deep. -/
theorem breaks_deep {f : Filter} (hn : Shallow n) (hp : Numbers n (k + (valuesFor b f.entries).length))
    (hf : f.entries ≠ [])
    (hdeep : ∀ c, IsCondition b k f.entries (some c) → n.limits.allowsHeight c.height = false) (table : String)
    {o : QueryOptions} (ho : o.fields ≠ some []) :
    Breaks n (plainSelect []) ⟨(Request.slots b table (.rows f o)).map Slot.token ++ [.ending], k⟩ := by
  have hclosing : ∀ t ∈ [.word "ORDER", .word "LIMIT", Token.ending],
      Infix.ofToken? t = none ∧ keywordOf t ≠ some "ESCAPE" := by decide
  have hsource : ∀ t ∈ [.word "WHERE", .word "ORDER", .word "LIMIT", Token.ending], ClosesSource t := by decide
  obtain ⟨t, ts, hbehind, ht⟩ := tokens_behind o
  obtain ⟨hi, hescape⟩ := hclosing t ht
  obtain ⟨t', ts', hnext, ht'⟩ := (beginsWith_filter b f).next ts ht
  obtain ⟨t₀, ts₀, hfirst, hword⟩ := (takesColumns_projection hn ho).first
    (.word "FROM" :: .name '`' table :: ((filterSlots b f).map Slot.token ++ t :: ts))
  rw [tokens_select, hbehind]
  refine Breaks.bind ?_ _
  refine (leaves_keyword? (by decide)).stepBreaks (.neg (by decide) ?_)
  refine (takes_keyword (by decide)).breaks fun _ _ => Breaks.bind ?_ _
  rw [hfirst]
  refine (leaves_oneOf? hword).stepBreaks ?_
  rw [← hfirst]
  refine ((takesColumns_projection hn ho).takes _ k).breaks fun columns _ => ?_
  rw [hnext]
  refine (takes_sources (hsource t' ht') table).stepBreaks ?_
  rw [← hnext]
  exact (breaks_where hp hf hdeep hi hescape).bind _

/-- Behind SELECT stands no column. -/
theorem breaks_columns (table : String) :
    Breaks n (list resultColumn) ⟨.word "FROM" :: .name '`' table :: ts, k⟩ := by
  -- FROM is reserved, and no name.
  have hoperand : ∀ fuel, Breaks n (operand fuel) ⟨.word "FROM" :: .name '`' table :: ts, k⟩ := by
    intro fuel
    cases fuel with
    | zero => exact breaks_fail
    | succ fuel =>
      rw [operand]
      exact takes_offsetHere.breaks fun offset _ => takes_peek.stepBreaks breaks_fail
  have hexpr : Breaks n expr ⟨.word "FROM" :: .name '`' table :: ts, k⟩ := by
    refine takes_get.breaks fun c _ => Breaks.bind ?_ _
    rw [expressionOf]
    refine Breaks.bind ?_ _
    rw [prefixed]
    exact (leaves_keyword? (by decide)).stepBreaks (.neg (by decide) (takes_peek.stepBreaks (hoperand _)))
  have hcolumn : Breaks n resultColumn ⟨.word "FROM" :: .name '`' table :: ts, k⟩ := by
    refine (leaves_symbol? (by simp)).stepBreaks (.neg (by decide) ?_)
    refine (leaves_starredTable? (by simp)).stepBreaks ?_
    exact takes_get.breaks fun c _ => hexpr.bind _
  refine takes_get.breaks fun c _ => ?_
  cases c.size with
  | zero => exact breaks_fail
  | succ fuel => exact hcolumn.bind _

theorem breaks_select (table : String) :
    Breaks n (plainSelect []) ⟨.word "SELECT" :: .word "FROM" :: .name '`' table :: ts, k⟩ := by
  refine Breaks.bind ?_ _
  refine (leaves_keyword? (by decide)).stepBreaks (.neg (by decide) ?_)
  refine (takes_keyword (by decide)).breaks fun _ _ => Breaks.bind ?_ _
  exact (leaves_oneOf? (by simp [keywordOf, upper, Text.upperChar])).stepBreaks ((breaks_columns table).bind _)

/-- A SELECT is the query that its filter and its options stand for. -/
theorem IsSelect.query? {table : String} {f : Filter} {o : QueryOptions} {q : Select} (h : IsSelect b table f o k q)
    (hpage : SmallPage o) (hv : SentFrom params k (valuesFor b f.entries)) :
    q.query? m params = some (Query.handed m b table f o) := by
  obtain ⟨columns, condition, order, rfl, hcolumns, hcondition, horder⟩ := h
  have hlimit : ∀ x ∈ o.limit?, x.toNat < 2 ^ 63 := fun x hx => hpage.limit x (Option.filter_eq_some_iff.mp hx).1
  have hoffset : ∀ x ∈ o.offset?, x.toNat < 2 ^ 63 := fun x hx => hpage.offset x (Option.filter_eq_some_iff.mp hx).1
  obtain ⟨hbound, hskip⟩ := bounds_written hlimit hoffset
  have hquery : Query.handed m b table f o =
      { table, projection := projectionOf o.fields, keep := accepts m b f.entries,
        order := orderOf o, skip := (o.offset?.map UInt64.toNat).getD 0, bound := o.limit?.map UInt64.toNat } := by
    rw [← bound_ofFilter (m := m) table f o, ← skip_ofFilter (m := m) table f o, ← order_ofFilter
      (m := m) table f o]
    rfl
  simp [hquery, Select.query?, Source.table?, tableSource, hcolumns, hcondition.accepts hv, horder, hbound, hskip]

/-! ## Statements -/

theorem takes_rows {f : Filter} (hn : Fits n b 0 f) (table : String) {o : QueryOptions} (hf : o.fields ≠ some []) :
    Takes n parsed ⟨(Request.slots b table (.rows f o)).map Slot.token ++ [.ending], 0⟩
      ⟨[.ending], (valuesFor b f.entries).length⟩ fun p => ∃ q, p = .select q ∧ IsSelect b table f o 0 q := by
  refine takes_queryOrChange (w := "SELECT") (by decide) (by decide) rfl ?_
  have hselect := takes_select hn table hf
  rw [Nat.zero_add] at hselect
  exact hselect.bind fun q hq => .done ⟨q, rfl, hq⟩

theorem breaks_rows {f : Filter} {o : QueryOptions} {table : String}
    (h : Breaks n (plainSelect []) ⟨(Request.slots b table (.rows f o)).map Slot.token ++ [.ending], k⟩) :
    Breaks n parsed ⟨(Request.slots b table (.rows f o)).map Slot.token ++ [.ending], k⟩ :=
  breaks_queryOrChange (w := "SELECT") (by decide) (by decide) rfl (h.bind _)

/-- A SELECT of no column breaks. -/
theorem breaks_noColumn {f : Filter} {o : QueryOptions} (hf : o.fields = some []) (b : ListBinding) (table : String) :
    Breaks n (plainSelect []) ⟨(Request.slots b table (.rows f o)).map Slot.token ++ [.ending], k⟩ := by
  rw [tokens_select, hf]
  exact breaks_select table

end Grammar

open Grammar

variable {b : ListBinding} {table : String} {f : Filter} {o : QueryOptions} {s : Statement}

/-- The statement of a filter and options is their SELECT. -/
theorem Statement.parsed?_rows
    (hs : tokens s.sql.toList = (Request.slots b table (.rows f o)).map Slot.token ++ [.ending])
    (hp : s.params = valuesFor b f.entries) (hf : o.fields ≠ some []) :
    ∃ q, s.parsed? = some (.select q) ∧ IsSelect b table f o 0 q := by
  obtain ⟨p, hparsed, q, rfl, hq⟩ := Statement.parsed?_of_takes hs (by simp [Slot.token]) (by simp [Slot.token])
    (by simp) fun n hn => hp ▸ takes_rows (hn.fits b 0 f) table hf
  exact ⟨q, hparsed, hq⟩

theorem Statement.query?_rows {m : Meaning}
    (hs : tokens s.sql.toList = (Request.slots b table (.rows f o)).map Slot.token ++ [.ending])
    (hp : s.params = valuesFor b f.entries) (hf : o.fields ≠ some []) (hpage : SmallPage o) :
    s.query? m = some (Query.handed m b table f o) := by
  obtain ⟨q, hparsed, hq⟩ := Statement.parsed?_rows hs hp hf
  have hsent : SentFrom s.params 0 (valuesFor b f.entries) := hp ▸ List.prefix_rfl
  unfold Statement.query?
  rw [hparsed]
  exact hq.query? hpage hsent

end TableKeeper.Sql
