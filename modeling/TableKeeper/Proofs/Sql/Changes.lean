import TableKeeper.Proofs.Sql.Queries

/-!
  TableKeeper.Proofs.Sql.Changes — what an INSERT and an UPDATE ask for, and how they are read.

  1. A change names a table and the values of its columns. An INSERT may catch a clash on
     some columns, and then sets columns of the row that is there (`Change`).
  2. The text of a statement is read by the grammar without bounds, its values stand for its
     parameters, and it is no change when it is anything else (`Statement.change?`).
  3. The statements that write a record ask for what their names say (`change?_insert`,
     `change?_upsert`, `change?_update`).
-/

namespace TableKeeper.Sql

/-! ## Changes -/

/-- What a column of a row that is there is set to. -/
inductive Given where
  | value (v : Value)
  /-- A column of the table with the name. -/
  | column (table name : String)
  deriving DecidableEq

/-- What becomes of a row that clashes with a new one. -/
structure Catch where
  /-- The columns on which the rows clash. -/
  columns : List String
  /-- Unset, the row stays as it is. -/
  overwrite : Option (List (String × Given))

/-- The columns become those of the row that was refused; without any, the row stays. -/
def overwriting (names : List String) : Option (List (String × Given)) :=
  if names = [] then none else some (names.map fun s => (s, .column "excluded" s))

inductive Change where
  | insert (table : String) (columns : List String) (values : List Value) (caught : Option Catch)
  | update (table : String) (assignments : List (String × Value)) (keep : Tuple → Bool)

/-- A clash on the key, caught: the row that is there takes the columns of the record. -/
def keyClash (r : Record) : Catch := ⟨[Record.idColumn], overwriting (overwritten r.names)⟩

/-- The change that an upsert of a record is. -/
def upserting (table : String) (r : Record) : Change := .insert table r.names r.values (some (keyClash r))

/-- The value that an expression is by itself. -/
def Expr.sent? (params : List Value) : Expr → Option Value
  | .literal v => some v
  | .parameter i _ => params[i]?
  | _ => none

def Expr.given? (params : List Value) : Expr → Option Given
  | .column ⟨none, some table, name, .quoted, _⟩ => some (.column table name)
  | e => (e.sent? params).map .value

/-- A column with what `read?` makes of its expression. -/
def assigned? {α : Type} (read? : Expr → Option α) (a : String × Expr) : Option (String × α) :=
  (read? a.2).map fun g => (a.1, g)

def Upsert.catch? (params : List Value) : Upsert → Option Catch
  | ⟨some target, none, .nothing⟩ => do
    return { columns := ← target.mapM fun t => t.term?.map (·.1), overwrite := none }
  | ⟨some target, none, .update assignments none⟩ => do
    return { columns := ← target.mapM fun t => t.term?.map (·.1),
             overwrite := some (← assignments.mapM (assigned? (Expr.given? params))) }
  | _ => none

/-- At most one clash is caught. -/
def caught? (params : List Value) : List Upsert → Option (Option Catch)
  | [] => some none
  | [u] => (u.catch? params).map some
  | _ => none

/-- One row of values for columns that are named. -/
def Insert.change? (params : List Value) : Insert → Option Change
  | ⟨⟨⟨none, table⟩, none⟩, none, some columns, some ⟨[], .values [row], [], [], none, none⟩, upserts, [], []⟩ => do
    return .insert table columns (← row.mapM (Expr.sent? params)) (← caught? params upserts)
  | _ => none

def Update.change? (m : Meaning) (params : List Value) : Update → Option Change
  | ⟨⟨⟨none, table⟩, none⟩, none, none, assignments, [], condition, [], []⟩ => do
    return .update table (← assignments.mapM (assigned? (Expr.sent? params))) (← condition? m params condition)
  | _ => none

def Statement.change? (m : Meaning) (s : Statement) : Option Change :=
  match s.parsed? with
  | some (.insert i) => i.change? s.params
  | some (.update u) => u.change? m s.params
  | _ => none

namespace Grammar

variable {n : Nested} {m : Meaning} {params : List Value} {t : Token} {ts : List Token} {k : Nat}

/-! ## Expressions of their own -/

theorem takes_parameterExpr (hn : Unbounded n) (hi : Infix.ofToken? t = none) :
    Takes n expr ⟨.parameter none :: t :: ts, k⟩ ⟨t :: ts, k + 1⟩ (IsParameter k) := by
  refine takes_expr (fun e _ => hn.height e.height) fun fuel hf => ?_
  obtain ⟨fuel, rfl⟩ : ∃ f, fuel = f + 3 := ⟨fuel - 3, by omega⟩
  exact takes_parameter (hn.numbers _) (fun op hop => by simp [hi] at hop) fuel

/-- The expression is a column of the row that was refused. -/
def IsExcluded (s : String) (e : Expr) : Prop := ∃ offset, e = .column { table := some "excluded", name := s, offset }

theorem takes_excludedExpr (hn : Unbounded n) (hd : t ≠ .symbol ".") (hi : Infix.ofToken? t = none) (s : String) :
    Takes n expr ⟨.word "excluded" :: .symbol "." :: .name '`' s :: t :: ts, k⟩ ⟨t :: ts, k⟩ (IsExcluded s) := by
  refine takes_expr (fun e _ => hn.height e.height) fun fuel hf => ?_
  obtain ⟨fuel, rfl⟩ : ∃ f, fuel = f + 4 := ⟨fuel - 4, by omega⟩
  refine takes_alone (takes_prefixed ?_ rfl (takes_operand_excluded hd fuel s)) fun op hop => by simp [hi] at hop
  decide

theorem sent?_parameter {v : Value} {e : Expr} (h : IsParameter k e) (hv : params[k]? = some v) :
    e.sent? params = some v := by
  obtain ⟨offset, rfl⟩ := h
  exact hv

theorem mapM_sent? {vs : List Value} {es : List Expr} (h : AreParameters k vs es) (hv : SentFrom params k vs) :
    es.mapM (Expr.sent? params) = some vs := by
  induction h with
  | nil => rfl
  | cons he _ ih =>
    obtain ⟨hhead, htail⟩ := hv.head
    simp [List.mapM_cons, sent?_parameter he hhead, ih htail]

/-! ## Subjects and columns -/

theorem takes_subject (hd : t ≠ .symbol ".") (ha : keywordOf t ≠ some "AS") (table : String) :
    Takes n subject ⟨.name '`' table :: t :: ts, k⟩ ⟨t :: ts, k⟩ (· = { table := { name := table } }) :=
  (takes_tableName hd).step ((leaves_alias? ha).step (.done rfl))

/-- The tokens of names in a list. -/
def nameTokens (names : List String) : List Token := [.symbol ","].intercalate (names.map fun s => [.name '`' s])

theorem takes_names {names : List String} (hne : names ≠ []) (ts : List Token) :
    Takes n (bracketed name) ⟨.symbol "(" :: (nameTokens names ++ .symbol ")" :: ts), k⟩ ⟨ts, k⟩ (· = names) := by
  have hname : ∀ s ∈ names, TakesBare n name (fun s a => s = a) (fun s => [.name '`' s]) (.symbol ")") s :=
    fun s _ t' ts k _ => (takes_name rfl).weaken fun a ha => ha.symm
  refine (takes_bareBracketed hne (by simp) hname k).weaken fun as has => ?_
  rw [List.forall₂_eq_eq_eq] at has
  exact has.symm

/-! ## Rows -/

theorem takes_parameterRow (hn : Unbounded n) {vs : List Value} (hne : vs ≠ []) (ts : List Token) :
    Takes n (bracketed expr) ⟨.symbol "(" :: (parameterTokens vs ++ .symbol ")" :: ts), k⟩ ⟨ts, k + vs.length⟩
      (AreParameters k vs) := by
  have hpart : ∀ v ∈ vs, TakesPart n expr 1 (fun k _ e => IsParameter k e) (fun _ => [.parameter none])
      (.symbol ")") v :=
    fun v _ t' ts k ht => takes_parameterExpr hn (by rcases ht with rfl | rfl <;> decide)
  have hlength : k + vs.length = k + 1 * vs.length := by rw [Nat.one_mul]
  rw [hlength]
  exact takes_bracketed hne (by simp) hpart k

/-- VALUES and one row. -/
theorem takes_values (hn : Unbounded n) (hc : t ≠ .symbol ",")
    (ht : ∀ w ∈ keywordOf t, w ∉ ["UNION", "INTERSECT", "EXCEPT"]) {vs : List Value} (hne : vs ≠ []) :
    Takes n select ⟨.word "VALUES" :: .symbol "(" :: (parameterTokens vs ++ .symbol ")" :: t :: ts), k⟩
      ⟨t :: ts, k + vs.length⟩
      fun s => ∃ row, AreParameters k vs row ∧ s = { first := .values [row] } := by
  refine (leaves_namedQueries (by decide)).step ?_
  refine Takes.bind (q := fun p => ∃ row, AreParameters k vs row ∧ p = (.values [row], {}))
    (v := ⟨t :: ts, k + vs.length⟩) ?_ ?_
  · refine (takes_keyword? (by decide)).step (.pos rfl (Takes.bind (q := fun rows => ∃ row, AreParameters k vs row ∧
      rows = [row]) (v := ⟨t :: ts, k + vs.length⟩) ?_ ?_))
    · refine (takes_parameterRow hn hne (t :: ts)).bind fun row hrow => takes_get.bind fun c _ => ?_
      have hmore : Takes n (moreRows row.length c.size) ⟨t :: ts, k + vs.length⟩
          ⟨t :: ts, k + vs.length⟩ (· = []) := by
        cases c.size with
        | zero => exact .done rfl
        | succ size =>
          rw [moreRows]
          exact (leaves_symbol? hc).step (.neg (by decide) (.done rfl))
      exact hmore.step (.done ⟨row, hrow, rfl⟩)
    · rintro rows ⟨row, hrow, rfl⟩
      exact .done ⟨row, hrow, rfl⟩
  · rintro p ⟨row, hrow, rfl⟩
    refine takes_get.bind fun c _ => (leaves_moreParts ht c.size).step (.done ?_)
    exact ⟨row, hrow, rfl⟩

/-! ## Assignments -/

/-- A column and what stands behind `=`. -/
theorem takes_assignment {j : Nat} {q : Expr → Prop} (s : String) {u : List Token}
    (he : Takes n expr ⟨u, k⟩ ⟨t :: ts, j⟩ q) :
    Takes n assignment ⟨.name '`' s :: .symbol "=" :: u, k⟩ ⟨t :: ts, j⟩ fun as => ∃ e, q e ∧ as = [(s, e)] := by
  refine (takes_isSymbol "(").step (.neg (by simp) ((takes_name rfl).step (Takes.step (a := [s]) (.done rfl) ?_)))
  exact (takes_symbol "=").bind fun _ _ => he.bind fun e h => .done ⟨e, h, rfl⟩

theorem leaves_returning (h : keywordOf t ≠ some "RETURNING") :
    Takes n returning ⟨t :: ts, k⟩ ⟨t :: ts, k⟩ (· = []) :=
  (leaves_keyword? h).step (.neg (by decide) (.done rfl))

/-- The tokens of an assignment of a value. -/
def assignmentTokens (e : String × Value) : List Token := [.name '`' e.1, .symbol "=", .parameter none]

/-- The columns are set to parameters with numbers from `k` on. -/
abbrev AreAssignments (k : Nat) (es : List (String × Value)) (as : List (List (String × Expr))) : Prop :=
  Listed 1 (fun k x as => ∃ e, IsParameter k e ∧ as = [(x.1, e)]) k es as

theorem mapM_assigned? {es : List (String × Value)} {as : List (List (String × Expr))} (h : AreAssignments k es as)
    (hv : SentFrom params k (es.map (·.2))) :
    as.flatten.mapM (assigned? (Expr.sent? params)) = some es := by
  induction h with
  | nil => rfl
  | @cons k x es _ as ha _ ih =>
    obtain ⟨e, he, rfl⟩ := ha
    obtain ⟨hhead, htail⟩ := hv.head
    simp [List.mapM_cons, assigned?, sent?_parameter he hhead, ih htail]

theorem takes_assignments (hn : Unbounded n) (hc : t ≠ .symbol ",") (hi : Infix.ofToken? t = none)
    {es : List (String × Value)} (hne : es ≠ []) (hv : SentFrom params k (es.map (·.2))) :
    Takes n Grammar.assignments ⟨[.symbol ","].intercalate (es.map assignmentTokens) ++ t :: ts, k⟩
      ⟨t :: ts, k + es.length⟩
      fun as => as.mapM (assigned? (Expr.sent? params)) = some es := by
  have hpart : ∀ x ∈ es, TakesPart n assignment 1 (fun k x as => ∃ e, IsParameter k e ∧ as = [(x.1, e)])
      assignmentTokens t x := by
    intro x _ t' ts k ht
    have hends : Infix.ofToken? t' = none := by
      rcases ht with rfl | rfl
      · decide
      · exact hi
    exact takes_assignment x.1 (takes_parameterExpr hn hends)
  have hlength : k + es.length = k + 1 * es.length := by rw [Nat.one_mul]
  rw [hlength]
  exact (takes_list hc hne (by simp [assignmentTokens]) hpart k).bind fun as has => .done (mapM_assigned? has hv)

/-- The tokens of an assignment of the value that was refused. -/
def excludedTokens (s : String) : List Token := [.name '`' s, .symbol "=", .word "excluded", .symbol ".", .name '`' s]

theorem mapM_excluded {names : List String} {as : List (List (String × Expr))}
    (h : List.Forall₂ (fun s as => ∃ e, IsExcluded s e ∧ as = [(s, e)]) names as) :
    as.flatten.mapM (assigned? (Expr.given? params)) = some (names.map fun s => (s, .column "excluded" s)) := by
  induction h with
  | nil => rfl
  | cons ha _ ih =>
    obtain ⟨e, ⟨offset, rfl⟩, rfl⟩ := ha
    simp [List.mapM_cons, assigned?, Expr.given?, ih]

theorem takes_overwriting (params : List Value) (hn : Unbounded n) (hc : t ≠ .symbol ",") (hd : t ≠ .symbol ".")
    (hi : Infix.ofToken? t = none) {names : List String} (hne : names ≠ []) :
    Takes n Grammar.assignments ⟨[.symbol ","].intercalate (names.map excludedTokens) ++ t :: ts, k⟩ ⟨t :: ts, k⟩
      fun as => as.mapM (assigned? (Expr.given? params)) = some (names.map fun s => (s, .column "excluded" s)) := by
  have hpart : ∀ s ∈ names, TakesBare n assignment (fun s as => ∃ e, IsExcluded s e ∧ as = [(s, e)])
      excludedTokens t s := by
    intro s _ t' ts k ht
    have hends : t' ≠ .symbol "." ∧ Infix.ofToken? t' = none := by
      rcases ht with rfl | rfl
      · decide
      · exact ⟨hd, hi⟩
    exact takes_assignment s (takes_excludedExpr hn hends.1 hends.2 s)
  exact (takes_bareList hc hne (by simp [excludedTokens]) hpart k).bind fun as has => .done (mapM_excluded has)

/-! ## Clashes -/

/-- A column that rows may clash on. -/
theorem takes_target (hn : Unbounded n) (s : String) (ht : t = .symbol "," ∨ t = .symbol ")") :
    Takes n orderTerm ⟨.name '`' s :: t :: ts, k⟩ ⟨t :: ts, k⟩ fun o => o.term?.map (·.1) = some s := by
  have hends : t ≠ .symbol "." ∧ t ≠ .symbol "(" ∧ Infix.ofToken? t = none ∧ keywordOf t = none := by
    rcases ht with rfl | rfl <;> decide
  obtain ⟨hd, hp, hi, hk⟩ := hends
  refine (takes_groupTerm hn.shallow hd hp hi s).bind fun o ho => ?_
  obtain ⟨he, hnulls⟩ := ho
  refine (leaves_oneOf? (by simp [hk])).step ((leaves_keyword? (by simp [hk])).step (.neg (by decide) (.done ?_)))
  simp [OrderTerm.term?, he, hnulls]

theorem takes_targets (hn : Unbounded n) {names : List String} (hne : names ≠ []) (ts : List Token) :
    Takes n (bracketed orderTerm) ⟨.symbol "(" :: (nameTokens names ++ .symbol ")" :: ts), k⟩ ⟨ts, k⟩
      fun os => os.mapM (fun o => o.term?.map (·.1)) = some names := by
  have hname : ∀ s ∈ names, TakesBare n orderTerm (fun s (o : OrderTerm) => o.term?.map (·.1) = some s)
      (fun s => [.name '`' s]) (.symbol ")") s := fun s _ t' ts k ht => takes_target hn s ht
  exact (takes_bareBracketed hne (by simp) hname k).weaken fun os hos => mapM_eq_some_iff.mpr hos

/-- The tokens of what becomes of a row that clashes. -/
def actionTokens (names : List String) : List Token :=
  if names = [] then [.word "NOTHING"]
  else .word "UPDATE" :: .word "SET" :: [.symbol ","].intercalate (names.map excludedTokens)

/-- ON CONFLICT, behind the two words. -/
theorem takes_upsert (params : List Value) (hn : Unbounded n) {target : List String} (ht : target ≠ [])
    (names : List String) :
    Takes n upsert ⟨.symbol "(" ::
        (nameTokens target ++ .symbol ")" :: .word "DO" :: (actionTokens names ++ [.ending])), k⟩
      ⟨[.ending], k⟩ fun u => u.target.isSome ∧
        u.catch? params = some { columns := target, overwrite := overwriting names } := by
  refine (takes_isSymbol "(").step (.pos rfl ((takes_targets hn ht _).map.bind fun target' htarget => ?_))
  obtain ⟨os, hos, rfl⟩ := htarget
  refine .pos rfl ((leaves_where (by decide)).step ((takes_keyword (by decide)).bind fun _ _ => ?_))
  by_cases hnone : names = []
  · simp only [actionTokens, if_pos hnone]
    refine (takes_keyword? (by decide)).step (.pos rfl (.done ⟨rfl, ?_⟩))
    simp [Upsert.catch?, hos, overwriting, hnone]
  · simp only [actionTokens, if_neg hnone]
    refine (leaves_keyword? (by decide)).step (.neg (by decide) ((takes_keyword (by decide)).bind fun _ _ => ?_))
    refine (takes_keyword (by decide)).bind fun _ _ => ?_
    refine (takes_overwriting params hn (by decide) (by decide) (by decide) hnone).bind fun as has => ?_
    refine (leaves_where (by decide)).step (.done ⟨rfl, ?_⟩)
    simp [Upsert.catch?, hos, overwriting, hnone, has]

theorem leaves_upserts (h : keywordOf t ≠ some "ON") (fuel : Nat) :
    Takes n (upserts fuel) ⟨t :: ts, k⟩ ⟨t :: ts, k⟩ (· = []) := by
  cases fuel with
  | zero => exact .done rfl
  | succ fuel =>
    rw [upserts]
    exact (leaves_keyword? h).step (.neg (by decide) (.done rfl))

/-- ON CONFLICT and what becomes of the row. -/
def clashTokens (target names : List String) : List Token :=
  .word "ON" :: .word "CONFLICT" :: .symbol "(" ::
    (nameTokens target ++ .symbol ")" :: .word "DO" :: actionTokens names)

theorem takes_upserts (params : List Value) (hn : Unbounded n) {target : List String} (ht : target ≠ [])
    (names : List String) (fuel : Nat) :
    Takes n (upserts (fuel + 1)) ⟨clashTokens target names ++ [.ending], k⟩ ⟨[.ending], k⟩
      fun us => caught? params us = some (some { columns := target, overwrite := overwriting names }) := by
  have htokens : clashTokens target names ++ [.ending] = .word "ON" :: .word "CONFLICT" :: .symbol "(" ::
      (nameTokens target ++ .symbol ")" :: .word "DO" :: (actionTokens names ++ [.ending])) := by simp [clashTokens]
  rw [htokens, upserts]
  refine (takes_keyword? (by decide)).step (.pos rfl ((takes_keyword (by decide)).bind fun _ _ => ?_))
  refine (takes_upsert params hn ht names).bind fun u hu => ?_
  obtain ⟨hsome, hu⟩ := hu
  refine .neg (by simp [Option.isSome_iff_ne_none.mp hsome]) ((leaves_upserts (by decide) fuel).step (.done ?_))
  simp [caught?, hu]

/-! ## Statements -/

theorem leaves_orResolution? (h : keywordOf t ≠ some "OR") :
    Takes n orResolution? ⟨t :: ts, k⟩ ⟨t :: ts, k⟩ (· = none) :=
  (leaves_keyword? h).step (.neg (by decide) (.done rfl))

/-- The tokens of an INSERT behind its two words, up to what catches a clash. -/
def insertTokens (table : String) (names : List String) (vs : List Value) : List Token :=
  .name '`' table :: .symbol "(" :: (nameTokens names ++ .symbol ")" :: .word "VALUES" :: .symbol "(" ::
    (parameterTokens vs ++ [.symbol ")"]))

theorem takes_insert (hn : Unbounded n) (ht : t ∈ [.word "ON", Token.ending]) (table : String) {names : List String}
    (hnames : names ≠ []) {vs : List Value} (hvs : vs ≠ []) (hv : SentFrom params k vs) {caught : Option Catch}
    (hcaught : ∀ fuel, Takes n (upserts (fuel + 1)) ⟨t :: ts, k + vs.length⟩ ⟨[.ending], k + vs.length⟩
      fun us => caught? params us = some caught) :
    Takes n (insert none) ⟨.word "INTO" :: (insertTokens table names vs ++ t :: ts), k⟩ ⟨[.ending], k + vs.length⟩
      fun i => { i with named := [] }.change? params = some (.insert table names vs caught) := by
  have htokens : insertTokens table names vs ++ t :: ts = .name '`' table :: .symbol "(" ::
      (nameTokens names ++ .symbol ")" :: .word "VALUES" :: .symbol "(" ::
        (parameterTokens vs ++ .symbol ")" :: t :: ts)) := by
    simp [insertTokens]
  have hclosing : ∀ t ∈ [.word "ON", Token.ending], t ≠ .symbol "," ∧
      ∀ w ∈ keywordOf t, w ∉ ["UNION", "INTERSECT", "EXCEPT"] := by decide
  obtain ⟨hcomma, hparts⟩ := hclosing t ht
  rw [htokens]
  refine (takes_keyword (by decide)).bind fun _ _ => (takes_subject (by decide) (by decide) table).step ?_
  refine (takes_isSymbol "(").step (.pos rfl ((takes_names hnames _).map.bind fun columns hcolumns => ?_))
  obtain ⟨_, rfl, rfl⟩ := hcolumns
  refine (leaves_keyword? (by decide)).step (.neg (by decide) ?_)
  refine (takes_values hn hcomma hparts hvs).bind fun source hsource => takes_get.bind fun c hc => ?_
  obtain ⟨row, hrow, rfl⟩ := hsource
  obtain ⟨size, hsize⟩ : ∃ f, c.size = f + 1 := ⟨c.size - 1, by have hlength := hc.length_le; simp at hlength; omega⟩
  rw [hsize]
  refine (hcaught size).bind fun us hus => (leaves_returning (by decide)).step (.done ?_)
  simp [Insert.change?, mapM_sent? hrow hv, hus]

/-- The tokens of a condition on the key. -/
def keyTokens : List Token := [.word "WHERE", .name '`' Record.idColumn, .symbol "=", .parameter none]

theorem takes_key (hn : Unbounded n) {key : Value} (hv : SentFrom params k [key]) :
    Takes n where? ⟨keyTokens ++ [.ending], k⟩ ⟨[.ending], k + 1⟩
      fun c => condition? m params c = some fun row => m.equal (row Record.idColumn) key := by
  have htokens : (filterSlots .bound (Filter.byId key)).map Slot.token = keyTokens := rfl
  rw [← htokens]
  refine (takes_where (f := Filter.byId key) (hn.fits _ _ _) (by decide) (by decide) (by decide)).weaken
    fun c hc => (hc.accepts hv).trans ?_
  rw [accepts_byId]

/-- The tokens of an UPDATE of one row behind its first word. -/
def updateTokens (table : String) (es : List (String × Value)) : List Token :=
  .name '`' table :: .word "SET" :: ([.symbol ","].intercalate (es.map assignmentTokens) ++ keyTokens)

theorem takes_update (hn : Unbounded n) (table : String) {es : List (String × Value)} (hne : es ≠ []) {key : Value}
    (hv : SentFrom params k (es.map (·.2) ++ [key])) :
    Takes n update ⟨updateTokens table es ++ [.ending], k⟩ ⟨[.ending], k + es.length + 1⟩
      fun u => { u with named := [] }.change? m params =
        some (.update table es fun row => m.equal (row Record.idColumn) key) := by
  have htokens : updateTokens table es ++ [.ending] = .name '`' table :: .word "SET" ::
      ([.symbol ","].intercalate (es.map assignmentTokens) ++ (keyTokens ++ [.ending])) := by simp [updateTokens]
  obtain ⟨hvalues, hkey⟩ := SentFrom.append (es.map (·.2)) [key] hv
  rw [List.length_map] at hkey
  have hsource : ClosesSource (.word "SET") := by decide
  rw [htokens]
  refine (leaves_orResolution? (by simp [keywordOf])).step ?_
  refine (takes_subject (by decide) (by decide) table).step ((leaves_indexHint? hsource).step ?_)
  refine (takes_keyword (by decide)).bind fun _ _ => ?_
  refine (takes_assignments hn (by decide) (by decide) hne hvalues).bind fun as has => ?_
  refine Takes.step (a := []) ((leaves_keyword? (by decide)).step (.neg (by decide) (.done rfl))) ?_
  refine (takes_key (m := m) hn hkey).bind fun c hc => (leaves_returning (by decide)).step (.done ?_)
  simp [Update.change?, has, hc]

end Grammar

open Grammar

variable {m : Meaning} {table : String} {r : Record} {s : Statement}

theorem tokens_insert (table : String) (r : Record) :
    (insertSlots table r).map Slot.token = .word "INSERT" :: .word "INTO" :: insertTokens table r.names r.values := by
  have hnames : (commaSlots (r.entries.map fun e => [Slot.name e.1])).map Slot.token = nameTokens r.names := by
    rw [tokens_commas, nameTokens, OrderedMap.names, List.map_map]
    rfl
  have hvalues : (commaSlots (r.entries.map fun e => [Slot.parameter e.2])).map Slot.token =
      parameterTokens r.values := by
    rw [tokens_commas, parameterTokens, OrderedMap.values, List.map_map]
    rfl
  simp [insertSlots, insertTokens, Slot.token, hnames, hvalues]

theorem tokens_conflict (r : Record) :
    (conflictSlots r).map Slot.token = actionTokens (overwritten r.names) := by
  unfold conflictSlots actionTokens
  by_cases hnone : overwritten r.names = []
  · rw [if_pos hnone, if_pos (by simp [hnone])]
    rfl
  · rw [if_neg hnone, if_neg (by simpa using hnone), List.map_append, tokens_commas]
    rfl

theorem values_ne {r : Record} (h : r.entries ≠ []) : r.names ≠ [] ∧ r.values ≠ [] := by
  simp [OrderedMap.names, OrderedMap.values, h]

/-- A statement that begins with INSERT is the change that it is read as. -/
theorem Statement.change?_of_takes {ts : List Token} {c : Change}
    (hs : tokens s.sql.toList = .word "INSERT" :: .word "INTO" :: ts)
    (h : ∀ n, Unbounded n → Takes n (insert none) ⟨.word "INTO" :: ts, 0⟩ ⟨[.ending], s.params.length⟩
      fun i => { i with named := [] }.change? s.params = some c) : s.change? m = some c := by
  have hreads : ∀ n, Unbounded n →
      Takes n parsed ⟨.word "INSERT" :: .word "INTO" :: ts, 0⟩ ⟨[.ending], s.params.length⟩
      fun p => ∃ i, p = .insert i ∧ i.change? s.params = some c := by
    intro n hn
    refine takes_queryOrChange (w := "INSERT") (by decide) (by decide) rfl (takes_advance.bind fun _ _ => ?_)
    exact (leaves_orResolution? (by decide)).step ((h n hn).bind fun i hi => .done ⟨_, rfl, hi⟩)
  obtain ⟨p, hparsed, i, rfl, hi⟩ := Statement.parsed?_of_takes hs (by simp) (by simp) (by simp) hreads
  unfold Statement.change?
  rw [hparsed]
  exact hi

theorem Statement.change?_insert (hs : tokens s.sql.toList = (insertSlots table r).map Slot.token ++ [.ending])
    (hp : s.params = r.values) (hr : r.entries ≠ []) : s.change? m = some (.insert table r.names r.values none) := by
  obtain ⟨hnames, hvalues⟩ := values_ne hr
  rw [tokens_insert, List.cons_append, List.cons_append] at hs
  refine Statement.change?_of_takes hs fun n hn => ?_
  have hnone : ∀ fuel k, Takes n (upserts (fuel + 1)) ⟨[.ending], k⟩ ⟨[.ending], k⟩
      fun us => caught? r.values us = some none :=
    fun fuel k => (leaves_upserts (by decide) (fuel + 1)).weaken fun us hus => by rw [hus]; rfl
  have hinsert := takes_insert (k := 0) hn (by simp) table hnames hvalues List.prefix_rfl fun fuel => hnone fuel _
  rw [hp]
  rwa [Nat.zero_add] at hinsert

theorem Statement.change?_upsert (hs : tokens s.sql.toList = (upsertSlots table r).map Slot.token ++ [.ending])
    (hp : s.params = r.values) (hr : r.entries ≠ []) :
    s.change? m = some (upserting table r) := by
  obtain ⟨hnames, hvalues⟩ := values_ne hr
  have htokens : (upsertSlots table r).map Slot.token ++ [.ending] = .word "INSERT" :: .word "INTO" ::
    (insertTokens table r.names r.values ++
      (clashTokens [Record.idColumn] (overwritten r.names) ++ [.ending])) := by
    simp [upsertSlots, tokens_insert, tokens_conflict, clashTokens, nameTokens, Slot.token]
  rw [htokens] at hs
  refine Statement.change?_of_takes hs fun n hn => ?_
  have hcaught : ∀ fuel k, Takes n (upserts (fuel + 1))
    ⟨clashTokens [Record.idColumn] (overwritten r.names) ++ [.ending], k⟩
      ⟨[.ending], k⟩ _ := fun fuel k => takes_upserts r.values hn (List.cons_ne_nil _ []) (overwritten r.names) fuel
  have hinsert := takes_insert (k := 0) (t := .word "ON") hn (by simp) table hnames hvalues List.prefix_rfl
    fun fuel => hcaught fuel _
  rw [hp]
  rwa [Nat.zero_add] at hinsert

theorem Statement.change?_update {key : Value}
    (hs : tokens s.sql.toList = (Request.slots .bound table (.update key r)).map Slot.token ++ [.ending])
    (hp : s.params = r.values ++ [key]) (hr : r.entries ≠ []) :
    s.change? m = some (.update table r.entries fun row => m.equal (row Record.idColumn) key) := by
  have htokens : (Request.slots .bound table (.update key r)).map Slot.token ++ [.ending] =
      .word "UPDATE" :: (updateTokens table r.entries ++ [.ending]) := by
    simp [Request.slots, updateTokens, keySlots, keyTokens, tokens_commas, Slot.token]
    rfl
  have hreads : ∀ n, Unbounded n → Takes n parsed ⟨.word "UPDATE" :: (updateTokens table r.entries ++ [.ending]), 0⟩
      ⟨[.ending], s.params.length⟩ fun p => ∃ u, p = .update u ∧ u.change? m s.params =
        some (.update table r.entries fun row => m.equal (row Record.idColumn) key) := by
    intro n hn
    refine takes_queryOrChange (w := "UPDATE") (by decide) (by decide) rfl (takes_advance.bind fun _ _ => ?_)
    have hsent : SentFrom s.params 0 (r.entries.map (·.2) ++ [key]) := hp ▸ List.prefix_rfl
    have hupdate := takes_update (m := m) hn table hr hsent
    have hlength : s.params.length = 0 + r.entries.length + 1 := by simp [hp, OrderedMap.values]
    rw [← hlength] at hupdate
    exact hupdate.bind fun u hu => .done ⟨_, rfl, hu⟩
  rw [htokens] at hs
  obtain ⟨p, hparsed, u, rfl, hu⟩ := Statement.parsed?_of_takes hs (by simp) (by simp) (by simp) hreads
  unfold Statement.change?
  rw [hparsed]
  exact hu

end TableKeeper.Sql
