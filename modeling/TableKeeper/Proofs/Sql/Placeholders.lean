import TableKeeper.Proofs.Sql.Lexing

/-!
  TableKeeper.Proofs.Sql.Placeholders — the question marks of a clause and the values beside it.

  1. The marks of a text are counted part by part. Those of a value that is written into the
     text are the marks of its display: a doubled quote changes none (`questionMarks_literal`).
  2. A predicate has one mark for each of its parameters, and those of the items that it writes
     out (`questionMarks_predicate`).
  3. So a clause whose names have no mark counts one placeholder for each value exactly when no
     item of an inline list displays one (`placeholders_compile`). The count looks at the
     characters of the text, and a mark inside of a literal is one of them
     (`quoted_mark_counted`).
-/

namespace TableKeeper.Sql

open Text

/-! ## Counting marks -/

theorem questionMarks_append (a b : String) : questionMarks (a ++ b) = questionMarks a + questionMarks b := by
  simp [questionMarks]

/-- The marks of parts that are put together are those of the parts. -/
theorem questionMarks_joined {sep : String} (hsep : questionMarks sep = 0) (parts : List String) :
    questionMarks (joined sep parts) = (parts.flatMap String.toList).count '?' := by
  induction parts with
  | nil => rfl
  | cons part parts ih =>
    rw [List.flatMap_cons, List.count_append]
    cases parts with
    | nil => rfl
    | cons next parts =>
      show questionMarks (part ++ sep ++ joined sep (next :: parts)) = _
      rw [questionMarks_append, questionMarks_append, hsep, ih]
      rfl

theorem questionMarks_listing {lead sep : String} (hlead : questionMarks lead = 0) (hsep : questionMarks sep = 0)
    (parts : List String) : questionMarks (listing lead sep parts) = (parts.flatMap String.toList).count '?' := by
  cases parts with
  | nil => rfl
  | cons part parts =>
    show questionMarks (lead ++ joined sep (part :: parts)) = _
    rw [questionMarks_append, hlead, Nat.zero_add, questionMarks_joined hsep]

/-- The marks of each part, where they are those of some characters that come with it. -/
theorem count_parts {α : Type} {text : α → String} (chars : α → List Char) {xs : List α}
    (h : ∀ x ∈ xs, questionMarks (text x) = (chars x).count '?') :
      ((xs.map text).flatMap String.toList).count '?' = (xs.flatMap chars).count '?' := by
  induction xs with
  | nil => rfl
  | cons x xs ih =>
    rw [List.map_cons, List.flatMap_cons, List.flatMap_cons, List.count_append, List.count_append,
      ih fun y hy => h y (List.mem_cons_of_mem _ hy), ← h x List.mem_cons_self]
    rfl

/-- A name that has no question mark. -/
def Unmarked (name : String) : Prop := '?' ∉ name.toList

instance (name : String) : Decidable (Unmarked name) := inferInstanceAs (Decidable (_ ∉ _))

theorem questionMarks_quoteName {name : String} (h : Unmarked name) : questionMarks (quoteName name) = 0 := by
  have hname : questionMarks name = 0 := List.count_eq_zero.mpr h
  rw [quoteName, questionMarks_append, questionMarks_append, hname]
  decide

theorem count_doubleQuotes (cs : List Char) : (doubleQuotes cs).count '?' = cs.count '?' := by
  induction cs with
  | nil => rfl
  | cons c cs ih =>
    by_cases hc : c = '\''
    · subst hc
      simp [doubleQuotes, ih]
    · simp [doubleQuotes, hc, List.count_cons, ih]

theorem questionMarks_literal (v : Value) : questionMarks (literal v) = v.display.toList.count '?' := by
  have hquote : questionMarks "'" = 0 := by decide
  have hquoted : questionMarks ("'" ++ escaped v ++ "'") = v.display.toList.count '?' := by
    rw [questionMarks_append, questionMarks_append, hquote, Nat.zero_add, Nat.add_zero, escaped, questionMarks,
      String.toList_ofList, count_doubleQuotes]
  cases v with
  | null => rfl
  | blob bytes =>
    have hopening : questionMarks "X'" = 0 := by decide
    rw [literal, questionMarks_append, questionMarks_append, hopening, hquote, Nat.zero_add, Nat.add_zero]
    rfl
  | integer n => exact hquoted
  | real x => exact hquoted
  | text s => exact hquoted

theorem questionMarks_pageText (limit offset : Option UInt64) : questionMarks (pageText limit offset) = 0 := by
  have hnumeral : ∀ (lead : String) (n : UInt64), questionMarks lead = 0 →
      questionMarks (lead ++ toString n.toNat) = 0 := by
    intro lead n hlead
    rw [questionMarks_append, hlead, Nat.zero_add]
    exact List.count_eq_zero.mpr fun hmark => absurd (isDigit_of_mem_toString hmark) (by decide)
  have hlimit := fun n => hnumeral " LIMIT " n (by decide)
  have hoffset := fun n => hnumeral " OFFSET " n (by decide)
  have hunbounded : questionMarks " LIMIT -1" = 0 := by decide
  unfold pageText
  rw [questionMarks_append]
  cases limit <;> cases offset <;> simp only [hlimit, hoffset, hunbounded] <;> rfl

/-! ## Clauses -/

/-- The characters of the items that an entry writes into the text. -/
def inlined (binding : ListBinding) (e : String × Constraint) : List Char :=
  match e.2, binding with
  | .oneOf vs, .inline => vs.flatMap fun v => v.display.toList
  | _, _ => []

/-- A predicate has a mark for each parameter, beside those of what it writes out. -/
theorem questionMarks_predicate (binding : ListBinding) {e : String × Constraint} (he : Unmarked e.1) :
    questionMarks (predicateOf binding e).text = (parametersOf binding e).length + (inlined binding e).count '?' := by
  obtain ⟨field, c⟩ := e
  have hfield : questionMarks (quoteName field) = 0 := questionMarks_quoteName he
  have hlist : ∀ items : List Item, questionMarks (Predicate.oneOf field items).text =
      ((items.map Item.text).flatMap String.toList).count '?' := by
    intro items
    have hopening : questionMarks " IN (" = 0 := by decide
    have hclosing : questionMarks ")" = 0 := by decide
    rw [Predicate.text, questionMarks_append, questionMarks_append, questionMarks_append, hfield, hopening, hclosing,
      Nat.zero_add, Nat.add_zero, questionMarks_joined (by decide)]
  cases c with
  | equals v =>
    show questionMarks (quoteName field ++ "=?") = 1
    rw [questionMarks_append, hfield]
    decide
  | «matches» p =>
    show questionMarks (quoteName field ++ " LIKE ?") = 1
    rw [questionMarks_append, hfield]
    decide
  | oneOf vs =>
    cases binding with
    | bound =>
      refine (hlist (vs.map fun _ => .parameter)).trans ?_
      show _ = vs.length
      rw [count_parts (fun _ => ['?']) (by simp [Item.text, questionMarks]), List.flatMap_map, ← List.map_eq_flatMap,
        List.map_const', List.count_replicate_self]
    | inline =>
      refine (hlist (vs.map .literal)).trans ?_
      show _ = 0 + (vs.flatMap fun v => v.display.toList).count '?'
      rw [List.map_map, Nat.zero_add]
      exact count_parts _ fun v _ => questionMarks_literal v

theorem questionMarks_predicates (binding : ListBinding) {es : List (String × Constraint)}
    (hes : ∀ e ∈ es, Unmarked e.1) :
      ((es.map fun e => (predicateOf binding e).text).flatMap String.toList).count '?' =
        (es.flatMap (parametersOf binding)).length + (es.flatMap (inlined binding)).count '?' := by
  induction es with
  | nil => rfl
  | cons e es ih =>
    have hfirst := questionMarks_predicate binding (hes e List.mem_cons_self)
    rw [questionMarks] at hfirst
    rw [List.map_cons, List.flatMap_cons, List.flatMap_cons, List.flatMap_cons, List.count_append, List.count_append,
      List.length_append, hfirst, ih fun d hd => hes d (List.mem_cons_of_mem _ hd)]
    omega

/-- The count of placeholders takes the marks of inline items for some. -/
theorem questionMarks_clause (binding : ListBinding) {f : Filter} {o : QueryOptions} (hf : ∀ n ∈ f.names, Unmarked n)
    (ho : ∀ t ∈ o.order, Unmarked t.1) :
      (compile binding f o).placeholders =
        (compile binding f o).values.length + (f.entries.flatMap (inlined binding)).count '?' := by
  have hfilter : questionMarks (listing " WHERE " " AND " ((f.entries.map (predicateOf binding)).map Predicate.text)) =
      (compile binding f o).values.length + (f.entries.flatMap (inlined binding)).count '?' := by
    rw [questionMarks_listing (by decide) (by decide), List.map_map]
    exact questionMarks_predicates binding fun e he => hf e.1 (List.mem_map_of_mem he)
  have horder : questionMarks (listing " ORDER BY " ", " ((orderOf o).map orderTermText)) = 0 := by
    rw [questionMarks_listing (by decide) (by decide), count_parts fun _ => []]
    · rw [List.flatMap_eq_nil_iff.mpr fun _ _ => rfl, List.count_nil]
    · intro t ht
      obtain ⟨u, hu, hut⟩ := List.mem_filterMap.mp ht
      obtain ⟨d, -, rfl⟩ := Option.map_eq_some_iff.mp hut
      have hblank : questionMarks " " = 0 := by decide
      have hdirection : questionMarks d.text = 0 := by cases d <;> decide
      rw [orderTermText, questionMarks_append, questionMarks_append, questionMarks_quoteName (ho u hu), hblank,
        hdirection]
      rfl
  show questionMarks (_ ++ _ ++ pageText o.limit? o.offset?) = _
  rw [questionMarks_append, questionMarks_append, questionMarks_pageText, Nat.add_zero]
  exact (congrArg₂ (· + ·) hfilter horder).trans (Nat.add_zero _)

/-! ## Placeholders and values -/

/-- A constraint whose one value is a parameter under every binding. -/
def isScalar : Constraint → Bool
  | .equals _ | .matches _ => true
  | .oneOf _ => false

/-- The items of a constraint's list, if it has one. -/
def itemsOf : Constraint → List Value
  | .oneOf vs => vs
  | .equals _ | .matches _ => []

/-- Every scalar constraint has one value. The items of lists are values where they are bound. -/
theorem length_parameters (binding : ListBinding) (es : List (String × Constraint)) :
    (es.flatMap (parametersOf binding)).length =
      es.countP (fun e => isScalar e.2) +
        match binding with
        | .bound => (es.flatMap fun e => itemsOf e.2).length
        | .inline => 0 := by
  induction es with
  | nil => cases binding <;> rfl
  | cons e es ih =>
    rw [List.flatMap_cons, List.length_append, ih, List.countP_cons, List.flatMap_cons, List.length_append]
    obtain ⟨field, c⟩ := e
    cases binding <;> cases c <;> simp [parametersOf, isScalar, itemsOf] <;> omega

theorem notMem_inlined {binding : ListBinding} {es : List (String × Constraint)} :
    '?' ∉ es.flatMap (inlined binding) ↔
      binding = .bound ∨ ∀ e ∈ es, ∀ v ∈ itemsOf e.2, '?' ∉ v.display.toList := by
  cases binding with
  | bound =>
    have hnone : es.flatMap (inlined .bound) = [] :=
      List.flatMap_eq_nil_iff.mpr fun e _ => by unfold inlined; split <;> simp_all
    simp [hnone]
  | inline =>
    have hitems : ∀ e : String × Constraint, inlined .inline e = (itemsOf e.2).flatMap fun v => v.display.toList := by
      rintro ⟨field, c⟩
      cases c <;> rfl
    simp [hitems]

/-- Where no name has a question mark, the placeholders of a clause are its values, and the
question marks that the items of inline lists display. So they are as many as the values exactly
when there are no such marks. The values are those of the equalities and patterns, and the items
of lists that are bound. -/
theorem placeholders_compile (binding : ListBinding) {f : Filter} {o : QueryOptions} (hf : ∀ n ∈ f.names, Unmarked n)
    (ho : ∀ t ∈ o.order, Unmarked t.1) :
      (compile binding f o).placeholders =
        (compile binding f o).values.length + (f.entries.flatMap (inlined binding)).count '?' ∧
      ((compile binding f o).placeholders = (compile binding f o).values.length ↔
        binding = .bound ∨ ∀ e ∈ f.entries, ∀ v ∈ itemsOf e.2, '?' ∉ v.display.toList) ∧
      (compile .inline f o).values.length = f.entries.countP (fun e => isScalar e.2) ∧
      (compile .bound f o).values.length =
        f.entries.countP (fun e => isScalar e.2) + (f.entries.flatMap fun e => itemsOf e.2).length := by
  have hcount := questionMarks_clause binding hf ho
  refine ⟨hcount, ?_, length_parameters .inline f.entries, length_parameters .bound f.entries⟩
  rw [hcount, ← notMem_inlined, ← List.count_eq_zero]
  omega

/-- A question is looked for in a list, and a pattern beside it. -/
def asked : Filter := .ofList [("title", .oneOf [.text "who?", .text "what"]), ("note", .matches ⟨"why?"⟩)]

/-- Bound, each value has its placeholder; written into the text, one of the items counts for
one more. -/
theorem asked_placeholders : ((∀ n ∈ asked.names, Unmarked n) ∧ ∀ t ∈ [("title", (1 : Int64))], Unmarked t.1) ∧
    (compile .bound asked { order := [("title", 1)] }).placeholders = 3 ∧
    (compile .bound asked { order := [("title", 1)] }).values.length = 3 ∧
    (compile .inline asked { order := [("title", 1)] }).placeholders = 2 ∧
    (compile .inline asked { order := [("title", 1)] }).values.length = 1 := by
  have hnames : ∀ n ∈ asked.names, Unmarked n := by decide
  have horder : ∀ t ∈ [("title", (1 : Int64))], Unmarked t.1 := by decide
  obtain ⟨-, hbound, hscalars, hvalues⟩ := placeholders_compile .bound hnames (o := { order := [("title", 1)] }) horder
  obtain ⟨hinline, -⟩ := placeholders_compile .inline hnames (o := { order := [("title", 1)] }) horder
  exact ⟨⟨hnames, horder⟩, (hbound.mpr (.inl rfl)).trans hvalues, hvalues, hinline.trans (by rfl), hscalars⟩

/-- The mark of an item that is written into the text is counted, though nothing is bound to it. -/
theorem quoted_mark_counted :
    (compile .inline (.ofList [("title", .oneOf [.text "who?"])]) {}).placeholders = 1 ∧
      (compile .inline (.ofList [("title", .oneOf [.text "who?"])]) {}).values.length = 0 := by
  decide

end TableKeeper.Sql
