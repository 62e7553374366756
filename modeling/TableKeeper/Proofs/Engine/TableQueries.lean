import TableKeeper.Engine.Session
import TableKeeper.Proofs.Engine.Substitutes

/-!
  TableKeeper.Proofs.Engine.TableQueries — the rows of a SELECT of one table.

  1. A query of one table depends on its parameters through its conditions alone
     (`TableQuery.Simple`): conditions that are equally true of every row under two sets of
     parameters give the same rows (`runSelect_same`).
  2. Two SELECTs that stand for one listing are prepared alike. Both fail, or they become one
     query of the table with two conditions that are the same (`both_prepareCore`).
  3. So the two give the same rows in the same order, if beside every column the items of
     their lists are equal to the same values (`both_select`).
-/

namespace TableKeeper.Engine

open Sql Sql.Grammar

variable {db : Database} {t : Table} {table : String} {s : Scope} {p p' : Array Value} {f : Frame}

/-! ## Queries of one table -/

/-- The term is a column, or a value. -/
def IsSimple (a : Term) : Prop := IsPlace a ∨ ∃ v, a = .literal v

theorem IsSimple.aggregates {a : Term} (h : IsSimple a) : a.aggregates = [] := by
  obtain h | ⟨v, rfl⟩ := h
  · exact h.aggregates
  · rfl

theorem IsSimple.evaluate {a : Term} (h : IsSimple a) (f : Frame) (p p' : Array Value) :
    evaluate { f with params := p } a = evaluate { f with params := p' } a := by
  obtain h | ⟨v, rfl⟩ := h
  · obtain ⟨v, hv⟩ := h.value f
    rw [hv, hv]
  · rw [Engine.evaluate, Engine.evaluate]

/-- A query of one table as it is prepared, but for its conditions and its bounds. -/
structure TableQuery where
  columns : List OutputColumn
  table : Table
  scan : Option Scan
  order : List SortTerm

namespace TableQuery

def source (q : TableQuery) : PreparedSource := { table := q.table, scan := q.scan }

def core (q : TableQuery) (conditions : List Term) : PreparedCore where
  distinct := false
  columns := q.columns
  reading := .ofCondition [q.source] conditions
  grouping := false
  groups := []
  having := none

def select (q : TableQuery) (conditions : List Term) (limit offset : Option Value) : PreparedSelect where
  columns := q.columns.map (·.name)
  first := .core (q.core conditions)
  others := []
  order := q.order
  limit := limit.map .literal
  offset := offset.map .literal

/-- Nothing but the conditions depends on parameters. -/
structure Simple (q : TableQuery) : Prop where
  columns : ∀ c ∈ q.columns, IsSimple c.term
  order : ∀ o ∈ q.order, IsSimple o.term

end TableQuery

/-! ## Running -/

theorem evaluateList_simple {ts : List Term} (h : ∀ a ∈ ts, IsSimple a) (f : Frame) (p p' : Array Value) :
    evaluateList { f with params := p } ts = evaluateList { f with params := p' } ts := by
  induction ts with
  | nil => rw [evaluateList, evaluateList]
  | cons a ts ih =>
    rw [evaluateList, evaluateList, (h a List.mem_cons_self).evaluate f p p',
      ih fun a ha => h a (List.mem_cons_of_mem _ ha)]

theorem allTrue_cons (f : Frame) (a : Term) (ts : List Term) :
    allTrue f (a :: ts) = meets f a >>= fun b => if b then allTrue f ts else .ok false := by
  rw [allTrue, meets]
  cases evaluate f a with
  | error fault => rfl
  | ok v => rfl

theorem allTrue_same {ts ts' : List Term} (h : List.Forall₂ (SameCondition p p') ts ts') (f : Frame) :
    allTrue { f with params := p } ts = allTrue { f with params := p' } ts' := by
  induction h with
  | nil => rfl
  | cons ha _ ih => rw [allTrue_cons, allTrue_cons, ha.meets, ih]

theorem conjuncts_same {ts ts' : List Term} (h : List.Forall₂ (SameTerm p p') ts ts') :
    List.Forall₂ (SameCondition p p') (ts.flatMap Term.conjuncts) (ts'.flatMap Term.conjuncts) :=
  List.rel_flatMap h fun _ _ hab => hab.conjuncts

theorem filter_same {test test' : Term → Bool} (ht : ∀ a a', SameCondition p p' a a' → test a = test' a')
    {ts ts' : List Term} (h : List.Forall₂ (SameCondition p p') ts ts') :
    List.Forall₂ (SameCondition p p') (ts.filter test) (ts'.filter test') :=
  List.rel_filter (fun a a' hab => (congrArg (· = true) (ht a a' hab)).to_iff) h

/-- The conditions of two readings go together, those without a column and the others. -/
theorem ofCondition_same (sources : List PreparedSource) {ts ts' : List Term}
    (h : List.Forall₂ (SameTerm p p') ts ts') :
    List.Forall₂ (SameCondition p p') (Reading.ofCondition sources ts).constants
        (Reading.ofCondition sources ts').constants ∧
      List.Forall₂ (SameCondition p p') (Reading.ofCondition sources ts).conditions
        (Reading.ofCondition sources ts').conditions := by
  have hall := conjuncts_same h
  simp only [Reading.ofCondition, List.partition_eq_filter_filter]
  have hothers : List.Forall₂ (SameCondition p p')
      ((ts.flatMap Term.conjuncts).filter (not ∘ Term.isConstant))
      ((ts'.flatMap Term.conjuncts).filter (not ∘ Term.isConstant)) :=
    filter_same (fun a a' hab => congrArg not hab.constant) hall
  refine ⟨filter_same (fun a a' hab => hab.constant) hall, List.rel_append ?_ ?_⟩
  · exact filter_same (fun a a' hab => hab.index _) hothers
  · exact filter_same (fun a a' hab => congrArg not (hab.index _)) hothers

variable {q : TableQuery} {ts ts' : List Term}

theorem combinations_same (q : TableQuery) (f : Frame) (p p' : Array Value) :
    Reading.combinations { f with params := p } [q.source] =
      Reading.combinations { f with params := p' } [q.source] := by
  obtain ⟨columns, table, scan, order⟩ := q
  cases scan <;> rfl

theorem rows_same (q : TableQuery) (h : List.Forall₂ (SameTerm p p') ts ts') (f : Frame) :
    (Reading.ofCondition [q.source] ts).rows { f with params := p } =
      (Reading.ofCondition [q.source] ts').rows { f with params := p' } := by
  obtain ⟨hconstants, hconditions⟩ := ofCondition_same [q.source] h
  have hrows : ∀ rows : Rows, allTrue { f with params := p, rows } (Reading.ofCondition [q.source] ts).conditions =
      allTrue { f with params := p', rows } (Reading.ofCondition [q.source] ts').conditions :=
    fun rows => allTrue_same hconditions { f with rows }
  have hcombinations := combinations_same q f p p'
  unfold Reading.rows
  rw [allTrue_same hconstants f]
  simp only [hrows]
  have hsources : ∀ ts, (Reading.ofCondition [q.source] ts).sources = [q.source] := fun _ => rfl
  simp only [hsources, hcombinations]

theorem outgoing_same (hq : q.Simple) (h : List.Forall₂ (SameTerm p p') ts ts') (f : Frame) :
    (q.core ts).outgoing q.order { f with params := p } = (q.core ts').outgoing q.order { f with params := p' } := by
  have hcells : ∀ rows : Rows, evaluateList { f with params := p, rows } (q.columns.map (·.term)) =
      evaluateList { f with params := p', rows } (q.columns.map (·.term)) :=
    fun rows => evaluateList_simple (by simpa using hq.columns) { f with rows } p p'
  have hkeys : ∀ rows : Rows, evaluateList { f with params := p, rows } (q.order.map (·.term)) =
      evaluateList { f with params := p', rows } (q.order.map (·.term)) :=
    fun rows => evaluateList_simple (by simpa using hq.order) { f with rows } p p'
  have hrows : (q.core ts).reading.rows { f with params := p } = (q.core ts').reading.rows { f with params := p' } :=
    rows_same q h f
  simp only [PreparedCore.outgoing, PreparedCore.frames]
  rw [hrows]
  simp only [TableQuery.core, Bool.not_false, if_true, List.map_map, Bool.false_eq_true, if_false]
  refine List.map_congr_left fun r _ => ?_
  cases r with
  | error fault => rfl
  | ok rows =>
    show (do
      let cells ← evaluateList { f with params := p, rows } (q.columns.map (·.term))
      return (cells, ← evaluateList { f with params := p, rows } (q.order.map (·.term))) : Except Fault Outgoing) = _
    rw [hcells, hkeys]
    rfl

theorem bounds_literals (limit offset : Option Value) (f f' : Frame) :
    bounds (limit.map .literal) (offset.map .literal) f = bounds (limit.map .literal) (offset.map .literal) f' := by
  cases limit <;> cases offset <;> simp [bounds, evaluate]

/-- Whatever the conditions and the parameters are, rows that go together go out in one order. -/
theorem runSelect_same (hq : q.Simple) (h : List.Forall₂ (SameTerm p p') ts ts') (limit offset : Option Value)
    (f : Frame) :
    runSelect { f with params := p } (q.select ts limit offset) =
      runSelect { f with params := p' } (q.select ts' limit offset) := by
  have hordered : (q.select ts limit offset).ordered { f with params := p } =
      (q.select ts' limit offset).ordered { f with params := p' } :=
    congrArg (sorted q.order) (outgoing_same hq h f)
  have hbounds : bounds (q.select ts limit offset).limit (q.select ts limit offset).offset { f with params := p } =
      bounds (q.select ts' limit offset).limit (q.select ts' limit offset).offset { f with params := p' } :=
    bounds_literals _ _ _ _
  rw [runSelect, runSelect, hbounds, hordered]

/-! ## Preparing -/

/-- The names of columns that stand alone are read from their expressions. -/
theorem column?_iff {e : Expr} {name : String} : e.column? = some name ↔ IsColumn name e := by
  constructor
  · intro h
    unfold Expr.column? at h
    split at h
    · rename_i n offset
      exact ⟨offset, by rw [Option.some.inj h]⟩
    · cases h
  · rintro ⟨offset, rfl⟩
    rfl

theorem forall₂_zipIdx {α β : Type} {r : α → β → Prop} {xs : List α} {ys : List β} (h : List.Forall₂ r xs ys) (n : Nat) :
    List.Forall₂ (fun a b => r a.1 b.1 ∧ a.2 = b.2) (xs.zipIdx n) (ys.zipIdx n) := by
  induction h generalizing n with
  | nil => exact .nil
  | cons hab _ ih => exact .cons ⟨hab, rfl⟩ (ih (n + 1))

/-- The one source that there is. -/
abbrev lone (t : Table) : List Known := [{ table := t }]

theorem openSources_table (h : db.relation? { name := table } = some (.table t)) :
    openSources db.context [tableSource table] = .ok (lone t) := by
  have hrelation : openRelation db.context (tableSource table) = .ok { table := t } := by
    show openStored db.context { name := table } none none = _
    have hknown : db.context.database.relation? { name := table, schema := none } = some (.table t) := h
    have hobstacle : db.context.obstacle = none := rfl
    have hschema : ((none : Option String).orElse fun _ => db.context.home.map schemaName) = none := rfl
    simp only [openStored, hobstacle, hschema, hknown]
    rfl
  rw [openSources, List.mapM_cons, hrelation]
  rfl

/-! ### Result columns -/

/-- Columns of a table that may stand for one another: they are the same, or have one name. -/
inductive SameProjected (t : Table) : Projected → Projected → Prop
  | resolved {c : OutputColumn} : (∃ column ∈ t.columns, c.name = column.name) → IsPlace c.term →
      SameProjected t (.resolved c) (.resolved c)
  | written {name : String} {e e' : Expr} {text text' : String} : IsColumn name e → IsColumn name e' →
      SameProjected t (.written e none text) (.written e' none text')

theorem allColumns_lone (t : Table) :
    allColumns (lone t) = t.columns.zipIdx.map fun (c, i) => .resolved ⟨c.name, Known.columnTerm { table := t } 0 i⟩ := by
  simp [allColumns, Known.isCommon]

theorem isPlace_columnTerm (t : Table) (i : Nat) : IsPlace (Known.columnTerm { table := t } 0 i) := by
  unfold Known.columnTerm
  split
  · exact .rowid
  · exact .column ..

theorem name?_eq_some {c : ResultColumn} {name : String} (h : c.name? = some name) :
    ∃ e text, c = .expr e none text ∧ IsColumn name e := by
  unfold ResultColumn.name? at h
  split at h
  · exact ⟨_, _, rfl, column?_iff.mp h⟩
  · cases h

/-- A projection is a star, or the names of columns. -/
theorem projection?_cases {cs : List ResultColumn} {fields : Option (List String)}
    (h : projection? cs = some (projectionOf fields)) :
    (fields = none ∧ cs = [.all]) ∨
      ∃ names, fields = some names ∧ List.Forall₂ (fun n c => ResultColumn.name? c = some n) names cs := by
  cases fields with
  | none =>
    refine .inl ⟨rfl, ?_⟩
    unfold projection? at h
    split at h
    · rfl
    · obtain ⟨names, -, h⟩ := Option.map_eq_some_iff.mp h
      cases h
  | some names =>
    refine .inr ⟨names, rfl, ?_⟩
    unfold projection? at h
    split at h
    · cases h
    · obtain ⟨names', hnames, h⟩ := Option.map_eq_some_iff.mp h
      cases h
      exact mapM_eq_some_iff.mp hnames

theorem projected_names {names : List String} {cs cs' : List ResultColumn}
    (h : List.Forall₂ (fun n c => ResultColumn.name? c = some n) names cs)
    (h' : List.Forall₂ (fun n c => ResultColumn.name? c = some n) names cs') :
    ∃ ps ps', cs.mapM (projected (lone t)) = .ok ps ∧ cs'.mapM (projected (lone t)) = .ok ps' ∧
      List.Forall₂ (SameProjected t) ps.flatten ps'.flatten := by
  induction h generalizing cs' with
  | nil =>
    cases h'
    exact ⟨[], [], rfl, rfl, .nil⟩
  | cons hc _ ih =>
    cases h' with
    | cons hc' hcs' =>
      obtain ⟨ps, ps', hps, hps', hsame⟩ := ih hcs'
      obtain ⟨e, text, rfl, he⟩ := name?_eq_some hc
      obtain ⟨e', text', rfl, he'⟩ := name?_eq_some hc'
      refine ⟨[.written e none text] :: ps, [.written e' none text'] :: ps', ?_, ?_, .cons (.written he he') hsame⟩
      · rw [List.mapM_cons, hps]
        rfl
      · rw [List.mapM_cons, hps']
        rfl

/-- Two spellings of one projection come to columns that may stand for one another. -/
theorem projected_same {fields : Option (List String)} {cs cs' : List ResultColumn}
    (h : projection? cs = some (projectionOf fields)) (h' : projection? cs' = some (projectionOf fields)) :
    ∃ ps ps', cs.mapM (projected (lone t)) = .ok ps ∧ cs'.mapM (projected (lone t)) = .ok ps' ∧
      List.Forall₂ (SameProjected t) ps.flatten ps'.flatten := by
  obtain ⟨rfl, rfl⟩ | ⟨names, rfl, hnames⟩ := projection?_cases h
  · obtain ⟨-, rfl⟩ | ⟨names, hnone, -⟩ := projection?_cases h'
    · refine ⟨[allColumns (lone t)], [allColumns (lone t)], rfl, rfl, ?_⟩
      rw [List.flatten_singleton, allColumns_lone]
      refine List.forall₂_same.mpr fun p hp => ?_
      obtain ⟨⟨c, i⟩, hc, rfl⟩ := List.mem_map.mp hp
      exact .resolved ⟨c, List.fst_mem_of_mem_zipIdx hc, rfl⟩ (isPlace_columnTerm t i)
    · cases hnone
  · obtain ⟨hnone, -⟩ | ⟨names', hsome, hnames'⟩ := projection?_cases h'
    · cases hnone
    · cases hsome
      exact projected_names hnames hnames'

/-- What has been opened, with columns that may stand for one another. -/
structure SameOpened (t : Table) (o o' : OpenedCore) : Prop where
  known : o.known = lone t ∧ o'.known = lone t
  columns : List.Forall₂ (SameProjected t) o.columns o'.columns

theorem both_openCore (h : db.relation? { name := table } = some (.table t)) {fields : Option (List String)}
    {c c' : Core} (hs : c.sources = [tableSource table]) (hs' : c'.sources = [tableSource table])
    (hc : projection? c.columns = some (projectionOf fields))
    (hc' : projection? c'.columns = some (projectionOf fields)) :
    Both (fun o o' => SameOpened t o o' ∧ o.core = c ∧ o'.core = c') (openCore db.context c) (openCore db.context c') := by
  obtain ⟨ps, ps', hps, hps', hsame⟩ := projected_same (t := t) hc hc'
  have hopen : ∀ {c : Core} {ps}, c.sources = [tableSource table] → c.columns.mapM (projected (lone t)) = .ok ps →
      openCore db.context c =
        if columnLimit < ps.flatten.length then .error .tooManyColumns else .ok ⟨c, lone t, ps.flatten⟩ := by
    intro c ps hs hps
    rw [openCore, hs, openSources_table h]
    show c.columns.mapM (projected (lone t)) >>= _ = _
    rw [hps]
    show (if columnLimit < ps.flatten.length then _ else _ : Except Fault OpenedCore) = _
    split <;> rfl
  rw [hopen hs hps, hopen hs' hps', hsame.length_eq]
  split
  · trivial
  · exact ⟨⟨⟨rfl, rfl⟩, hsame⟩, rfl, rfl⟩

theorem filterMap_same {α β γ : Type} {r : α → β → Prop} {g : α → Option γ} {g' : β → Option γ} {xs : List α}
    {ys : List β} (h : List.Forall₂ r xs ys) (hg : ∀ a b, r a b → g a = g' b) : xs.filterMap g = ys.filterMap g' := by
  induction h with
  | nil => rfl
  | cons hab _ ih => rw [List.filterMap_cons, List.filterMap_cons, hg _ _ hab, ih]

theorem labels_same {ps ps' : List Projected} (h : List.Forall₂ (SameProjected t) ps ps') : labels ps = labels ps' := by
  refine filterMap_same (forall₂_zipIdx h 0) ?_
  rintro ⟨p, i⟩ ⟨p', i'⟩ ⟨hp, hi⟩
  cases hi
  cases hp <;> rfl

/-- Only the columns of a star have labels. -/
theorem labels_lone {ps ps' : List Projected} (h : List.Forall₂ (SameProjected t) ps ps') :
    ∀ l ∈ labels ps, ∃ c ∈ t.columns, l.1 = c.name := by
  intro l hl
  obtain ⟨⟨p, i⟩, hp, hl⟩ := List.mem_filterMap.mp hl
  obtain ⟨p', hsame⟩ : ∃ p', SameProjected t p p' := by
    obtain ⟨hall, -⟩ := (List.forall₂_and_left _ _).mp (h.imp fun a b hab => ⟨(⟨b, hab⟩ : ∃ b, SameProjected t a b), hab⟩)
    exact hall p (List.fst_mem_of_mem_zipIdx hp)
  cases hsame with
  | resolved hname _ =>
    cases hl
    exact hname
  | written _ _ => cases hl

/-- A column of the table has its declared name. -/
theorem declaredName?_place {name : String} {a : Term} (h : t.placeOf? name = some a) :
    ∃ d, declaredName? (lone t) a = some d := by
  unfold Table.placeOf? at h
  split at h
  · rename_i i hi
    obtain rfl := Option.some.inj h
    unfold Known.columnTerm
    split
    · exact ⟨_, rfl⟩
    · obtain ⟨hlt, -⟩ := List.findIdx?_eq_some_iff_getElem.mp hi
      refine ⟨t.columns[i].name, ?_⟩
      simp [declaredName?, hlt]
  · split at h
    · exact ⟨_, by rw [← Option.some.inj h]; rfl⟩
    · cases h

theorem both_outputColumn (hs : IsLone t s) {q q' : Projected} (h : SameProjected t q q') :
    Both (fun c c' => IsPlace c.term ∧ c = c') (outputColumn s q) (outputColumn s q') := by
  cases h with
  | resolved _ hplace => exact ⟨hplace, rfl⟩
  | written he he' =>
    refine (both_column hs he he').bind fun a a' ha => ?_
    obtain ⟨rfl, hplace⟩ := ha
    obtain ⟨d, hd⟩ := declaredName?_place hplace
    rw [hs.sources, hd]
    exact ⟨isPlace_of_placeOf? hplace, rfl⟩

theorem both_columns (hs : IsLone t s) {ps ps' : List Projected} (h : List.Forall₂ (SameProjected t) ps ps') :
    Both (fun cs cs' => (∀ c ∈ cs, IsPlace c.term) ∧ cs = cs') (ps.mapM (outputColumn s)) (ps'.mapM (outputColumn s)) :=
  Both.weaken (Both.mapM h fun _ _ hp => both_outputColumn hs hp) fun cs cs' hcs => by
    rw [List.forall₂_and_left, List.forall₂_eq_eq_eq] at hcs
    exact hcs

/-! ### Order -/

/-- Terms that are one column in one direction. -/
structure SameOrder (o o' : OrderTerm) : Prop where
  column : ∃ name, IsColumn name o.expr ∧ IsColumn name o'.expr
  descending : o.descending = o'.descending
  nullsLast : o.nullsLast = none ∧ o'.nullsLast = none

theorem order_same {os os' : List OrderTerm} {xs : List (String × Direction)} (h : os.mapM OrderTerm.term? = some xs)
    (h' : os'.mapM OrderTerm.term? = some xs) : List.Forall₂ SameOrder os os' := by
  have hterm : ∀ {o : OrderTerm} {x : String × Direction}, o.term? = some x →
      IsColumn x.1 o.expr ∧ o.descending = (x.2 == .descending) ∧ o.nullsLast = none := by
    intro o x hx
    unfold OrderTerm.term? at hx
    split at hx
    · rename_i hnulls
      obtain ⟨name, hname, rfl⟩ := Option.map_eq_some_iff.mp hx
      refine ⟨column?_iff.mp hname, ?_, hnulls⟩
      cases o.descending <;> rfl
    · cases hx
  have hos := mapM_eq_some_iff.mp h
  have hos' := mapM_eq_some_iff.mp h'
  clear h h'
  induction hos generalizing os' with
  | nil =>
    cases hos'
    exact .nil
  | cons ho _ ih =>
    cases hos' with
    | cons ho' hos' =>
      obtain ⟨hname, hdescending, hnulls⟩ := hterm ho
      obtain ⟨hname', hdescending', hnulls'⟩ := hterm ho'
      exact .cons ⟨⟨_, hname, hname'⟩, hdescending.trans hdescending'.symm, hnulls, hnulls'⟩ (ih hos')

variable {q : Placing} {o o' : OrderTerm} {os os' : List OrderTerm}

/-- A term of an order is a result column by its name, or a column of the table. -/
theorem both_term (hs : IsLone t q.scope) (hq : ∀ a ∈ q.columns, IsPlace a) (h : SameOrder o o') (n : Nat) :
    Both (fun a a' => IsSimple a ∧ a = a') (q.term o n) (q.term o' n) := by
  obtain ⟨⟨name, he, he'⟩, -, -⟩ := h
  have hcolumn := both_column hs he he'
  obtain ⟨offset, he⟩ := he
  obtain ⟨offset', he'⟩ := he'
  rw [he, he'] at hcolumn
  have hlone : ∀ {o : OrderTerm} {offset : Nat}, o.expr = .column { name, offset } → q.term o n =
      ((q.names.find? fun l => sameName l.1 name).map (·.2)).elim (resolve q.scope o.expr) fun i =>
        .ok ((q.columns[i]?).getD (.literal .null)) := by
    intro o offset he
    simp only [Placing.term, he, uncollated, labelled?, loneName?, place?, Option.bind_some]
    cases (q.names.find? fun l => sameName l.1 name).map (·.2) <;> rfl
  rw [hlone he, hlone he', he, he']
  cases (q.names.find? fun l => sameName l.1 name).map (·.2) with
  | some i =>
    refine ⟨?_, rfl⟩
    cases hi : q.columns[i]? with
    | some a => exact .inl (hq a (List.mem_of_getElem? hi))
    | none => exact .inr ⟨.null, rfl⟩
  | none => exact hcolumn.weaken fun a a' ha => ⟨.inl (isPlace_of_placeOf? ha.2), ha.1.symm⟩

theorem both_terms (hs : IsLone t q.scope) (hq : ∀ a ∈ q.columns, IsPlace a) (h : List.Forall₂ SameOrder os os') :
    Both (fun ts ts' => (∀ a ∈ ts, IsSimple a) ∧ ts = ts') (q.terms os) (q.terms os') :=
  Both.weaken (Both.mapM (forall₂_zipIdx h 0) fun x y hxy => by
    obtain ⟨o, n⟩ := x
    obtain ⟨o', n'⟩ := y
    obtain ⟨ho, rfl⟩ := hxy
    exact both_term hs hq ho n) fun ts ts' hts => by
    rw [List.forall₂_and_left, List.forall₂_eq_eq_eq] at hts
    exact hts

/-! ### One SELECT -/

/-- The scope of the query, with its result columns by their labels. -/
def labelledScope (db : Database) (t : Table) (cs : List OutputColumn) (names : List (String × Nat))
    (aggregating : Bool) : Scope :=
  { db.context.scope (lone t) with
    labels := names.map fun x => (x.1, ((cs[x.2]?).map (·.term)).getD (.literal .null))
    aggregating }

/-- A query of the table, whose rows are met in the way that is best. -/
def plannedQuery (t : Table) (cs : List OutputColumn) (os : List OrderTerm) (conditions order : List Term) :
    TableQuery where
  columns := cs
  table := t
  scan := t.scan? (conditions.flatMap Term.conjuncts)
    (((os.zip order).map fun x => sortTerm x.1 x.2).head?.map fun o => (o.term, o.descending))
    (Term.columnsReadAmong (cs.map (·.term) ++ conditions ++ order))
  order := (os.zip order).map fun x => sortTerm x.1 x.2

/-- What is prepared of a query once its names are resolved. -/
def finished (t : Table) (cs : List OutputColumn) (os : List OrderTerm) (condition : Option Term)
    (order : List Term) : Except Fault (PreparedCore × List SortTerm) := do
  misplaced condition.toList
  misplaced order
  let q := plannedQuery t cs os condition.toList order
  return (q.core condition.toList, q.order)

/-- The terms of an order, which may be result columns by their labels. -/
def orderPlacing (db : Database) (t : Table) (cs : List OutputColumn) (names : List (String × Nat)) : Placing where
  clause := "ORDER"
  columns := cs.map (·.term)
  names := names
  scope := labelledScope db t cs names true

theorem ok_bind {α β : Type} (a : α) (g : α → Except Fault β) : Except.ok a >>= g = g a := rfl

variable {op op' : OpenedCore}

/-- A query of a table without groups is prepared from its columns, its condition and its order. -/
theorem prepareCore_lone {columns : List ResultColumn} {condition : Option Expr} (hknown : op.known = lone t)
    (hcore : op.core = { columns, sources := [tableSource table], condition })
    (hplaces : ∀ cs, op.columns.mapM (outputColumn (labelledScope db t [] [] true)) = .ok cs →
      ∀ c ∈ cs, IsPlace c.term) (os : List OrderTerm) :
    prepareCore db.context op os =
      op.columns.mapM (outputColumn (labelledScope db t [] [] true)) >>= fun cs =>
      resolve? (labelledScope db t cs (labels op.columns) false) condition >>= fun condition =>
      (orderPlacing db t cs (labels op.columns)).terms os >>= fun order => finished t cs os condition order := by
  have hjoins : ∀ s : Scope, (([tableSource table].zip (lone t)).zipIdx.mapM fun x => joinTerms s x.1.1 x.1.2 x.2) =
      .ok [[]] := by
    intro s
    rw [List.zip_cons_cons, List.zipIdx_cons, List.mapM_cons]
    simp only [joinTerms, tableSource]
    rw [resolve?]
    rfl
  have hgroups : ∀ q : Placing, q.terms [] = .ok [] := fun _ => rfl
  have hjoined : joinedConditions (lone t) [[]] = ([{ table := t }], []) := rfl
  unfold prepareCore
  rw [hcore, hknown]
  show op.columns.mapM (outputColumn (labelledScope db t [] [] true)) >>= _ = _
  cases hcs : op.columns.mapM (outputColumn (labelledScope db t [] [] true)) with
  | error fault => rfl
  | ok cs =>
  have hgrouping : cs.any (·.term.hasAggregate) = false := by
    refine List.any_eq_false.mpr fun c hc => ?_
    simp [Term.hasAggregate, (hplaces cs hcs c hc).aggregates]
  rw [ok_bind, ok_bind]
  simp only [hgrouping, hjoins, List.isEmpty_nil, Bool.not_true, Bool.or_false, Bool.not_false, Option.isSome_none,
    Bool.and_true, Bool.false_eq_true, if_false]
  rw [resolve?]
  simp only [ok_bind, hgroups, hjoined, List.any_nil, Bool.false_eq_true, if_false, if_true, Option.toList_none,
    List.append_nil, List.filterMap_cons_none, List.filterMap_nil]
  rfl

theorem misplaced_none {ts : List Term} (h : ∀ a ∈ ts, a.aggregates = []) : misplaced ts = .ok () := by
  have hnone : ts.flatMap Term.aggregates = [] := List.flatMap_eq_nil_iff.mpr h
  rw [misplaced, hnone]
  rfl

theorem columnsReadAmong_eq (ts : List Term) : Term.columnsReadAmong ts = ts.flatMap Term.columnsRead := by
  induction ts with
  | nil => rfl
  | cons a ts ih => rw [Term.columnsReadAmong, ih, List.flatMap_cons]

theorem sorting_same (h : List.Forall₂ SameOrder os os') (order : List Term) :
    (os.zip order).map (fun x => sortTerm x.1 x.2) = (os'.zip order).map (fun x => sortTerm x.1 x.2) := by
  induction h generalizing order with
  | nil => rfl
  | cons ho _ ih =>
    cases order with
    | nil => rfl
    | cons a order =>
      rw [List.zip_cons_cons, List.zip_cons_cons, List.map_cons, List.map_cons, ih]
      simp [sortTerm, ho.descending, ho.nullsLast]

/-- Two preparations that differ in their conditions alone. -/
def SameQuery (p p' : Array Value) (r r' : PreparedCore × List SortTerm) : Prop :=
  ∃ (q : TableQuery) (ts ts' : List Term), q.Simple ∧ List.Forall₂ (SameTerm p p') ts ts' ∧
    r = (q.core ts, q.order) ∧ r' = (q.core ts', q.order)

theorem both_finished {cs : List OutputColumn} {c c' : Option Term} {order : List Term}
    (hplaces : ∀ c ∈ cs, IsPlace c.term) (horder : ∀ a ∈ order, IsSimple a) (hos : List.Forall₂ SameOrder os os')
    (hc : Option.Rel (SameTerm p p') c c') :
    Both (SameQuery p p') (finished t cs os c order) (finished t cs os' c' order) := by
  have hlist : List.Forall₂ (SameTerm p p') c.toList c'.toList := by
    cases hc with
    | some h => exact .cons h .nil
    | none => exact .nil
  have hmisplaced : misplaced c.toList = .ok () ∧ misplaced c'.toList = .ok () := by
    cases hc with
    | some h => exact ⟨misplaced_none (by simpa using h.aggregates.1), misplaced_none (by simpa using h.aggregates.2)⟩
    | none => exact ⟨rfl, rfl⟩
  have hread : Term.columnsReadAmong (cs.map (·.term) ++ c.toList ++ order) =
      Term.columnsReadAmong (cs.map (·.term) ++ c'.toList ++ order) := by
    rw [columnsReadAmong_eq, columnsReadAmong_eq]
    cases hc with
    | some h => simp [h.read]
    | none => rfl
  have hbounds : (c.toList.flatMap Term.conjuncts).filterMap Plan.boundOf? =
      (c'.toList.flatMap Term.conjuncts).filterMap Plan.boundOf? :=
    filterMap_same (conjuncts_same hlist) fun _ _ hab => hab.bound
  have hquery : plannedQuery t cs os c.toList order = plannedQuery t cs os' c'.toList order := by
    unfold plannedQuery Table.scan?
    rw [hread, hbounds, sorting_same hos order]
  have hsimple : ∀ o ∈ (plannedQuery t cs os' c'.toList order).order, IsSimple o.term := by
    intro o ho
    obtain ⟨⟨o', a⟩, hmem, rfl⟩ := List.mem_map.mp ho
    exact horder a (List.of_mem_zip hmem).2
  rw [finished, finished, hmisplaced.1, hmisplaced.2, misplaced_none fun a ha => (horder a ha).aggregates, hquery]
  exact ⟨plannedQuery t cs os' c'.toList order, c.toList, c'.toList, ⟨fun c hc => .inl (hplaces c hc), hsimple⟩,
    hlist, rfl, rfl⟩

theorem both_prepareCore {columns columns' : List ResultColumn} {condition condition' : Option Expr}
    (ho : SameOpened t op op') (hcore : op.core = { columns, sources := [tableSource table], condition })
    (hcore' : op'.core = { columns := columns', sources := [tableSource table], condition := condition' })
    (hc : ∀ s, IsLone t s → Both (Option.Rel (SameTerm p p')) (resolve? s condition) (resolve? s condition'))
    (hos : List.Forall₂ SameOrder os os') :
    Both (SameQuery p p') (prepareCore db.context op os) (prepareCore db.context op' os') := by
  have hlone : ∀ cs aggregating, IsLone t (labelledScope db t cs (labels op.columns) aggregating) := by
    refine fun cs aggregating => ⟨rfl, rfl, fun l hl => ?_, rfl, rfl⟩
    obtain ⟨x, hx, rfl⟩ := List.mem_map.mp hl
    exact labels_lone ho.columns x hx
  have hcolumns := both_columns (s := labelledScope db t [] [] true) ⟨rfl, rfl, List.forall_mem_nil _, rfl, rfl⟩ ho.columns
  have hplaces : ∀ cs, op.columns.mapM (outputColumn (labelledScope db t [] [] true)) = .ok cs →
      ∀ c ∈ cs, IsPlace c.term := by
    intro cs hcs
    obtain ⟨cs', -, h, -⟩ := (hcs ▸ hcolumns).left
    exact h
  have hplaces' : ∀ cs, op'.columns.mapM (outputColumn (labelledScope db t [] [] true)) = .ok cs →
      ∀ c ∈ cs, IsPlace c.term := by
    intro cs hcs
    obtain ⟨cs', -, h, rfl⟩ := (hcs ▸ hcolumns).right
    exact h
  rw [prepareCore_lone ho.known.1 hcore hplaces, prepareCore_lone ho.known.2 hcore' hplaces', ← labels_same ho.columns]
  refine hcolumns.bind fun cs cs' hcs => ?_
  obtain ⟨hcs, rfl⟩ := hcs
  refine (hc _ (hlone cs false)).bind fun c c' hc => ?_
  have hterms := both_terms (q := orderPlacing db t cs (labels op.columns)) (hlone cs true)
    (by simpa [orderPlacing] using hcs) hos
  refine hterms.bind fun order order' horder => ?_
  obtain ⟨hsimple, rfl⟩ := horder
  exact both_finished hcs hsimple hos hc

/-! ### Bounds -/

theorem resolve_numeral (s : Scope) (j : Nat) : ∃ v, resolve s (numeralExpr j) = .ok (.literal v) := by
  unfold numeralExpr
  split
  · rename_i x _
    cases x with
    | integer n => exact ⟨_, by rw [literalOf, resolve]⟩
    | real x => exact ⟨_, by rw [literalOf, resolve]⟩
  · exact ⟨_, by rw [resolve]⟩

theorem resolve_minusOne (s : Scope) : resolve s minusOne = .ok (.literal (.integer (-1))) := by
  rw [minusOne, numeralExpr_eq (by decide), resolve, resolve]
  rfl

/-- A bound is a value. -/
theorem resolve?_limit (s : Scope) (l o : Option UInt64) :
    ∃ v : Option Value, resolve? s (limitExpr? l o) = .ok (v.map .literal) := by
  cases l with
  | some x =>
    obtain ⟨v, hv⟩ := resolve_numeral s x.toNat
    exact ⟨some v, by rw [limitExpr?, resolve?, hv]; rfl⟩
  | none =>
    cases o with
    | some y => exact ⟨some (.integer (-1)), by rw [limitExpr?, resolve?, resolve_minusOne]; rfl⟩
    | none => exact ⟨none, by rw [limitExpr?, resolve?]; rfl⟩

theorem resolve?_offset (s : Scope) (o : Option UInt64) :
    ∃ v : Option Value, resolve? s (offsetExpr? o) = .ok (v.map .literal) := by
  cases o with
  | some x =>
    obtain ⟨v, hv⟩ := resolve_numeral s x.toNat
    exact ⟨some v, by rw [offsetExpr?, Option.map_some, resolve?, hv]; rfl⟩
  | none => exact ⟨none, by rw [offsetExpr?, Option.map_none, resolve?]; rfl⟩

/-- A query of one part is prepared from what is opened and from its bounds. -/
theorem prepareSelect_single (db : Database) (c : Core) (os : List OrderTerm) (limit offset : Option Expr) :
    prepareSelect db.context { first := .select c, order := os, limit, offset } =
      openCore db.context c >>= fun o =>
      resolve? db.context.bare limit >>= fun limit =>
      resolve? db.context.bare offset >>= fun offset =>
      prepareCore db.context o os >>= fun r =>
      .ok { columns := r.1.columns.map (·.name), first := .core r.1, others := [], order := r.2, limit, offset } := by
  unfold prepareSelect
  show backward (openPart db.context) [.select c] >>= _ = _
  rw [backward, backward, openPart]
  cases openCore db.context c with
  | error fault => rfl
  | ok o =>
    show resolve? db.context.bare limit >>= _ = resolve? db.context.bare limit >>= _
    refine bind_congr fun limit => ?_
    refine bind_congr fun offset => ?_
    show prepareCore db.context o os >>= _ = _
    refine bind_congr fun r => ?_
    rfl

/-! ### Listings -/

variable {params params' : List Value} {k k' : Nat} {b b' : ListBinding} {flt : Filter} {options : QueryOptions}
  {q q' : Select}

/-- The queries of one listing under two bindings give the same rows in the same order, or
neither is a query of the table. -/
theorem both_select (ht : db.relation? { name := table } = some (.table t)) (h : IsSelect b table flt options k q)
    (h' : IsSelect b' table flt options k' q') (hv : SentFrom params k (valuesFor b flt.entries))
    (hv' : SentFrom params' k' (valuesFor b' flt.entries)) (hw : HandedAlike t b b' flt.entries) :
    Both (fun r r' => r.columns = r'.columns ∧ ∀ f : Frame,
        runSelect { f with params := params.toArray } r = runSelect { f with params := params'.toArray } r')
      (prepareSelect db.context q) (prepareSelect db.context q') := by
  obtain ⟨columns, condition, order, rfl, hcolumns, hcondition, horder⟩ := h
  obtain ⟨columns', condition', order', rfl, hcolumns', hcondition', horder'⟩ := h'
  obtain ⟨limit, hlimit⟩ := resolve?_limit db.context.bare options.limit? options.offset?
  obtain ⟨offset, hoffset⟩ := resolve?_offset db.context.bare options.offset?
  rw [prepareSelect_single, prepareSelect_single, hlimit, hoffset]
  refine (both_openCore ht rfl rfl hcolumns hcolumns').bind fun o o' ho => ?_
  obtain ⟨ho, hcore, hcore'⟩ := ho
  rw [ok_bind, ok_bind, ok_bind, ok_bind]
  refine (both_prepareCore ho hcore hcore' (fun s hs => both_condition hcondition hcondition' hv hv' hw hs)
    (order_same horder horder')).bind fun r r' hr => ?_
  obtain ⟨q, ts, ts', hq, hts, rfl, rfl⟩ := hr
  exact ⟨rfl, fun f => runSelect_same hq hts limit offset f⟩

end TableKeeper.Engine
