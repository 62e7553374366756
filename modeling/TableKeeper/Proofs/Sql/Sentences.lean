import TableKeeper.Proofs.Sql.Requests

/-!
  TableKeeper.Proofs.Sql.Sentences — the grammar of statements, and which requests keep to it.

  1. A sentence is one of four forms over tokens (`IsSentence`). A list in it has at least one
     part, and an optional part is there as a whole or not at all; only the brackets of IN may
     be empty.
  2. The slots of a request are a sentence when the request names a column wherever it has a
     list of them (`Request.sentence`). A projection on no column is none
     (`not_sentence_of_no_field`).
-/

namespace TableKeeper.Sql

open Slot

/-! ## The grammar -/

/-- One part or more with `sep` between them; `n` says how many. -/
inductive Separated (sep : Token) (IsPart : List Token → Prop) : Nat → List Token → Prop where
  | one {part : List Token} (h : IsPart part) : Separated sep IsPart 1 part
  | more {part rest : List Token} {n : Nat} (h : IsPart part) (hrest : Separated sep IsPart n rest) :
      Separated sep IsPart (n + 1) (part ++ sep :: rest)

abbrev CommaSeparated := Separated (.symbol ",")

/-- A part that may be left out. -/
def Optionally (IsPart : List Token → Prop) (ts : List Token) : Prop := ts = [] ∨ IsPart ts

inductive IsIdentifier : List Token → Prop where
  | quoted (n : String) : IsIdentifier [.name '`' n]

inductive IsPlaceholder : List Token → Prop where
  | anonymous : IsPlaceholder [.parameter none]

inductive IsInteger : List Token → Prop where
  | unsigned (n : Nat) : IsInteger [numeral n]
  | negative (n : Nat) : IsInteger [.symbol "-", numeral n]

inductive IsItem : List Token → Prop where
  | placeholder : IsItem [.parameter none]
  | literal (v : Value) : IsItem [literalToken v]

inductive IsPredicate : List Token → Prop where
  | equals (n : String) : IsPredicate [.name '`' n, .symbol "=", .parameter none]
  | like (n : String) : IsPredicate [.name '`' n, .word "LIKE", .parameter none]
  | oneOf (n : String) {items : List Token} (h : Optionally (fun ts => ∃ k, CommaSeparated IsItem k ts) items) :
      IsPredicate ([.name '`' n, .word "IN", .symbol "("] ++ items ++ [.symbol ")"])

inductive IsOrderTerm : List Token → Prop where
  | directed (n : String) (d : Direction) : IsOrderTerm [.name '`' n, .word d.text]

inductive IsCondition : List Token → Prop where
  | where {ps : List Token} {k : Nat} (h : Separated (.word "AND") IsPredicate k ps) :
      IsCondition (.word "WHERE" :: ps)

inductive IsOrder : List Token → Prop where
  | orderBy {ts : List Token} {k : Nat} (h : CommaSeparated IsOrderTerm k ts) :
      IsOrder (.word "ORDER" :: .word "BY" :: ts)

inductive IsPage : List Token → Prop where
  | limit {n : List Token} (h : IsInteger n) : IsPage (.word "LIMIT" :: n)
  | limitOffset {n m : List Token} (hn : IsInteger n) (hm : IsInteger m) :
      IsPage (.word "LIMIT" :: n ++ .word "OFFSET" :: m)

inductive IsTail : List Token → Prop where
  | tail {condition order page : List Token} (hc : Optionally IsCondition condition) (ho : Optionally IsOrder order)
      (hp : Optionally IsPage page) : IsTail (condition ++ order ++ page)

inductive IsProjection : List Token → Prop where
  | all : IsProjection [.symbol "*"]
  | count : IsProjection [.word "count", .symbol "(", .symbol "*", .symbol ")"]
  | columns {ns : List Token} {k : Nat} (h : CommaSeparated IsIdentifier k ns) : IsProjection ns

inductive IsAssignment : List Token → Prop where
  | parameter (n : String) : IsAssignment [.name '`' n, .symbol "=", .parameter none]

/-- A column takes the value that the row would have had. -/
inductive IsOverwrite : List Token → Prop where
  | excluded (n : String) :
      IsOverwrite [.name '`' n, .symbol "=", .word "excluded", .symbol ".", .name '`' n]

inductive IsAction : List Token → Prop where
  | nothing : IsAction [.word "NOTHING"]
  | update {ts : List Token} {k : Nat} (h : CommaSeparated IsOverwrite k ts) :
      IsAction (.word "UPDATE" :: .word "SET" :: ts)

inductive IsOnConflict : List Token → Prop where
  | key {action : List Token} (h : IsAction action) :
      IsOnConflict ([.word "ON", .word "CONFLICT", .symbol "(", .name '`' "id", .symbol ")", .word "DO"] ++ action)

inductive IsSentence : List Token → Prop where
  | select (table : String) {projection tail : List Token} (hp : IsProjection projection) (ht : IsTail tail) :
      IsSentence (.word "SELECT" :: projection ++ [.word "FROM", .name '`' table] ++ tail)
  | delete (table : String) {condition : List Token} (hc : Optionally IsCondition condition) :
      IsSentence ([.word "DELETE", .word "FROM", .name '`' table] ++ condition)
  /-- There are as many placeholders as columns. -/
  | insert (table : String) {k : Nat} {columns values conflict : List Token}
      (hc : CommaSeparated IsIdentifier k columns) (hv : CommaSeparated IsPlaceholder k values)
      (ho : Optionally IsOnConflict conflict) :
      IsSentence ([.word "INSERT", .word "INTO", .name '`' table, .symbol "("] ++ columns
        ++ [.symbol ")", .word "VALUES", .symbol "("] ++ values ++ [.symbol ")"] ++ conflict)
  | update (table : String) {k : Nat} {assignments : List Token} (h : CommaSeparated IsAssignment k assignments) :
      IsSentence ([.word "UPDATE", .name '`' table, .word "SET"] ++ assignments
        ++ [.word "WHERE", .name '`' "id", .symbol "=", .parameter none])

/-- The text is read as the tokens of a sentence. -/
def Grammatical (text : String) : Prop := ∃ ts, tokens text.toList = ts ++ [.ending] ∧ IsSentence ts

/-! ## Lists of slots -/

variable {α : Type} {IsPart : List Token → Prop}

theorem separated_intercalate (sep : Slot) {slots : α → List Slot} {xs : List α} (hne : xs ≠ [])
    (h : ∀ x ∈ xs, IsPart ((slots x).map token)) :
    Separated sep.token IsPart xs.length (([sep].intercalate (xs.map slots)).map token) := by
  induction xs with
  | nil => exact absurd rfl hne
  | cons x xs ih =>
    have hx := h x List.mem_cons_self
    cases xs with
    | nil => simpa using Separated.one hx
    | cons y ys =>
      have hrest := ih (List.cons_ne_nil y ys) fun z hz => h z (List.mem_cons_of_mem x hz)
      simpa [List.intercalate_cons_cons] using Separated.more hx hrest

theorem separated_commas {slots : α → List Slot} {xs : List α} (hne : xs ≠ [])
    (h : ∀ x ∈ xs, IsPart ((slots x).map token)) :
    CommaSeparated IsPart xs.length ((commaSlots (xs.map slots)).map token) :=
  separated_intercalate (mark ",") hne h

/-- A listing is left out when it is empty, with the words in front of it. -/
theorem optionally_listing {IsWhole : List Token → Prop} {lead : List Slot} {sep : Slot} {slots : α → List Slot}
    {xs : List α} (h : ∀ x ∈ xs, IsPart ((slots x).map token))
    (hwhole : ∀ {k ts}, Separated sep.token IsPart k ts → IsWhole (lead.map token ++ ts)) :
    Optionally IsWhole ((listingSlots lead [sep] (xs.map slots)).map token) := by
  cases xs with
  | nil => exact .inl rfl
  | cons x xs =>
    refine .inr ?_
    have hparts := separated_intercalate sep (List.cons_ne_nil x xs) h
    simpa [listingSlots] using hwhole hparts

/-! ## Clauses -/

theorem predicate_sentence (b : ListBinding) (e : String × Constraint) :
    IsPredicate ((predicateSlots b e).map token) := by
  obtain ⟨field, c⟩ := e
  cases c with
  | equals v => exact .equals field
  | «matches» p => exact .like field
  | oneOf vs =>
    have hitem : ∀ v ∈ vs, IsItem ([itemSlot b v].map token) := fun v _ => by
      cases b with
      | bound => exact .placeholder
      | inline => exact .literal v
    have hitems : Optionally (fun ts => ∃ k, CommaSeparated IsItem k ts)
        ((commaSlots (vs.map fun v => [itemSlot b v])).map token) := by
      cases vs with
      | nil => exact .inl rfl
      | cons v vs => exact .inr ⟨_, separated_commas (List.cons_ne_nil v vs) hitem⟩
    simpa [predicateSlots, token] using IsPredicate.oneOf field hitems

theorem filter_sentence (b : ListBinding) (f : Filter) : Optionally IsCondition ((filterSlots b f).map token) :=
  optionally_listing (fun e _ => predicate_sentence b e) .where

theorem order_sentence (o : QueryOptions) : Optionally IsOrder ((orderSlots o).map token) :=
  optionally_listing (fun t _ => .directed t.1 t.2) .orderBy

theorem page_sentence (limit offset : Option UInt64) :
    Optionally IsPage ((limitSlots limit offset ++ offsetSlots offset).map token) := by
  cases limit with
  | some n =>
    cases offset with
    | some m => exact .inr (.limitOffset (.unsigned n.toNat) (.unsigned m.toNat))
    | none => exact .inr (.limit (.unsigned n.toNat))
  | none =>
    cases offset with
    | some m => exact .inr (.limitOffset (.negative 1) (.unsigned m.toNat))
    | none => exact .inl rfl

theorem clause_sentence (b : ListBinding) (f : Filter) (o : QueryOptions) :
    IsTail ((clauseSlots b f o).map token) := by
  have htail := IsTail.tail (filter_sentence b f) (order_sentence o) (page_sentence o.limit? o.offset?)
  simpa [clauseSlots] using htail

/-! ## Requests -/

/-- The request names a column wherever it has a list of them. -/
def Request.NamesColumns : Request → Prop
  | .rows _ o => o.fields ≠ some []
  | .insert r | .update _ r | .upsert r => r.entries ≠ []
  | .row _ | .count _ | .delete _ => True

theorem projection_sentence {fields : Option (List String)} (h : fields ≠ some []) :
    IsProjection ((projectionSlots fields).map token) := by
  cases fields with
  | none => exact .all
  | some ns =>
    have hne : ns ≠ [] := fun hnil => h (by rw [hnil])
    exact .columns (separated_commas hne fun n _ => .quoted n)

theorem select_sentence (b : ListBinding) (table : String) (f : Filter) {o : QueryOptions} (h : o.fields ≠ some []) :
    IsSentence ((Request.slots b table (.rows f o)).map token) := by
  have hselect := IsSentence.select table (projection_sentence h) (clause_sentence b f o)
  simpa [Request.slots, token] using hselect

theorem insert_sentence (table : String) {r : Record} (hr : r.entries ≠ []) (conflict : List Slot)
    (hconflict : Optionally IsOnConflict (conflict.map token)) :
    IsSentence ((insertSlots table r ++ conflict).map token) := by
  have hcolumns : CommaSeparated IsIdentifier r.entries.length
      ((commaSlots (r.entries.map fun e => [name e.1])).map token) :=
    separated_commas hr fun e _ => .quoted e.1
  have hvalues : CommaSeparated IsPlaceholder r.entries.length
      ((commaSlots (r.entries.map fun e => [parameter e.2])).map token) :=
    separated_commas hr fun _ _ => .anonymous
  have hinsert := IsSentence.insert table hcolumns hvalues hconflict
  simpa [insertSlots, token] using hinsert

theorem conflict_sentence (r : Record) : IsAction ((conflictSlots r).map token) := by
  unfold conflictSlots
  split
  · exact .nothing
  next hover =>
    have hne : overwritten r.names ≠ [] := by simpa using hover
    exact .update (separated_commas hne fun c _ => .excluded c)

theorem update_sentence (b : ListBinding) (table : String) (key : Value) {r : Record} (hr : r.entries ≠ []) :
    IsSentence ((Request.slots b table (.update key r)).map token) := by
  have hassignments : CommaSeparated IsAssignment r.entries.length
      ((commaSlots (r.entries.map assignmentSlots)).map token) :=
    separated_commas hr fun e _ => .parameter e.1
  have hupdate := IsSentence.update table hassignments
  simpa [Request.slots, keySlots, Record.idColumn, token] using hupdate

/-- A request that names a column wherever it must is a sentence. -/
theorem Request.sentence (b : ListBinding) (table : String) {q : Request} (h : q.NamesColumns) :
    IsSentence ((q.slots b table).map token) := by
  cases q with
  | rows f o => exact select_sentence b table f h
  | row key => exact select_sentence b table (Filter.byId key) (o := {}) nofun
  | count f =>
    have hcount := IsSentence.select table .count (clause_sentence b f {})
    simpa [Request.slots, token] using hcount
  | delete f =>
    rw [Request.slots, clauseSlots_default, List.map_append]
    exact .delete table (filter_sentence b f)
  | insert r => simpa [Request.slots] using insert_sentence table h [] (.inl rfl)
  | update key r => exact update_sentence b table key h
  | upsert r =>
    have hconflict := IsOnConflict.key (conflict_sentence r)
    have hupsert := insert_sentence table h ([word "ON", word "CONFLICT", mark "(", name Record.idColumn,
      mark ")", word "DO"] ++ conflictSlots r) (.inr hconflict)
    rwa [← List.append_assoc] at hupsert

/-! ## A projection on no column -/

/-- A list of identifiers begins with one. -/
theorem head_of_separated {sep : Token} {k : Nat} {ts : List Token} (h : Separated sep IsIdentifier k ts) :
    ∃ n rest, ts = .name '`' n :: rest := by
  cases h with
  | one hpart =>
    obtain ⟨n⟩ := hpart
    exact ⟨n, [], rfl⟩
  | more hpart =>
    obtain ⟨n⟩ := hpart
    exact ⟨n, _, rfl⟩

theorem projection_head {projection : List Token} (h : IsProjection projection) :
    ∃ t rest, projection = t :: rest ∧ t ≠ .word "FROM" := by
  cases h with
  | all => exact ⟨_, _, rfl, by simp⟩
  | count => exact ⟨_, _, rfl, by simp⟩
  | columns hns =>
    obtain ⟨n, rest, rfl⟩ := head_of_separated hns
    exact ⟨_, _, rfl, by simp⟩

/-- Nothing stands between SELECT and FROM in such a request, so it is no sentence. -/
theorem not_sentence_of_no_field (b : ListBinding) (table : String) (f : Filter) {o : QueryOptions}
    (h : o.fields = some []) : ¬ IsSentence ((Request.slots b table (.rows f o)).map token) := by
  have hslots : (Request.slots b table (.rows f o)).map token =
      .word "SELECT" :: .word "FROM" :: .name '`' table :: (clauseSlots b f o).map token := by
    simp [Request.slots, h, projectionSlots, commaSlots, token]
  rw [hslots]
  generalize hts : Token.word "SELECT" :: .word "FROM" :: .name '`' table :: (clauseSlots b f o).map token = ts
  intro hsentence
  cases hsentence with
  | select t hp ht =>
    obtain ⟨first, rest, rfl, hfirst⟩ := projection_head hp
    simp only [List.cons_append, List.cons.injEq] at hts
    exact hfirst hts.2.1.symm
  | delete t hc => simp at hts
  | insert t hc hv ho => simp at hts
  | update t ha => simp at hts

end TableKeeper.Sql
