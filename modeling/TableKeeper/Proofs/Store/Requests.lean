import TableKeeper.Proofs.Program
import TableKeeper.Proofs.Sql.Requests
import TableKeeper.Store.Operations

/-!
  TableKeeper.Proofs.Store.Requests — which statements an operation sends.

  1. An operation is data, and `requests` are the statements that it may send. Which of
     them it sends is up to the replies; it sends no other (`Store.sends_requested`).
  2. A statement whose names are plain is read as the slots of its request, and its values
     are those of the slots (`Store.Aligned`): each stands where its parameter is.
-/

namespace TableKeeper

open Sql

/-! ## Operations -/

inductive Operation : Type 1 where
  | exists (i : Identifier)
  | read (i : Identifier)
  | write (id : Option Value) (r : Record)
  | writeChecked (id : Option Value) (r : Record)
  | create (id : Option Value) (r : Record)
  | update (id : Value) (r : Record)
  | remove (i : Identifier)
  | list (f : Filter) (o : QueryOptions)
  | iterate {α : Type} (f : Filter) (o : QueryOptions) (reader : Reader α)
  | count (f : Filter) (o : QueryOptions)

namespace Operation

/-- What the operation gives back. -/
def Result : Operation → Type
  | .exists _ => Bool
  | read _ => Option Record
  | write _ _ => WriteOutcome
  | writeChecked _ _ => WriteOutcome
  | create _ _ => WriteOutcome
  | update _ _ => WriteOutcome
  | remove _ => WriteOutcome
  | list _ _ => List Record
  | @iterate α _ _ _ => α
  | count _ _ => Nat

def name : Operation → String
  | .exists _ => "exists"
  | read _ => "read"
  | write _ _ => "write"
  | writeChecked _ _ => "write_checked"
  | create _ _ => "create"
  | update _ _ => "update"
  | remove _ => "remove"
  | list _ _ => "list"
  | iterate _ _ _ => "iterate"
  | count _ _ => "count"

end Operation

def Store.perform (st : Store) : (op : Operation) → Call op.Result
  | .exists i => st.exists? i
  | .read i => st.read i
  | .write id r => st.write id r
  | .writeChecked id r => st.writeChecked id r
  | .create id r => st.create id r
  | .update id r => st.update id r
  | .remove i => st.remove i
  | .list f o => st.list f o
  | .iterate f o reader => st.iterate f o reader
  | .count f o => st.count f o

namespace Operation

open Store

/-- Back-ticks keep every name of the operation's arguments. -/
def IsPlain : Operation → Prop
  | .exists i => PlainNames i.toFilter
  | read i => PlainNames i.toFilter
  | write _ r => PlainNames r
  | writeChecked _ r => PlainNames r
  | create _ r => PlainNames r
  | update _ r => PlainNames r
  | remove i => PlainNames i.toFilter
  | list f o => PlainQuery f o
  | iterate f o _ => PlainQuery f o
  | count f _ => PlainNames f

/-- The requests of a write that looks for the row first. -/
def checkedRequests (id : Option Value) (r : Record) : List Request :=
  match truthy? id with
  | some key => [.rows (.byId key) existenceOptions, .update key r, .insert (keyed (some key) r)]
  | none => [.insert r]

/-- The requests that an operation may send, in the order in which it comes to them. -/
def requests : Operation → List Request
  | .exists i => [.rows i.toFilter existenceOptions]
  | read (.key v) => [.row v]
  | read i => [.rows i.toFilter { limit := some 1 }]
  | write id r =>
    match truthy? id with
    | none => [.insert r]
    | some key =>
      if renames key r then checkedRequests (some key) r
      else .upsert (r.withId key) :: checkedRequests (some key) (r.withId key)
  | writeChecked id r => checkedRequests id r
  | create id r => [.insert (keyed id r)]
  | update id r => [.update id r]
  | remove i => [.delete i.toFilter]
  | list f o => [.rows f o]
  | iterate f o _ => [.rows f o]
  | count f _ => [.count f]

end Operation

namespace Store

/-- The statement of a request, unless it would write no column. -/
def requested (st : Store) : Request → Except Error Statement
  | .rows f o => .ok (st.selectStatement f o)
  | .row key => .ok (statement (.selectById st.table) [key])
  | .count f => .ok (st.countStatement f)
  | .delete f => .ok (st.deleteStatement f)
  | .insert r => st.insertStatement r
  | .update key r => st.updateStatement key r
  | .upsert r => st.upsertStatement r

/-- The statement belongs to one of the requests. -/
def Among (st : Store) (qs : List Request) (s : Statement) : Prop := ∃ q ∈ qs, st.requested q = .ok s

/-! ## What an operation sends -/

variable {α : Type} {p : Statement → Prop}

theorem sends_inSpan {c : Call α} (h : c.Sends p) (s : Span) : (inSpan s c).Sends p :=
  Program.sends_bind h fun _ => trivial

theorem sends_tellAll (ns : List Notice) (r : Except Error α) : (tellAll ns r).Sends p := by
  induction ns with
  | nil => trivial
  | cons n ns ih => exact ih

theorem sends_observe {c : Call α} (h : c.Sends p) (operation table : String) : (observe operation table c).Sends p :=
  Program.sends_bind h fun
    | .ok _ => sends_tellAll _ _
    | .error _ => sends_tellAll _ _

theorem sends_select {st : Store} {f : Filter} {o : QueryOptions} (h : p (st.selectStatement f o)) :
    (st.select f o).Sends p :=
  Call.sends_bind (Call.sends_tell _) fun _ => Call.sends_read h _

theorem sends_send {s : Except Error Statement} (message : String) (h : ∀ t, s = .ok t → p t) :
    (send message s).Sends p := by
  cases s with
  | error e => trivial
  | ok t =>
    show Call.Sends p (do Call.tell (sent message t); Call.execute t)
    exact Call.sends_bind (Call.sends_tell _) fun _ => Call.sends_execute (h t rfl)

theorem sends_exists {st : Store} {i : Identifier} (h : p (st.selectStatement i.toFilter existenceOptions)) :
    (st.exists? i).Sends p :=
  sends_inSpan (sends_observe (Call.sends_bind (sends_select h) fun _ => Call.sends_pure _) _ _) _

theorem sends_create {st : Store} {id : Option Value} {r : Record}
    (h : ∀ s, st.insertStatement (keyed id r) = .ok s → p s) : (st.create id r).Sends p :=
  sends_inSpan (sends_observe (sends_send _ h) _ _) _

theorem sends_update {st : Store} {id : Value} {r : Record} (h : ∀ s, st.updateStatement id r = .ok s → p s) :
    (st.update id r).Sends p :=
  sends_inSpan (sends_observe (sends_send _ h) _ _) _

theorem sends_writeChecked {st : Store} {id : Option Value} {r : Record}
    (h : ∀ q ∈ Operation.checkedRequests id r, ∀ s, st.requested q = .ok s → p s) :
      (st.writeChecked id r).Sends p := by
  unfold writeChecked
  cases hid : truthy? id with
  | none =>
    simp only [Operation.checkedRequests, hid, List.mem_singleton, forall_eq] at h
    exact sends_create h
  | some key =>
    simp only [Operation.checkedRequests, hid, List.mem_cons, List.not_mem_nil, or_false, forall_eq_or_imp,
      forall_eq] at h
    obtain ⟨hlook, hupdate, hinsert⟩ := h
    refine Call.sends_bind (sends_exists (hlook _ rfl)) fun found => ?_
    cases found with
    | true => exact sends_update hupdate
    | false => exact sends_create hinsert

theorem sends_upsert {st : Store} {id : Value} {r : Record} (hs : ∀ s, st.upsertStatement r = .ok s → p s)
    (h : ∀ q ∈ Operation.checkedRequests (some id) r, ∀ s, st.requested q = .ok s → p s) :
      (st.upsert id r).Sends p := by
  unfold upsert
  cases hup : st.upsertStatement r with
  | error e => trivial
  | ok s =>
    refine Program.sends_bind (m := (Call.execute s).run) (Call.sends_execute (hs s hup)) fun reply => ?_
    cases reply with
    | ok o => trivial
    | error e =>
      show Program.Sends p (if lacksUniqueId e then _ else _)
      split
      · exact Call.sends_bind (Call.sends_tell _) fun _ => sends_writeChecked h
      · trivial

theorem sends_write {st : Store} {id : Option Value} {r : Record}
    (h : ∀ q ∈ (Operation.write id r).requests, ∀ s, st.requested q = .ok s → p s) : (st.write id r).Sends p := by
  unfold write
  cases hid : truthy? id with
  | none =>
    simp only [Operation.requests, hid, List.mem_singleton, forall_eq] at h
    have hcreate : (st.create none r).Sends p := sends_create h
    exact sends_inSpan hcreate _
  | some key =>
    simp only [Operation.requests, hid] at h
    refine sends_inSpan (sends_observe ?_ _ _) _
    by_cases hr : renames key r = true
    · rw [if_pos hr] at h ⊢
      exact Call.sends_bind (Call.sends_tell _) fun _ => sends_writeChecked h
    · rw [if_neg hr] at h ⊢
      exact sends_upsert (h _ List.mem_cons_self) fun q hq => h q (List.mem_cons_of_mem _ hq)

/-- Whatever the replies, an operation sends statements of its requests only. -/
theorem sends_requested (st : Store) (op : Operation) : (st.perform op).Sends (st.Among op.requests) := by
  have hall : ∀ q ∈ op.requests, ∀ s, st.requested q = .ok s → st.Among op.requests s := fun q hq s hs => ⟨q, hq, hs⟩
  have hfirst : ∀ q s, op.requests = [q] → st.requested q = .ok s → st.Among op.requests s := fun q s hop hs =>
    ⟨q, hop ▸ List.mem_singleton_self q, hs⟩
  cases op with
  | «exists» i => exact sends_exists (hfirst _ _ rfl rfl)
  | read i =>
    refine sends_inSpan (sends_observe ?_ _ _) _
    cases i with
    | key v => exact Call.sends_bind (Call.sends_tell _) fun _ => Call.sends_read (hfirst _ _ rfl rfl) _
    | keys vs => exact Call.sends_bind (sends_select (hfirst _ _ rfl rfl)) fun _ => Call.sends_pure _
    | filter f => exact Call.sends_bind (sends_select (hfirst _ _ rfl rfl)) fun _ => Call.sends_pure _
  | write id r => exact sends_write hall
  | writeChecked id r => exact sends_writeChecked hall
  | create id r => exact sends_create fun s => hfirst _ s rfl
  | update id r => exact sends_update fun s => hfirst _ s rfl
  | remove i => exact sends_inSpan (sends_observe (sends_send _ fun s => hfirst _ s rfl) _ _) _
  | list f o => exact sends_inSpan (sends_observe (sends_select (hfirst _ _ rfl rfl)) _ _) _
  | iterate f o reader =>
    exact sends_inSpan (sends_observe
      (Call.sends_bind (Call.sends_tell _) fun _ => Call.sends_read (hfirst _ _ rfl rfl) _) _ _) _
  | count f o =>
    refine sends_inSpan (sends_observe (Call.sends_bind (Call.sends_tell _) fun _ => ?_) _ _) _
    exact Call.sends_bind (Call.sends_bind (Call.sends_read (hfirst _ _ rfl rfl) _) fun _ => Call.sends_pure _)
      fun _ => trivial

/-! ## Parameters and values -/

/-- A statement is read as some slots, and its values fit them. -/
structure Aligned (slots : List Slot) (s : Statement) : Prop where
  tokens : Sql.tokens s.sql.toList = slots.map Slot.token ++ [.ending]
  /-- The values are those of the slots, in their order. -/
  values : s.params = valuesOf slots
  /-- There are as many anonymous parameters as values. -/
  count : (Sql.tokens s.sql.toList).count (.parameter none) = s.params.length
  /-- No parameter has a number of its own. -/
  anonymous : ∀ n : Nat, .parameter (some n) ∉ Sql.tokens s.sql.toList
  /-- A parameter gets the value that is meant for its place. -/
  place : ∀ (before after : List Slot) (v : Value), slots = before ++ .parameter v :: after →
    s.params[((Sql.tokens s.sql.toList).take before.length).count (.parameter none)]? = some v

theorem aligned_of_spells {c : Command} {slots : List Slot} {params : List Value} (h : Spells c.text slots)
    (hp : params = valuesOf slots) : Aligned slots (statement c params) := by
  have htokens : Sql.tokens (statement c params).sql.toList = slots.map Slot.token ++ [Token.ending] := h.tokens_eq
  refine ⟨htokens, hp, ?_, fun n => ?_, fun before after v hs => ?_⟩
  · rw [htokens, List.count_append, count_parameter, ← hp]
    rfl
  · rw [htokens]
    simp [parameter_notMem]
  · have htake : (slots.map Slot.token ++ [Token.ending]).take before.length = before.map Slot.token := by
      rw [hs, List.map_append, List.append_assoc]
      exact List.take_left' (by simp)
    show params[_]? = some v
    rw [htokens, htake, hp, hs]
    exact valuesOf_getElem? before after v

theorem shaped_eq_ok {c : Except NoColumns Command} {params : List Value} {s : Statement}
    (h : shaped c params = .ok s) :
    ∃ command, c = .ok command ∧ s = statement command params := by
  cases c with
  | error f => cases h
  | ok command => cases h; exact ⟨command, rfl, rfl⟩

theorem ite_eq_ok {ε α : Type} {b : Bool} {e : ε} {a c : α}
    (h : (if b then Except.error e else .ok a) = .ok c) : a = c := by
  cases b <;> cases h
  rfl

/-- The statement of a request is read as the request, and sends its values. -/
theorem requested_aligned {st : Store} (ht : Plain st.table) {q : Request} (hq : q.IsPlain) {s : Statement}
    (h : st.requested q = .ok s) : Aligned (q.slots st.binding st.table) s := by
  cases q with
  | rows f o =>
    cases h
    refine aligned_of_spells (spells_select ht hq.fields (spells_clause _ hq) (soft_clause _ _ _)) ?_
    show (compile st.binding f o).values = _
    simp [Request.slots, Slot.sent?, valuesOf_projection, valuesOf_clause]
  | row key =>
    cases h
    exact aligned_of_spells (spells_selectById ht key) rfl
  | count f =>
    cases h
    have hquery := PlainNames.query hq (o := {}) rfl (by simp)
    exact aligned_of_spells (spells_count ht (spells_clause _ hquery) (soft_clause _ _ _))
      (valuesOf_clause _ _ _).symm
  | delete f =>
    cases h
    have hquery := PlainNames.query hq (o := {}) rfl (by simp)
    exact aligned_of_spells (spells_delete ht (spells_clause _ hquery) (soft_clause _ _ _))
      (valuesOf_clause _ _ _).symm
  | insert r =>
    obtain ⟨command, hc, rfl⟩ := shaped_eq_ok h
    cases ite_eq_ok hc
    exact aligned_of_spells (spells_insert ht hq) (valuesOf_insert _ _).symm
  | update key r =>
    obtain ⟨command, hc, rfl⟩ := shaped_eq_ok h
    cases ite_eq_ok hc
    exact aligned_of_spells (spells_update ht key hq) (valuesOf_update _ _ _ _).symm
  | upsert r =>
    obtain ⟨command, hc, rfl⟩ := shaped_eq_ok h
    cases ite_eq_ok hc
    exact aligned_of_spells (spells_upsert ht hq) (valuesOf_upsert _ _).symm

/-! ## The requests of an operation are plain -/

theorem plain_byId (key : Value) : PlainNames (Filter.byId key) := plainNames_empty.put plain_id _

theorem plain_withId {r : Record} (h : PlainNames r) (key : Value) : PlainNames (r.withId key) := by
  unfold Record.withId
  split
  · exact h
  · exact h.put plain_id key

theorem plain_keyed {r : Record} (h : PlainNames r) (id : Option Value) : PlainNames (keyed id r) := by
  unfold keyed
  cases truthy? id with
  | none => exact h
  | some key => exact plain_withId h key

theorem plain_existence {f : Filter} (h : PlainNames f) : PlainQuery f existenceOptions :=
  h.query rfl (by simp [existenceOptions, plain_id])

theorem plain_checked {r : Record} (h : PlainNames r) (id : Option Value) :
    ∀ q ∈ Operation.checkedRequests id r, q.IsPlain := by
  unfold Operation.checkedRequests
  cases truthy? id with
  | none => simpa [Request.IsPlain] using h
  | some key =>
    simp only [List.mem_cons, List.not_mem_nil, or_false, forall_eq_or_imp, forall_eq]
    exact ⟨plain_existence (plain_byId key), h, plain_keyed h _⟩

theorem plain_write {r : Record} (h : PlainNames r) (id : Option Value) :
    ∀ q ∈ (Operation.write id r).requests, q.IsPlain := by
  intro q hq
  simp only [Operation.requests] at hq
  cases hid : truthy? id with
  | none =>
    simp only [hid, List.mem_singleton] at hq
    exact hq ▸ h
  | some key =>
    simp only [hid] at hq
    split at hq
    · exact plain_checked h _ q hq
    · rcases List.mem_cons.mp hq with rfl | hq
      · exact plain_withId h key
      · exact plain_checked (plain_withId h key) _ q hq

theorem plain_requests {op : Operation} (h : op.IsPlain) : ∀ q ∈ op.requests, q.IsPlain := by
  have hone : ∀ {q : Request}, q.IsPlain → ∀ q' ∈ [q], q'.IsPlain := fun hq q' hq' => List.mem_singleton.mp hq' ▸ hq
  cases op with
  | «exists» i => exact hone (plain_existence h)
  | read i =>
    cases i with
    | key v => exact hone trivial
    | keys vs => exact hone (PlainNames.query h rfl (by simp))
    | filter f => exact hone (PlainNames.query h rfl (by simp))
  | write id r => exact plain_write h id
  | writeChecked id r => exact plain_checked h id
  | create id r => exact hone (plain_keyed h id)
  | update id r => exact hone h
  | remove i => exact hone h
  | list f o => exact hone h
  | iterate f o reader => exact hone h
  | count f o => exact hone h

/-- Whatever the handle replies, the values of every statement fit its parameters. -/
theorem statements_aligned {σ : Type} (h : Handle σ) (start : σ) {st : Store} {op : Operation} (ht : Plain st.table)
    (hop : op.IsPlain) :
    ∀ s ∈ (Program.run h (st.perform op) start).statements, ∃ q ∈ op.requests,
      Aligned (q.slots st.binding st.table) s := by
  intro s hs
  obtain ⟨q, hq, hst⟩ := Program.sends_run h (sends_requested st op) start s hs
  exact ⟨q, hq, requested_aligned ht (plain_requests hop q hq) hst⟩

/-- A table without rows whose key nothing makes unique, where no row can be added. -/
def refusing : Handle Unit where
  execute st _ := ⟨.error (.operationFailed "execute" "ON CONFLICT clause does not match"), st, []⟩
  query st _ := ⟨.ok [], st, []⟩
  release := id
  unwind := id

def noted : Operation := .write (some (.text "k")) (.ofList [("note", .text "it's '?'")])

/-- A write that tries an upsert, looks for the row and inserts. -/
theorem refused_write_aligned :
    (Program.run refusing (Store.perform ⟨"items", .inline⟩ noted) ()).statements.length = 3 ∧
      ∀ s ∈ (Program.run refusing (Store.perform ⟨"items", .inline⟩ noted) ()).statements,
        ∃ q ∈ noted.requests, Aligned (q.slots .inline "items") s :=
  ⟨by rfl, statements_aligned refusing () (show Plain (Store.mk "items" .inline).table by decide)
    (show PlainNames (OrderedMap.ofList [("note", Value.text "it's '?'")]) by decide)⟩

end Store
end TableKeeper
