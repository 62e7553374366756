import TableKeeper.Proofs.Store.Accounts

/-!
  TableKeeper.Proofs.Store.Replies — what an operation with one statement makes of its reply.

  1. An operation that changes rows gives the reply to its statement, with an error told its own
     way (`Sent`). Where there is no statement it gives that error, and nothing was sent.
  2. A question whether rows are there gives what the rows it got say (`Looked`).
-/

namespace TableKeeper.Store

open Sql

variable {α β γ : Type} {st : Store}

/-- The reply to the one statement is given back, an error told by `tell`. -/
def Sent (s : Except Error Statement) (tell : Error → Error) (xs : List Entry) (r : Except Error WriteOutcome) : Prop :=
  match s with
  | .error e => xs = [] ∧ r = .error (tell e)
  | .ok s => ∃ reply, xs = [.executed s reply] ∧ r = reply.mapError tell

theorem sent_observed {s : Except Error Statement} (message operation table : String) (sp : Span) :
    (inSpan sp (observe operation table (send message s))).Yields (Sent s (attributed operation)) := by
  refine yields_inSpan (yields_observe operation table ?_) sp
  cases s with
  | error e => exact ⟨rfl, rfl⟩
  | ok s => exact fun reply => ⟨reply, rfl, rfl⟩

theorem sent_create (id : Option Value) (r : Record) :
    (st.create id r).Yields (Sent (st.insertStatement (keyed id r)) (attributed "create")) :=
  sent_observed _ _ _ _

theorem sent_update (id : Value) (r : Record) :
    (st.update id r).Yields (Sent (st.updateStatement id r) (attributed "update")) :=
  sent_observed _ _ _ _

theorem sent_remove (i : Identifier) :
    (st.remove i).Yields (Sent (.ok (st.deleteStatement i.toFilter)) (attributed "remove")) :=
  sent_observed _ _ _ _

/-- The rows of one reply are read, and what is read goes through `g`. -/
def ReadBy (s : Statement) (reader : Reader α) (g : α → Except Error β) (xs : List Entry) (r : Except Error β) : Prop :=
  ∃ reply got, xs = [.queried s reply] ∧ Call.consumed reader reply = some got ∧ r = got.bind g

theorem readBy_fetchRow (s : Statement) : (Call.fetchRow s).Yields (ReadBy s .first .ok) := by
  refine Call.yields_fetchRow fun reply r hr => ⟨reply, r, rfl, hr, ?_⟩
  cases r <;> rfl

theorem readBy_select (f : Filter) (o : QueryOptions) :
    (st.select f o).Yields (ReadBy (st.selectStatement f o) .all .ok) := by
  have hfetch : (Call.fetchAll (st.selectStatement f o)).Yields (ReadBy (st.selectStatement f o) .all .ok) := by
    refine Call.yields_fetchAll fun reply => ⟨reply, _, rfl, Call.consumed_all reply, ?_⟩
    cases Call.gathered reply <;> rfl
  exact hfetch

theorem readBy_bind {s : Statement} {reader : Reader α} {g : α → Except Error β} {c : Call β}
    (hc : c.Yields (ReadBy s reader g)) (k : β → Except Error γ) :
    (c >>= fun b => ExceptT.mk (.done (k b))).Yields (ReadBy s reader fun a => (g a).bind k) := by
  refine Call.yields_bind hc ?_ ?_
  · rintro xs e ⟨reply, got, rfl, hgot, hr⟩
    have hbind : got.bind (fun a => (g a).bind k) = (got.bind g).bind k := (bind_assoc got g k).symm
    exact ⟨reply, got, rfl, hgot, by rw [hbind, ← hr]; rfl⟩
  · rintro xs b ⟨reply, got, rfl, hgot, hr⟩
    have hbind : got.bind (fun a => (g a).bind k) = (got.bind g).bind k := (bind_assoc got g k).symm
    exact ⟨reply, got, rfl, hgot, by rw [hbind, ← hr]; rfl⟩

/-- The rows were asked for once, and whether there is one is told. -/
def Looked (s : Statement) (xs : List Entry) (r : Except Error Bool) : Prop :=
  ∃ reply, xs = [.queried s reply] ∧
    r = ((Call.gathered reply).map fun rows => !rows.isEmpty).mapError (attributed "exists")

theorem looked_exists (i : Identifier) :
    (st.exists? i).Yields (Looked (st.selectStatement i.toFilter existenceOptions)) := by
  refine yields_inSpan (yields_observe _ _ (Program.yields_mono (p := ReadBy _ .all fun rows => .ok (!rows.isEmpty))
    (readBy_bind (readBy_select _ _) fun rows => .ok (!rows.isEmpty)) ?_)) _
  rintro xs r ⟨reply, got, rfl, hgot, rfl⟩
  rw [Call.consumed_all] at hgot
  cases hgot
  refine ⟨reply, rfl, ?_⟩
  cases Call.gathered reply <;> rfl

/-- Either an error stood among the rows, or the answer says whether there are any. -/
theorem looked_cases {s : Statement} {xs : List Entry} {r : Except Error Bool} (h : Looked s xs r) :
    ∃ reply, xs = [.queried s reply] ∧
      ((∃ e, Call.gathered reply = .error e ∧ r = .error (attributed "exists" e)) ∨
        ∃ rows, Call.gathered reply = .ok rows ∧ r = .ok (!rows.isEmpty)) := by
  obtain ⟨reply, hxs, hr⟩ := h
  refine ⟨reply, hxs, ?_⟩
  cases hrows : Call.gathered reply with
  | error e => exact .inl ⟨e, rfl, by rw [hr, hrows]; rfl⟩
  | ok rows => exact .inr ⟨rows, rfl, by rw [hr, hrows]; rfl⟩

/-- The question for one row, by its key. -/
def look (st : Store) (key : Value) : Statement := st.selectStatement (Filter.byId key) existenceOptions

theorem looked_key (key : Value) : (st.exists? (.key key)).Yields (Looked (st.look key)) := looked_exists (.key key)

end TableKeeper.Store
