import TableKeeper.Proofs.Program

/-!
  TableKeeper.Proofs.Exchange — a run by its statements and what came back for them.

  1. The exchanges of a run are the statements that reached the handle, each with its reply,
     in the order in which they were sent (`Outcome.exchanges`).
  2. `Yields` says of a program that it ends under every reply, and what holds of its
     exchanges and of its value then. It is proved of a call from its parts
     (`Call.yields_bind`).
  3. A run takes one branch at each reply, so that holds of every run against every handle
     (`Program.yields_run`).
-/

namespace TableKeeper

open Sql

variable {α β σ : Type}

/-- The entry is a statement with its reply. -/
def Entry.isExchange : Entry → Bool
  | executed _ _ | queried _ _ => true
  | told _ | released _ _ => false

/-- The statement of an exchange. -/
def Entry.statement? : Entry → Option Statement
  | executed s _ | queried s _ => some s
  | told _ | released _ _ => none

/-- The statements that reached the handle with its replies, in order. -/
def Outcome.exchanges (o : Outcome σ α) : List Entry := o.history.filter Entry.isExchange

theorem Outcome.statements_eq (o : Outcome σ α) : o.statements = o.exchanges.filterMap Entry.statement? := by
  rw [statements, exchanges, List.filterMap_filter]
  congr 1
  funext x
  cases x <;> rfl

/-- What the observers were told is no exchange. -/
theorem Outcome.exchanges_told (ns : List Notice) : (ns.map Entry.told).filter Entry.isExchange = [] := by
  rw [List.filter_map, List.map_eq_nil_iff, List.filter_eq_nil_iff]
  intro n _
  simp [Entry.isExchange]

theorem Outcome.exchanges_after_told (ns : List Notice) {e : Entry} (he : e.isExchange = true) (o : Outcome σ α) :
    (o.after (ns.map .told ++ [e])).exchanges = e :: o.exchanges := by
  simp only [after, exchanges, List.filter_append, exchanges_told, List.nil_append]
  rw [List.filter_cons_of_pos he, List.filter_nil, List.singleton_append]

namespace Program

/-- Whatever the replies, the program ends, and this holds of its exchanges and its value. -/
def Yields : Program α → (List Entry → α → Prop) → Prop
  | done a, q => q [] a
  | panic, _ => False
  | tell _ rest, q => rest.Yields q
  | execute s k, q => ∀ r, (k r).Yields fun xs a => q (.executed s r :: xs) a
  | query s k, q => ∀ r, (k r).Yields fun xs a => q (.queried s r :: xs) a
  | release _ _ rest, q => rest.Yields q

theorem yields_bind {m : Program α} {f : α → Program β} {p : List Entry → α → Prop} {q : List Entry → β → Prop}
    (hm : m.Yields p) (hf : ∀ xs a, p xs a → (f a).Yields fun ys b => q (xs ++ ys) b) : (m.bind f).Yields q := by
  induction m generalizing p q with
  | done a => exact hf [] a hm
  | panic => exact hm.elim
  | tell n rest ih => exact ih hm hf
  | execute s k ih =>
    intro r
    exact ih r (hm r) fun xs a h => hf (.executed s r :: xs) a h
  | query s k ih =>
    intro r
    exact ih r (hm r) fun xs a h => hf (.queried s r :: xs) a h
  | release s taken rest ih => exact ih hm hf

theorem yields_mono {m : Program α} {p q : List Entry → α → Prop} (hm : m.Yields p) (h : ∀ xs a, p xs a → q xs a) :
    m.Yields q := by
  induction m generalizing p q with
  | done a => exact h [] a hm
  | panic => exact hm
  | tell n rest ih => exact ih hm h
  | execute s k ih => exact fun r => ih r (hm r) fun xs a => h _ a
  | query s k ih => exact fun r => ih r (hm r) fun xs a => h _ a
  | release s taken rest ih => exact ih hm h

theorem yields_and {m : Program α} {p q : List Entry → α → Prop} (hp : m.Yields p) (hq : m.Yields q) :
    m.Yields fun xs a => p xs a ∧ q xs a := by
  induction m generalizing p q with
  | done a => exact ⟨hp, hq⟩
  | panic => exact hp
  | tell n rest ih => exact ih hp hq
  | execute s k ih => exact fun r => ih r (hp r) (hq r)
  | query s k ih => exact fun r => ih r (hp r) (hq r)
  | release s taken rest ih => exact ih hp hq

theorem yields_run (h : Handle σ) {m : Program α} {q : List Entry → α → Prop} (hm : m.Yields q) (st : σ) :
    ∃ a, (m.run h st).result = some a ∧ q (m.run h st).exchanges a := by
  induction m generalizing st q with
  | done a => exact ⟨a, rfl, hm⟩
  | panic => exact hm.elim
  | tell n rest ih => exact ih hm st
  | execute s k ih =>
    obtain ⟨a, hresult, hq⟩ := ih _ (hm (h.execute st s).result) (h.execute st s).state
    refine ⟨a, hresult, ?_⟩
    rw [run, Outcome.exchanges_after_told _ rfl]
    exact hq
  | query s k ih =>
    obtain ⟨a, hresult, hq⟩ := ih _ (hm (h.query st s).result) (h.query st s).state
    refine ⟨a, hresult, ?_⟩
    rw [run, Outcome.exchanges_after_told _ rfl]
    exact hq
  | release s taken rest ih => exact ih hm _

/-- What holds of every reply of the handle holds of every exchange. -/
theorem exchanges_run (h : Handle σ) {p : Entry → Prop}
    (hp : ∀ st s, p (.executed s (h.execute st s).result) ∧ p (.queried s (h.query st s).result)) (m : Program α)
    (st : σ) : ∀ x ∈ (m.run h st).exchanges, p x := by
  induction m generalizing st with
  | done a => exact nofun
  | panic => exact nofun
  | tell n rest ih => exact ih st
  | execute s k ih =>
    intro x hx
    rw [run, Outcome.exchanges_after_told _ rfl] at hx
    rcases List.mem_cons.mp hx with rfl | hx
    · exact (hp st s).1
    · exact ih _ _ x hx
  | query s k ih =>
    intro x hx
    rw [run, Outcome.exchanges_after_told _ rfl] at hx
    rcases List.mem_cons.mp hx with rfl | hx
    · exact (hp st s).2
    · exact ih _ _ x hx
  | release s taken rest ih => exact ih _

end Program

/-! ## Calls -/

namespace Call

/-- Whatever the replies, the call ends, and this holds of its exchanges and its result. -/
def Yields (c : Call α) (q : List Entry → Except Error α → Prop) : Prop := Program.Yields c.run q

theorem yields_bind {c : Call α} {f : α → Call β} {p : List Entry → Except Error α → Prop}
    {q : List Entry → Except Error β → Prop} (hc : c.Yields p) (hfails : ∀ xs e, p xs (.error e) → q xs (.error e))
    (hgoes : ∀ xs a, p xs (.ok a) → (f a).Yields fun ys r => q (xs ++ ys) r) : (c >>= f).Yields q := by
  refine Program.yields_bind hc fun xs r h => ?_
  cases r with
  | ok a => exact hgoes xs a h
  | error e =>
    have hq := hfails xs e h
    rw [← List.append_nil xs] at hq
    exact hq

/-- The rows of a reply, unless it is an error or one of them is. -/
def gathered (r : Except Error (List RowItem)) : Except Error (List Record) :=
  r.bind fun items => (Reader.drained items).1

/-- What a reader makes of a reply; a panic makes nothing of it. -/
def consumed (reader : Reader α) : Except Error (List RowItem) → Option (Except Error α)
  | .error e => some (.error e)
  | .ok items => (reader.run items).result

theorem consumed_all (r : Except Error (List RowItem)) : consumed .all r = some (gathered r) := by cases r <;> rfl

/-- The reader has the last word on the rows. -/
theorem run_read (h : Handle σ) (s : Statement) (reader : Reader α) (st : σ) :
    ((read s reader).run.run h st).exchanges = [.queried s (h.query st s).result] ∧
      ((read s reader).run.run h st).result = consumed reader (h.query st s).result := by
  unfold read
  rw [ExceptT.run_mk, Program.run, Outcome.exchanges_after_told _ rfl]
  cases (h.query st s).result with
  | error e => exact ⟨rfl, rfl⟩
  | ok items =>
    simp only [Outcome.after, consumed]
    cases (reader.run items).result with
    | none => exact ⟨rfl, rfl⟩
    | some r => exact ⟨rfl, rfl⟩

theorem yields_read {s : Statement} {reader : Reader α} {q : List Entry → Except Error α → Prop}
    (hends : ∀ items, (reader.run items).result.isSome = true)
    (h : ∀ reply r, consumed reader reply = some r → q [.queried s reply] r) : (read s reader).Yields q := by
  unfold read
  intro reply
  cases reply with
  | error e => exact h (.error e) _ rfl
  | ok items =>
    obtain ⟨r, hr⟩ := Option.isSome_iff_exists.mp (hends items)
    simp only [hr]
    exact h (.ok items) r hr

theorem yields_fetchRow {s : Statement} {q : List Entry → Except Error (Option Record) → Prop}
    (h : ∀ reply r, consumed .first reply = some r → q [.queried s reply] r) : (fetchRow s).Yields q :=
  yields_read (fun items => by rcases items with - | ⟨e | row, items⟩ <;> rfl) h

theorem yields_fetchAll {s : Statement} {q : List Entry → Except Error (List Record) → Prop}
    (h : ∀ r, q [.queried s r] (gathered r)) : (fetchAll s).Yields q := by
  refine yields_read (fun _ => rfl) fun reply r hr => ?_
  rw [consumed_all] at hr
  cases hr
  exact h reply

end Call
end TableKeeper
