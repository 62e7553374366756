import TableKeeper.Proofs.Reader
import TableKeeper.Proofs.Store.Measured
import TableKeeper.Script
import TableKeeper.Store.Operations

/-!
  TableKeeper.Proofs.Store.Iteration — rows that are read as a caller wants them.

  1. Whatever a query replies, the readers of its rows agree (`readers_agree`): `list` and
     `fetchAll` collect all items, an iteration that stops after `n` the first `n`, `fetchRow`
     and `fetchScalar` the first. None pulls an item behind those.
  2. The caller's reader runs once, on the rows that the query hands out, and not at all when
     the query is refused (`iterate_hands_over`). Its result is the iteration's, but for one
     thing: an error of another operation is told as one of the iteration
     (`reader_error_retold`).
-/

namespace TableKeeper

open Sql

variable {α σ : Type} {h : Handle σ}

/-! ## What is read of a reply -/

/-- What collecting a reply's rows gives: the error that it is, or what its items come to. -/
def Gathers (reply : Except Error (List RowItem)) (r : Except Error (List Record)) : Prop :=
  match reply with
  | .error e => r = .error e
  | .ok items => Collects items r

/-- The reply, were there no more than its first items. -/
def upFront (n : Nat) (reply : Except Error (List RowItem)) : Except Error (List RowItem) := reply.map (·.take n)

variable {reply : Except Error (List RowItem)} {n : Nat}

theorem gathers_iff {r : Except Error (List Record)} : Gathers reply r ↔ Call.gathered reply = r := by
  cases reply with
  | error e => exact eq_comm
  | ok items => exact collects_iff

theorem gathers_gathered (reply : Except Error (List RowItem)) : Gathers reply (Call.gathered reply) :=
  gathers_iff.mpr rfl

/-- Where all rows are there, so are the first ones. -/
theorem Gathers.upFront {rows : List Record} (h : Gathers reply (.ok rows)) (n : Nat) :
    Gathers (upFront n reply) (.ok (rows.take n)) := by
  cases reply with
  | error e => cases h
  | ok items => exact Collects.take h n

/-- What stops a reader of the first items stops one of all. -/
theorem Gathers.of_upFront {e : Error} (h : Gathers (TableKeeper.upFront n reply) (.error e)) :
    Gathers reply (.error e) := by
  cases reply with
  | error e' => exact h
  | ok items => exact Collects.of_take h

namespace Call

theorem consumed_atMost (n : Nat) (reply : Except Error (List RowItem)) :
    consumed (.atMost n) reply = some (gathered (upFront n reply)) := by
  cases reply with
  | error e => rfl
  | ok items =>
    rw [consumed, Reader.run_atMost]
    rfl

theorem consumed_first (reply : Except Error (List RowItem)) :
    consumed .first reply = some ((gathered (upFront 1 reply)).map List.head?) := by
  cases reply with
  | error e => rfl
  | ok items =>
    rw [consumed, Reader.run_first]
    rfl

end Call

/-! ## Queries that are given back -/

/-- The query that is given back, and how many of its rows were pulled. -/
def Entry.release? : Entry → Option (Statement × Nat)
  | released s taken => some (s, taken)
  | told _ | executed _ _ | queried _ _ => none

/-- The queries that were given back, in order. -/
def Outcome.releases (o : Outcome σ α) : List (Statement × Nat) := o.history.filterMap Entry.release?

theorem Outcome.releases_told (ns : List Notice) : (ns.map Entry.told).filterMap Entry.release? = [] := by
  induction ns with
  | nil => rfl
  | cons n ns ih => exact ih

/-- No query had more than so many of its rows pulled. -/
def Outcome.PullsAtMost (o : Outcome σ α) (n : Nat) : Prop := ∀ x ∈ o.releases, x.2 ≤ n

namespace Call

/-- What is given back of a reply: its rows, unless the reader panics. -/
def released (s : Statement) (reader : Reader α) : Except Error (List RowItem) → List (Statement × Nat)
  | .error _ => []
  | .ok items => ((reader.run items).result.map fun _ => (s, (reader.run items).taken)).toList

theorem releases_read (s : Statement) (reader : Reader α) (st : σ) :
    ((read s reader).run.run h st).releases = released s reader (h.query st s).result := by
  unfold read
  rw [ExceptT.run_mk, Program.run]
  simp only [Outcome.releases, Outcome.after, List.filterMap_append, Outcome.releases_told, List.nil_append]
  cases (h.query st s).result with
  | error e => rfl
  | ok items =>
    simp only [released]
    cases (reader.run items).result with
    | none => rfl
    | some r => rfl

/-- A refused query does not get to its reader. -/
theorem run_read_refused {s : Statement} {st : σ} {e : Error} (hq : (h.query st s).result = .error e)
    (reader : Reader α) :
    (read s reader).run.run h st =
      ⟨some (.error e), (h.query st s).state, (h.query st s).notices.map .told ++ [.queried s (.error e)]⟩ := by
  unfold read
  rw [ExceptT.run_mk, Program.run, hq]
  simp only [Program.run, Outcome.after, List.append_nil]

theorem pulls_read {s : Statement} {reader : Reader α} (hreader : ∀ items, (reader.run items).taken ≤ n) (st : σ) :
    ((read s reader).run.run h st).PullsAtMost n := by
  intro x hx
  rw [releases_read] at hx
  cases hreply : (h.query st s).result with
  | error e =>
    rw [hreply] at hx
    cases hx
  | ok items =>
    rw [hreply, released, Option.mem_toList, Option.map_eq_some_iff] at hx
    obtain ⟨r, -, rfl⟩ := hx
    exact hreader items

theorem pulls_atMost (n : Nat) (items : List RowItem) : ((Reader.atMost n).run items).taken ≤ n := by
  rw [Reader.run_atMost]
  exact Nat.le_trans (Reader.taken_drained_le _) (List.length_take_le n items)

theorem pulls_first (items : List RowItem) : (Reader.first.run items).taken ≤ 1 := by
  rw [Reader.run_first]
  exact Nat.le_trans (Reader.taken_drained_le _) (List.length_take_le 1 items)

theorem result_fetchAll (s : Statement) (st : σ) :
    ((fetchAll s).run.run h st).result = some (gathered (h.query st s).result) :=
  (run_read h s .all st).2.trans (consumed_all _)

theorem result_fetchRow (s : Statement) (st : σ) :
    ((fetchRow s).run.run h st).result = some ((gathered (upFront 1 (h.query st s).result)).map List.head?) :=
  (run_read h s .first st).2.trans (consumed_first _)

/-- The value is told of the row, and nothing is asked behind it. -/
theorem run_fetchScalar (s : Statement) (st : σ) :
    ((fetchScalar s).run.run h st).result = ((fetchRow s).run.run h st).result.map (·.map firstValue) ∧
      ((fetchScalar s).run.run h st).releases = ((fetchRow s).run.run h st).releases := by
  have hrun : (fetchScalar s).run.run h st =
      ((fetchRow s).run.run h st).andThen fun r st' => ⟨some (r.map firstValue), st', []⟩ := by
    refine (Program.run_bind _ _ st).trans ?_
    congr 1
    funext r st'
    cases r <;> rfl
  have hresult := result_fetchRow (h := h) s st
  rw [hrun, Outcome.andThen_some hresult, hresult]
  exact ⟨rfl, by simp only [Outcome.releases, Outcome.after, List.append_nil]⟩

end Call

namespace Store

theorem releases_measured (sp : Span) (operation table : String) (c : Call α) (st : σ) :
    ((inSpan sp (observe operation table c)).run.run h st).releases = (c.run.run h st).releases := by
  rw [run_measured]
  cases hresult : (c.run.run h st).result with
  | none =>
    rw [Outcome.andThen_none hresult]
    rfl
  | some r =>
    rw [Outcome.andThen_some hresult]
    simp only [Outcome.releases, Outcome.after, List.filterMap_append, Outcome.releases_told, List.append_nil]
    rfl

variable (h : Handle σ) (start : σ) (st : Store) (f : Filter) (o : QueryOptions)

/-! ## Lists and iterations -/

theorem run_list :
    ((st.list f o).run.run h start).exchanges =
        [.queried (st.selectStatement f o) (h.query start (st.selectStatement f o)).result] ∧
      ((st.list f o).run.run h start).result =
        some ((Call.gathered (h.query start (st.selectStatement f o)).result).mapError (attributed "list")) := by
  obtain ⟨hexchanges, hresult⟩ := Call.run_read h (st.selectStatement f o) .all start
  unfold list
  rw [exchanges_measured, result_measured]
  rw [Call.consumed_all] at hresult
  exact ⟨hexchanges, congrArg (Option.map (Except.mapError (attributed "list"))) hresult⟩

theorem run_iterate (reader : Reader α) :
    ((st.iterate f o reader).run.run h start).exchanges =
        [.queried (st.selectStatement f o) (h.query start (st.selectStatement f o)).result] ∧
      ((st.iterate f o reader).run.run h start).result =
        (Call.consumed reader (h.query start (st.selectStatement f o)).result).map
          (·.mapError (attributed "iterate")) ∧
      ((st.iterate f o reader).run.run h start).releases =
        Call.released (st.selectStatement f o) reader (h.query start (st.selectStatement f o)).result := by
  obtain ⟨hexchanges, hresult⟩ := Call.run_read h (st.selectStatement f o) reader start
  have hreleases := Call.releases_read (h := h) (st.selectStatement f o) reader start
  unfold iterate
  rw [exchanges_measured, result_measured, releases_measured]
  exact ⟨hexchanges, congrArg (Option.map (Except.mapError (attributed "iterate"))) hresult, hreleases⟩

theorem pulls_iterate {reader : Reader α} {n : Nat} (hreader : ∀ items, (reader.run items).taken ≤ n) :
    ((st.iterate f o reader).run.run h start).PullsAtMost n := by
  intro x hx
  rw [(run_iterate h start st f o reader).2.2, ← Call.releases_read] at hx
  exact Call.pulls_read hreader start x hx

theorem mapError_eq_ok {g : Error → Error} {r : Except Error α} {a : α} : r.mapError g = .ok a ↔ r = .ok a := by
  cases r with
  | ok b => exact Iff.rfl
  | error e => exact ⟨fun h => (by cases h), fun h => (by cases h)⟩

theorem mapError_eq_error {g : Error → Error} {r : Except Error α} {e : Error} :
    r.mapError g = .error e ↔ ∃ cause, r = .error cause ∧ e = g cause := by
  cases r with
  | ok a => exact ⟨fun h => (by cases h), fun ⟨_, h, _⟩ => (by cases h)⟩
  | error cause =>
    constructor
    · intro h
      cases h
      exact ⟨cause, rfl, rfl⟩
    · rintro ⟨_, hcause, rfl⟩
      cases hcause
      rfl

/-- A list and an iteration over the first items send one query, the same. Each gives what its
items come to, so the iteration has the first rows of the list, and it fails only as the list
does. The readers of one row and of one value see the first item. -/
theorem readers_agree (n : Nat) :
    let query := st.selectStatement f o
    let reply := (h.query start query).result
    let eager := (st.list f o).run.run h start
    let lazy := (st.iterate f o (.atMost n)).run.run h start
    eager.exchanges = [.queried query reply] ∧ lazy.exchanges = [.queried query reply] ∧
      (∃ r, Gathers reply r ∧ eager.result = some (r.mapError (attributed "list"))) ∧
      (∃ r, Gathers (upFront n reply) r ∧ lazy.result = some (r.mapError (attributed "iterate"))) ∧
      lazy.PullsAtMost n ∧
      (∀ rows, eager.result = some (.ok rows) → lazy.result = some (.ok (rows.take n))) ∧
      (∀ e, lazy.result = some (.error e) →
        ∃ cause, e = attributed "iterate" cause ∧ eager.result = some (.error (attributed "list" cause))) ∧
      (∃ r, Gathers reply r ∧ ((Call.fetchAll query).run.run h start).result = some r) ∧
      ∃ r, Gathers (upFront 1 reply) r ∧
        ((Call.fetchRow query).run.run h start).result = some (r.map List.head?) ∧
        ((Call.fetchRow query).run.run h start).PullsAtMost 1 ∧
        ((Call.fetchScalar query).run.run h start).result =
          some (r.map fun rows => (rows.head?.bind (·.values.head?)).getD .null) ∧
        ((Call.fetchScalar query).run.run h start).PullsAtMost 1 := by
  intro query reply eager lazy
  obtain ⟨heager, hlist⟩ := run_list h start st f o
  obtain ⟨hlazy, hiterate, -⟩ := run_iterate h start st f o (.atMost n)
  rw [Call.consumed_atMost, Option.map_some] at hiterate
  refine ⟨heager, hlazy, ⟨_, gathers_gathered reply, hlist⟩, ⟨_, gathers_gathered (upFront n reply), hiterate⟩,
    ?_, ?_, ?_, ⟨_, gathers_gathered reply, Call.result_fetchAll query start⟩, ?_⟩
  · exact pulls_iterate h start st f o (Call.pulls_atMost n)
  · intro rows hrows
    rw [hlist, Option.some.injEq, mapError_eq_ok] at hrows
    have hfront := (gathers_iff.mpr hrows).upFront n
    rw [hiterate, gathers_iff.mp hfront]
    rfl
  · intro e he
    rw [hiterate, Option.some.injEq, mapError_eq_error] at he
    obtain ⟨cause, hcause, rfl⟩ := he
    have hwhole := (gathers_iff.mpr hcause).of_upFront
    rw [hlist, gathers_iff.mp hwhole]
    exact ⟨cause, rfl, rfl⟩
  · obtain ⟨hscalar, hreleases⟩ := Call.run_fetchScalar (h := h) query start
    have hrow := Call.result_fetchRow (h := h) query start
    have hpulls : ((Call.fetchRow query).run.run h start).PullsAtMost 1 := Call.pulls_read Call.pulls_first start
    have hfirst : (Call.firstValue ∘ List.head?) = fun rows => (rows.head?.bind (·.values.head?)).getD .null := by
      funext rows
      cases rows <;> rfl
    refine ⟨_, gathers_gathered (upFront 1 reply), hrow, hpulls, ?_, ?_⟩
    · rw [hscalar, hrow, ← hfirst]
      cases Call.gathered (upFront 1 reply) <;> rfl
    · exact fun x hx => hpulls x (hreleases ▸ hx)

/-- Two rows of which one is read, and an error between rows that stops both readers. -/
theorem half_read_agrees :
    let row (key : String) : Record := OrderedMap.empty.put "id" (.text key)
    let items (between : List RowItem) : List Script.Answer := [{ rows := [.ok (row "a")] ++ between ++ [.ok (row "b")] }]
    let books : Store := { table := "books" }
    let options : QueryOptions := {}
    (((books.list .empty options).run.run Script.handle (items [])).result = some (.ok [row "a", row "b"]) ∧
      ((books.iterate .empty options (.atMost 1)).run.run Script.handle (items [])).result = some (.ok [row "a"])) ∧
    ((books.iterate .empty options (.atMost 2)).run.run Script.handle
        (items [.error (.operationFailed "read_row" "torn")])).result =
      some (.error (.operationFailed "iterate" "read_row: torn")) ∧
    ∃ cause, .operationFailed "iterate" "read_row: torn" = attributed "iterate" cause ∧
      ((books.list .empty options).run.run Script.handle
        (items [.error (.operationFailed "read_row" "torn")])).result = some (.error (attributed "list" cause)) := by
  intro row items books options
  refine ⟨⟨rfl, ?_⟩, rfl, ?_⟩
  · exact (readers_agree Script.handle (items []) books .empty options 1).2.2.2.2.2.1 _ rfl
  · exact (readers_agree Script.handle (items [.error (.operationFailed "read_row" "torn")]) books .empty options
      2).2.2.2.2.2.2.1 _ rfl

/-! ## The caller's reader -/

/-- An error keeps its words where it is of the operation itself, or of no operation. -/
theorem attributed_eq_self {operation : String} {e : Error} :
    attributed operation e = e ↔ ∀ step cause, e = .operationFailed step cause → step = operation := by
  cases e with
  | operationFailed step cause =>
    by_cases hstep : step = operation
    · simp [attributed, hstep]
    · simp [attributed, hstep, Ne.symm hstep]
  | _ => simp [attributed]

/-- When the query is not refused, the caller's reader runs once, on the rows in their order, and
what it ends with is what the iteration gives; but an error of another operation is told anew.
When the query is refused, it does not run, and no reader would make a difference. -/
theorem iterate_hands_over (reader : Reader α) :
    let query := st.selectStatement f o
    let run := (st.iterate f o reader).run.run h start
    (∀ items, (h.query start query).result = .ok items →
      run.exchanges = [.queried query (.ok items)] ∧
        run.result = (reader.run items).result.map (·.mapError (attributed "iterate")) ∧
        run.releases = ((reader.run items).result.map fun _ => (query, (reader.run items).taken)).toList ∧
        (run.result = (reader.run items).result ↔
          ∀ step cause, (reader.run items).result = some (.error (.operationFailed step cause)) → step = "iterate")) ∧
      ∀ e, (h.query start query).result = .error e →
        run.result = some (.error (attributed "iterate" e)) ∧ run.releases = [] ∧
          ∀ other : Reader α, (st.iterate f o other).run.run h start = run := by
  intro query run
  obtain ⟨hexchanges, hresult, hreleases⟩ := run_iterate h start st f o reader
  refine ⟨fun items hitems => ?_, fun e he => ?_⟩
  · rw [hitems] at hexchanges hresult hreleases
    have hconsumed : run.result = (reader.run items).result.map (·.mapError (attributed "iterate")) := hresult
    refine ⟨hexchanges, hconsumed, hreleases, ?_⟩
    rw [hconsumed]
    cases (reader.run items).result with
    | none => simp
    | some r =>
      cases r with
      | ok a => exact ⟨fun _ _ _ h => (by cases h), fun _ => rfl⟩
      | error e =>
        have hkept : (Except.error e : Except Error α).mapError (attributed "iterate") = .error e ↔
            attributed "iterate" e = e := ⟨Except.error.inj, congrArg Except.error⟩
        rw [Option.map_some, Option.some.injEq, hkept, attributed_eq_self]
        simp
  · rw [he] at hresult hreleases
    refine ⟨hresult, hreleases, fun other => ?_⟩
    have hbody : ∀ r : Reader α, (do Call.tell (sent "iterating" query); Call.read query r : Call α).run.run h start =
        ((Call.read query reader).run.run h start).after [.told (sent "iterating" query)] := fun r => by
      rw [Call.run_read_refused he reader, ← Call.run_read_refused he r]
      rfl
    have hrun : ∀ r : Reader α, (st.iterate f o r).run.run h start = _ := fun r =>
      (run_measured _ _ _ _ _).trans (by rw [hbody r])
    exact (hrun other).trans (hrun reader).symm

/-- A reader that refuses the first row says so in its own words, and after a refused query
nothing is read. -/
theorem refusing_reader_heard :
    let refusing : Reader Unit := .next fun _ => .done (.error (.invalidInput "no title"))
    let books : Store := { table := "books" }
    let untitled : List Script.Answer := [{ rows := [.ok .empty, .ok .empty] }]
    let missing : List Script.Answer := [{ refusal := some (.operationFailed "prepare" "no such table: books") }]
    ((books.iterate .empty {} refusing).run.run Script.handle untitled).result =
        (refusing.run [.ok .empty, .ok .empty]).result ∧
      ((books.iterate .empty {} refusing).run.run Script.handle untitled).releases =
        [(books.selectStatement .empty {}, 1)] ∧
      ((books.iterate .empty {} refusing).run.run Script.handle missing).releases = [] := by
  intro refusing books untitled missing
  obtain ⟨-, -, hreleases, hresult⟩ := (iterate_hands_over Script.handle untitled books .empty {} refusing).1 _ rfl
  exact ⟨hresult.mpr fun _ _ herror => (by cases herror), hreleases,
    ((iterate_hands_over Script.handle missing books .empty {} refusing).2 _ rfl).2.1⟩

/-- A reader's own error, of an operation of its own, comes back with other words. -/
theorem reader_error_retold :
    let failing : Reader Unit := .done (.error (.operationFailed "parse" "no number"))
    let books : Store := { table := "books" }
    (Script.handle.query [] (books.selectStatement .empty {})).result = .ok [] ∧
      (failing.run []).result = some (.error (.operationFailed "parse" "no number")) ∧
      ((books.iterate .empty {} failing).run.run Script.handle []).result =
        some (.error (.operationFailed "iterate" "parse: no number")) :=
  ⟨rfl, rfl, rfl⟩

end Store
end TableKeeper
