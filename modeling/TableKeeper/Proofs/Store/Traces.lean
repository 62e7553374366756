import TableKeeper.Proofs.Store.Measured
import TableKeeper.Proofs.Store.Refusals

/-!
  TableKeeper.Proofs.Store.Traces — what the observers are told of operations.

  1. Which operations are called inside of an operation is up to the replies (`inside`).
  2. An operation opens its span. What is told of the calls inside of it comes next, then its own
     account: the count, the sample, and a warning if it failed. With that the span ends
     (`Store.bracket`).
  3. A sequence of operations is told one after the other, so each call is counted once under its
     name, and has one span (`operations_accounted`). That is so whatever the handle replies, and
     whatever it tells itself.
  4. A write without a key has a span but no account: it hands over to the creation before it
     measures anything (`keyless_write_uncounted`).
-/

namespace TableKeeper

open Sql

variable {α β σ : Type} {h : Handle σ}

/-! ## Remarks -/

/-- An event for whoever debugs. -/
def Notice.isRemark : Notice → Bool
  | event e => e.level = .debug
  | _ => false

theorem Notice.event_of_isRemark {n : Notice} (hn : n.isRemark = true) : ∃ e, n = .event e := by
  cases n with
  | event e => exact ⟨e, rfl⟩
  | _ => cases hn

/-- What is told, but for remarks. -/
def reports (ns : List Notice) : List Notice := ns.filter fun n => !n.isRemark

theorem reports_append (ms ns : List Notice) : reports (ms ++ ns) = reports ms ++ reports ns := List.filter_append ..

/-- The program tells nothing but remarks. -/
def Program.Remarks : Program α → Prop
  | done _ => True
  | panic => True
  | tell n rest => n.isRemark = true ∧ rest.Remarks
  | execute _ k => ∀ r, (k r).Remarks
  | query _ k => ∀ r, (k r).Remarks
  | release _ _ rest => rest.Remarks

namespace Program

theorem remarks_bind {m : Program α} {f : α → Program β} (hm : m.Remarks) (hf : ∀ a, (f a).Remarks) :
    (m.bind f).Remarks := by
  induction m with
  | done a => exact hf a
  | panic => trivial
  | tell n rest ih => exact ⟨hm.1, ih hm.2⟩
  | execute s k ih => exact fun r => ih r (hm r)
  | query s k ih => exact fun r => ih r (hm r)
  | release s taken rest ih => exact ih hm

theorem reports_remarks {m : Program α} (hm : m.Remarks) (st : σ) : reports (m.tells h st) = [] := by
  induction m generalizing st with
  | done a => rfl
  | panic => rfl
  | tell n rest ih =>
    rw [tells, reports, List.filter_cons_of_neg (by rw [hm.1]; decide)]
    exact ih hm.2 st
  | execute s k ih => exact ih _ (hm _) _
  | query s k ih => exact ih _ (hm _) _
  | release s taken rest ih => exact ih hm _

end Program

namespace Call

theorem remarks_bind {c : Call α} {f : α → Call β} (hc : c.run.Remarks) (hf : ∀ a, (f a).run.Remarks) :
    (c >>= f).run.Remarks :=
  Program.remarks_bind hc fun
    | .ok a => hf a
    | .error _ => trivial

theorem remarks_read (s : Statement) (reader : Reader α) : (read s reader).run.Remarks := by
  unfold read
  intro reply
  cases reply with
  | error e => trivial
  | ok items =>
    dsimp only
    split <;> trivial

theorem remarks_tell {n : Notice} (hn : n.isRemark = true) : (tell n).run.Remarks := ⟨hn, trivial⟩

theorem remarks_pure (a : α) : (pure a : Call α).run.Remarks := trivial

theorem tells_bind_ok {c : Call α} {a : α} {st : σ} (hc : (c.run.run h st).result = some (.ok a)) (f : α → Call β) :
    (c >>= f).run.tells h st = c.run.tells h st ++ (f a).run.tells h (c.run.run h st).state := by
  refine (Program.tells_bind c.run (ExceptT.bindCont f) st).trans ?_
  rw [Outcome.next_some hc]
  rfl

theorem tells_bind_stop {c : Call α} {st : σ} (hc : ∀ a, (c.run.run h st).result ≠ some (.ok a)) (f : α → Call β) :
    (c >>= f).run.tells h st = c.run.tells h st := by
  refine (Program.tells_bind c.run (ExceptT.bindCont f) st).trans ?_
  cases hresult : (c.run.run h st).result with
  | none => rw [Outcome.next_none hresult, List.append_nil]
  | some r =>
    cases r with
    | ok a => exact absurd hresult (hc a)
    | error e =>
      rw [Outcome.next_some hresult]
      exact List.append_nil _

end Call

/-! ## Operations and the calls inside of them -/

/-- An operation that has an account of its own. A write without a key leaves that to the creation. -/
def Operation.isMeasured : Operation → Bool
  | write id _ => (Store.truthy? id).isSome
  | writeChecked _ _ => false
  | _ => true

namespace Store

/-- The span of an operation. A checked write has none. -/
def span? (st : Store) : Operation → Option Span
  | .exists _ => some (st.spanOf "exists" [])
  | .read _ => some (st.spanOf "read" [])
  | .write _ r => some (st.spanOf "write" (columnsField r))
  | .writeChecked _ _ => none
  | .create _ r => some (st.spanOf "create" (columnsField r))
  | .update _ r => some (st.spanOf "update" (columnsField r))
  | .remove _ => some (st.spanOf "remove" [])
  | .list f _ => some (st.spanOf "list" (predicatesField f))
  | .iterate f _ _ => some (st.spanOf "iterate" (predicatesField f))
  | .count f _ => some (st.spanOf "count" (predicatesField f))

variable {st : Store}

/-- The calls of a checked write, each with the handle as it finds it. -/
def checkedCalls (h : Handle σ) (st : Store) (id : Option Value) (r : Record) (start : σ) : List (Operation × σ) :=
  match truthy? id with
  | none => [(.create none r, start)]
  | some key =>
    let look := Program.run h (st.exists? (.key key)).run start
    (.exists (.key key), start) :: match look.result with
      | some (.ok true) => [(.update key r, look.state)]
      | some (.ok false) => [(.create (some key) r, look.state)]
      | _ => []

/-- The calls behind an upsert: those of a checked write, if there is no unique key. -/
def upsertCalls (h : Handle σ) (st : Store) (key : Value) (r : Record) (start : σ) : List (Operation × σ) :=
  match st.upsertStatement r with
  | .error _ => []
  | .ok s =>
    match (h.execute start s).result with
    | .ok _ => []
    | .error e => if lacksUniqueId e then st.checkedCalls h (some key) r (h.execute start s).state else []

/-- The operations that are called inside of an operation, each with the handle as it finds it. -/
def inside (h : Handle σ) (st : Store) : Operation × σ → List (Operation × σ)
  | (.write id r, start) =>
    match truthy? id with
    | none => [(.create none r, start)]
    | some key =>
      if renames key r then st.checkedCalls h (some key) r start else st.upsertCalls h key (r.withId key) start
  | (.writeChecked id r, start) => st.checkedCalls h id r start
  | _ => []

/-! ## What is told of an operation -/

/-- What is told of a call, where `inner` is told of the calls inside of it. A panic is the end. -/
def bracket (h : Handle σ) (st : Store) (inner : List Notice) (c : Operation × σ) : List Notice :=
  match st.span? c.1 with
  | none => inner
  | some s =>
    .enter s :: (inner ++ (Program.run h (st.perform c.1).run c.2).next fun r _ =>
      (if c.1.isMeasured then closing c.1.name st.table r else []) ++ [.leave])

/-- What is told of a call with all calls inside of it. -/
def ledger (h : Handle σ) (st : Store) (c : Operation × σ) : List Notice :=
  st.bracket h ((st.inside h c).flatMap (st.bracket h [])) c

theorem reports_closing (operation table : String) (r : Except Error α) :
    reports (closing operation table r ++ [.leave]) = closing operation table r ++ [.leave] := by
  cases r <;> rfl

/-- A measured operation is told in its bracket. -/
theorem bracket_measured {op : Operation} {s : Span} {c : Call op.Result} (hspan : st.span? op = some s)
    (hmeasured : op.isMeasured = true) (hc : st.perform op = inSpan s (observe op.name st.table c)) (start : σ) :
      reports ((st.perform op).run.tells h start) = st.bracket h (reports (c.run.tells h start)) (op, start) := by
  have hclosing : ∀ o : Outcome σ (Except Error op.Result),
      reports (o.next fun r _ => closing op.name st.table r ++ [.leave]) =
        o.next fun r _ => closing op.name st.table r ++ [.leave] := by
    intro o
    rw [Outcome.next_result]
    cases o.result with
    | none => rfl
    | some r => exact reports_closing _ _ r
  simp only [bracket, hspan, hmeasured, if_true]
  rw [hc, tells_measured, ← List.singleton_append, reports_append, reports_append, hclosing]
  rfl

/-- An operation that is not measured leaves its span without an account. -/
theorem bracket_unmeasured {op : Operation} {s : Span} {c : Call op.Result} (hspan : st.span? op = some s)
    (hmeasured : op.isMeasured = false) (hc : st.perform op = inSpan s c) (start : σ) :
      reports ((st.perform op).run.tells h start) = st.bracket h (reports (c.run.tells h start)) (op, start) := by
  have hleave : ∀ o : Outcome σ (Except Error op.Result),
      reports (o.next fun _ _ => [Notice.leave]) = o.next fun _ _ => [Notice.leave] := by
    intro o
    rw [Outcome.next_result]
    cases o.result <;> rfl
  simp only [bracket, hspan, hmeasured, Bool.false_eq_true, if_false, List.nil_append]
  rw [hc, tells_inSpan, ← List.singleton_append, reports_append, reports_append, hleave, Outcome.next_result,
    Outcome.next_result, result_inSpan]
  rfl

/-- Nothing but remarks is told inside. -/
theorem bracket_plain {op : Operation} {s : Span} {c : Call op.Result} (hspan : st.span? op = some s)
    (hmeasured : op.isMeasured = true) (hc : st.perform op = inSpan s (observe op.name st.table c))
    (hplain : c.run.Remarks) (start : σ) :
      reports ((st.perform op).run.tells h start) = st.bracket h [] (op, start) := by
  rw [bracket_measured hspan hmeasured hc, Program.reports_remarks hplain]

theorem remarks_send (message : String) (s : Except Error Statement) : (send message s).run.Remarks := by
  cases s with
  | error e => trivial
  | ok s => exact ⟨rfl, fun _ => trivial⟩

theorem remarks_select (f : Filter) (o : QueryOptions) : (st.select f o).run.Remarks :=
  ⟨rfl, Call.remarks_read _ .all⟩

theorem told_exists (i : Identifier) (start : σ) :
    reports ((st.perform (.exists i)).run.tells h start) = st.bracket h [] (.exists i, start) :=
  bracket_plain rfl rfl rfl (Call.remarks_bind (remarks_select _ _) fun _ => Call.remarks_pure _) start

theorem told_create (id : Option Value) (r : Record) (start : σ) :
    reports ((st.perform (.create id r)).run.tells h start) = st.bracket h [] (.create id r, start) :=
  bracket_plain rfl rfl rfl (remarks_send _ _) start

theorem told_update (key : Value) (r : Record) (start : σ) :
    reports ((st.perform (.update key r)).run.tells h start) = st.bracket h [] (.update key r, start) :=
  bracket_plain rfl rfl rfl (remarks_send _ _) start

/-! ## Writes -/

/-- A checked write is told as the calls that it consists of. -/
theorem told_checked (id : Option Value) (r : Record) (start : σ) :
    reports ((st.writeChecked id r).run.tells h start) =
      (st.checkedCalls h id r start).flatMap (st.bracket h []) := by
  unfold writeChecked checkedCalls
  cases hid : truthy? id with
  | none =>
    rw [List.flatMap_singleton]
    exact told_create none r start
  | some key =>
    rw [List.flatMap_cons, ← told_exists]
    cases hlook : (Program.run h (st.exists? (.key key)).run start).result with
    | none =>
      rw [Call.tells_bind_stop (by simp [hlook])]
      exact (List.append_nil _).symm
    | some found =>
      cases found with
      | error e =>
        rw [Call.tells_bind_stop (by simp [hlook])]
        exact (List.append_nil _).symm
      | ok found =>
        rw [Call.tells_bind_ok hlook, reports_append]
        cases found with
        | true => exact congrArg₂ (· ++ ·) rfl ((told_update key r _).trans (List.flatMap_singleton _ _).symm)
        | false => exact congrArg₂ (· ++ ·) rfl ((told_create (some key) r _).trans (List.flatMap_singleton _ _).symm)

/-- The calls behind an upsert are those that it falls back to. -/
theorem told_upsert (key : Value) (r : Record) (start : σ) :
    reports ((st.upsert key r).run.tells h start) = (st.upsertCalls h key r start).flatMap (st.bracket h []) := by
  unfold upsert upsertCalls
  cases hs : st.upsertStatement r with
  | error e => rfl
  | ok s =>
    have htells : ∀ f : Except Error WriteOutcome → Program (Except Error WriteOutcome),
        reports (((Call.execute s).run.bind f).tells h start) =
          reports ((f (h.execute start s).result).tells h (h.execute start s).state) := fun f => rfl
    refine (htells _).trans ?_
    dsimp only
    cases (h.execute start s).result with
    | ok w => rfl
    | error e =>
      dsimp only
      by_cases hlacks : lacksUniqueId e = true
      · rw [if_pos hlacks, if_pos hlacks]
        exact told_checked (some key) r _
      · rw [if_neg hlacks, if_neg hlacks]
        rfl

/-- A write without a key has a span, and the creation inside. -/
theorem told_keyless {id : Option Value} (hid : truthy? id = none) (r : Record) (start : σ) :
    reports ((st.perform (.write id r)).run.tells h start) = st.ledger h (.write id r, start) := by
  have hperform : st.perform (.write id r) = inSpan (st.spanOf "write" (columnsField r)) (st.create none r) := by
    show st.write id r = _
    rw [write, hid]
  have hmeasured : (Operation.write id r).isMeasured = false := by
    rw [Operation.isMeasured, hid]
    rfl
  have hinside : st.inside h (.write id r, start) = [(.create none r, start)] := by
    rw [inside, hid]
  rw [ledger, hinside, List.flatMap_singleton, ← told_create]
  exact bracket_unmeasured rfl hmeasured hperform start

/-- A write by key is measured around its upsert, or around the checked write. -/
theorem told_keyed {id : Option Value} {key : Value} (hid : truthy? id = some key) (r : Record) (start : σ) :
    reports ((st.perform (.write id r)).run.tells h start) = st.ledger h (.write id r, start) := by
  let body : Call WriteOutcome :=
    if renames key r then do
      Call.tell (.debug .store "record renames its id, writing by key" [("key", .text key.display)])
      st.writeChecked (some key) r
    else st.upsert key (r.withId key)
  have hperform : st.perform (.write id r) =
      inSpan (st.spanOf "write" (columnsField r)) (observe "write" st.table body) := by
    show st.write id r = _
    rw [write, hid]
  have hmeasured : (Operation.write id r).isMeasured = true := by
    rw [Operation.isMeasured, hid]
    rfl
  have hinside : st.inside h (.write id r, start) =
      if renames key r then st.checkedCalls h (some key) r start else st.upsertCalls h key (r.withId key) start := by
    rw [inside, hid]
  have hbody : reports (body.run.tells h start) = (st.inside h (.write id r, start)).flatMap (st.bracket h []) := by
    rw [hinside]
    by_cases hrenames : renames key r = true
    · simp only [body, if_pos hrenames]
      exact told_checked (some key) r start
    · simp only [body, if_neg hrenames]
      exact told_upsert key (r.withId key) start
  exact (bracket_measured rfl hmeasured hperform start).trans
    (congrArg (fun inner => st.bracket h inner (.write id r, start)) hbody)

/-- Every operation is told with the calls inside of it. -/
theorem told_perform (op : Operation) (start : σ) :
    reports ((st.perform op).run.tells h start) = st.ledger h (op, start) := by
  cases op with
  | «exists» i => exact told_exists i start
  | read i =>
    refine bracket_plain rfl rfl rfl ?_ start
    cases i with
    | key v => exact ⟨rfl, Call.remarks_read _ _⟩
    | keys vs => exact Call.remarks_bind (remarks_select _ _) fun _ => Call.remarks_pure _
    | filter f => exact Call.remarks_bind (remarks_select _ _) fun _ => Call.remarks_pure _
  | write id r =>
    cases hid : truthy? id with
    | none => exact told_keyless hid r start
    | some key => exact told_keyed hid r start
  | writeChecked id r => exact told_checked id r start
  | create id r => exact told_create id r start
  | update key r => exact told_update key r start
  | remove i => exact bracket_plain rfl rfl rfl (remarks_send _ _) start
  | list f o => exact bracket_plain rfl rfl rfl (remarks_select _ _) start
  | iterate f o reader =>
    have hread : (Call.read (st.selectStatement f o) reader).run.Remarks := Call.remarks_read _ _
    exact bracket_plain rfl rfl rfl (Call.remarks_bind (Call.remarks_tell rfl) fun _ => hread) start
  | count f o =>
    refine bracket_plain rfl rfl rfl (Call.remarks_bind (Call.remarks_tell rfl) fun _ => ?_) start
    exact Call.remarks_bind (Call.remarks_bind (Call.remarks_read _ _) fun _ => Call.remarks_pure _) fun _ => trivial

/-! ## Counting -/

/-- The calls of a sequence, each with the handle as it finds it. -/
def started (h : Handle σ) (st : Store) : List Operation → σ → List (Operation × σ)
  | [], _ => []
  | op :: ops, start => (op, start) :: started h st ops (Program.run h (st.perform op).run start).state

/-- These calls and those inside of them. -/
def calls (h : Handle σ) (st : Store) (ops : List Operation) (start : σ) : List (Operation × σ) :=
  (st.started h ops start).flatMap fun c => c :: st.inside h c

/-- All that is told of a sequence of operations. -/
def trace (h : Handle σ) (st : Store) (ops : List Operation) (start : σ) : List Notice :=
  (st.started h ops start).flatMap fun c => (Program.run h (st.perform c.1).run c.2).notices

/-- What the operations themselves tell of it. -/
def tells (h : Handle σ) (st : Store) (ops : List Operation) (start : σ) : List Notice :=
  (st.started h ops start).flatMap fun c => (st.perform c.1).run.tells h c.2

/-- What the handle tells of it. -/
def hears (h : Handle σ) (st : Store) (ops : List Operation) (start : σ) : List Notice :=
  (st.started h ops start).flatMap fun c => (st.perform c.1).run.hears h c.2

/-- A count of an operation with this name. -/
def countsOne (name : String) : Notice → Bool
  | .counter total ls _ => total = "litestore_operations_total" ∧ ("operation", name) ∈ ls
  | _ => false

/-- A span of an operation with this name begins. -/
def opensOne (name : String) : Notice → Bool
  | .enter s => s.origin = .store ∧ s.name = name
  | _ => false

/-- A call that has an account under this name: it is measured, and has not panicked. -/
def isCounted (h : Handle σ) (st : Store) (name : String) (c : Operation × σ) : Bool :=
  c.1.isMeasured && c.1.name = name && (Program.run h (st.perform c.1).run c.2).result.isSome

/-- A call that has a span of this name. -/
def isOpened (st : Store) (name : String) (c : Operation × σ) : Bool := (st.span? c.1).isSome && c.1.name = name

theorem span?_eq_some {op : Operation} {s : Span} (hs : st.span? op = some s) : s.origin = .store ∧ s.name = op.name := by
  cases op <;> cases hs <;> exact ⟨rfl, rfl⟩

theorem span?_eq_none {op : Operation} (hs : st.span? op = none) : op.isMeasured = false := by
  cases op with
  | writeChecked id r => rfl
  | _ => cases hs

theorem countsOne_closing (name operation table : String) (r : Except Error α) :
    (closing operation table r).countP (countsOne name) = if operation = name then 1 else 0 := by
  have hcounter : countsOne name (.counter "litestore_operations_total"
      [("backend", "sqlite"), ("operation", operation), ("status", statusOf r)] 1) = decide (operation = name) := by
    simp [countsOne, eq_comm]
  have hhistogram : ∀ ls, countsOne name (.histogram "litestore_operation_duration_ms" ls) = false := fun _ => rfl
  have hwarning : (warningOf operation table r).countP (countsOne name) = 0 := by
    cases r <;> rfl
  rw [closing, List.countP_cons, List.countP_cons, hcounter, hhistogram, hwarning]
  simp

theorem opensOne_closing (name operation table : String) (r : Except Error α) :
    (closing operation table r).countP (opensOne name) = 0 := by
  cases r <;> rfl

theorem countP_bracket (p : Notice → Bool) (inner : List Notice) (c : Operation × σ) :
    (st.bracket h inner c).countP p = inner.countP p + (st.bracket h [] c).countP p := by
  unfold bracket
  cases st.span? c.1 with
  | none => rfl
  | some s =>
    simp only [List.countP_cons, List.countP_append, List.countP_nil]
    omega

theorem countsOne_bracket (name : String) (c : Operation × σ) :
    (st.bracket h [] c).countP (countsOne name) = [c].countP (st.isCounted h name) := by
  rw [List.countP_singleton, isCounted, bracket]
  cases hspan : st.span? c.1 with
  | none =>
    rw [span?_eq_none hspan]
    rfl
  | some s =>
    have henter : countsOne name (.enter s) = false := rfl
    have hleave : countsOne name .leave = false := rfl
    simp only [List.nil_append, List.countP_cons, henter, Outcome.next_result]
    cases (Program.run h (st.perform c.1).run c.2).result with
    | none => simp
    | some r =>
      cases c.1.isMeasured with
      | false => simp [hleave]
      | true => simp [hleave, List.countP_append, countsOne_closing]

theorem opensOne_bracket (name : String) (c : Operation × σ) :
    (st.bracket h [] c).countP (opensOne name) = [c].countP (st.isOpened name) := by
  rw [List.countP_singleton, isOpened, bracket]
  cases hspan : st.span? c.1 with
  | none => rfl
  | some s =>
    obtain ⟨horigin, hname⟩ := span?_eq_some hspan
    simp only [List.nil_append, List.countP_cons, Outcome.next_result]
    cases (Program.run h (st.perform c.1).run c.2).result with
    | none => simp [opensOne, horigin, hname]
    | some r =>
      cases c.1.isMeasured with
      | false => simp [opensOne, horigin, hname]
      | true => simp [List.countP_append, opensOne_closing, opensOne, horigin, hname]

/-- What is told of a call and of those inside of it is counted as they are. -/
theorem countP_ledger {p : Notice → Bool} {q : Operation × σ → Bool}
    (hone : ∀ c, (st.bracket h [] c).countP p = [c].countP q) (c : Operation × σ) :
    (st.ledger h c).countP p = (c :: st.inside h c).countP q := by
  have hinside : ∀ cs : List (Operation × σ), (cs.flatMap (st.bracket h [])).countP p = cs.countP q := by
    intro cs
    induction cs with
    | nil => rfl
    | cons c cs ih => rw [List.flatMap_cons, List.countP_append, hone, ih, ← List.countP_append, List.singleton_append]
  have hcons : c :: st.inside h c = [c] ++ st.inside h c := rfl
  rw [ledger, countP_bracket, hinside, hone, hcons, List.countP_append, Nat.add_comm]

/-- What is told of a sequence is told of its calls, or by the handle. -/
theorem countP_trace {p : Notice → Bool} {q : Operation × σ → Bool} (hleave : p .leave = false)
    (hremark : ∀ n, n.isRemark = true → p n = false) (hone : ∀ c, (st.bracket h [] c).countP p = [c].countP q)
    (ops : List Operation) (start : σ) :
      (st.trace h ops start).countP p = (st.calls h ops start).countP q + (st.hears h ops start).countP p := by
  have hreports : ∀ ns : List Notice, (reports ns).countP p = ns.countP p := by
    intro ns
    rw [reports, List.countP_filter]
    refine List.countP_congr fun n _ => ?_
    cases hn : n.isRemark with
    | true => simp [hremark n hn]
    | false => simp
  unfold trace calls hears
  induction st.started h ops start with
  | nil => rfl
  | cons c cs ih =>
    obtain ⟨op, s⟩ := c
    simp only [List.flatMap_cons, List.countP_append] at ih ⊢
    rw [ih, Outcome.countP_notices hleave, Program.countP_told, ← hreports, told_perform, countP_ledger hone]
    omega

theorem tells_sublist_trace (ops : List Operation) (start : σ) :
    (st.tells h ops start).Sublist (st.trace h ops start) := by
  unfold tells trace
  induction st.started h ops start with
  | nil => exact List.Sublist.refl _
  | cons c cs ih =>
    have hfirst : ((st.perform c.1).run.tells h c.2).Sublist (Program.run h (st.perform c.1).run c.2).notices := by
      rw [Outcome.notices_eq]
      exact (Program.tells_sublist _ _).trans (List.sublist_append_left _ _)
    rw [List.flatMap_cons, List.flatMap_cons]
    exact hfirst.append ih

/-- Whatever the handle replies and tells, a sequence of operations tells of its calls one after
the other, each in its bracket with those inside of it. So there is one count and one span for
each call under its name, and no other but what the handle tells. A write without a key has no
count, only the creation inside of it has. -/
theorem operations_accounted (h : Handle σ) (st : Store) (ops : List Operation) (start : σ) :
    (st.tells h ops start).Sublist (st.trace h ops start) ∧
    reports (st.tells h ops start) = (st.started h ops start).flatMap (st.ledger h) ∧
    ∀ name,
      (st.trace h ops start).countP (countsOne name) =
        (st.calls h ops start).countP (st.isCounted h name) + (st.hears h ops start).countP (countsOne name) ∧
      (st.trace h ops start).countP (opensOne name) =
        (st.calls h ops start).countP (st.isOpened name) + (st.hears h ops start).countP (opensOne name) := by
  refine ⟨tells_sublist_trace ops start, ?_, fun name => ⟨?_, ?_⟩⟩
  · rw [tells, reports, List.filter_flatMap]
    congr 1
    funext c
    exact told_perform c.1 c.2
  · refine countP_trace rfl (fun n hn => ?_) (countsOne_bracket name) ops start
    obtain ⟨e, rfl⟩ := Notice.event_of_isRemark hn
    rfl
  · refine countP_trace rfl (fun n hn => ?_) (opensOne_bracket name) ops start
    obtain ⟨e, rfl⟩ := Notice.event_of_isRemark hn
    rfl

/-- A write without a key is traced, but not counted. -/
theorem keyless_write_uncounted :
    (Store.trace crowded ⟨"items", .bound⟩ [.write none (OrderedMap.empty.put "note" (.text "x"))] ()).countP
        (opensOne "write") = 1 ∧
      (Store.trace crowded ⟨"items", .bound⟩ [.write none (OrderedMap.empty.put "note" (.text "x"))] ()).countP
        (countsOne "write") = 0 ∧
      (Store.trace crowded ⟨"items", .bound⟩ [.write none (OrderedMap.empty.put "note" (.text "x"))] ()).countP
        (countsOne "create") = 1 := by
  refine ⟨?_, ?_, ?_⟩
  · decide
  · decide
  · decide

end Store
end TableKeeper
