import TableKeeper.Client
import TableKeeper.Proofs.Engine.Rest
import TableKeeper.Proofs.Turns

/-!
  TableKeeper.Proofs.Client — a client with a poisoned lock, and a client that has only read.

  1. Two clients are the same to every statement if they differ at most in their poison and in
     how they keep what their session shows (`Client.Same`). They answer alike
     (`Same.answers`), and a program does the same to both (`turn_same`).
  2. Nothing is written back but the session, so a client that is at rest is the same after a
     statement that left its session as it was (`same_withSession`), and after a turn of a
     program of queries (`turn_queries`). Queries and changes keep it at rest (`turn_atRest`).
  3. A lock is poisoned by a panic, and stays so (`turn_poisoned`).
  4. A client that was opened is at rest (`atRest_connect`, `atRest_connectMemory`). What is not
     at rest is a transaction that was begun and holds nothing yet: its first query begins to
     hold the database.
-/

namespace TableKeeper

open Engine Sql Sql.Grammar

/-! ## Temporary tables -/

/-- What a connection has of its own can be taken out and put back. -/
theorem Engine.Database.withTemporary_onlySchema (db own : Database) :
    db.withTemporary ((db.withTemporary own).onlySchema true) = db.withTemporary own := by
  simp [Database.withTemporary, Database.onlySchema, Database.ownTables, Database.ownViews, List.filter_filter]

namespace Client

variable {α : Type} {c c' c'' : Client}

/-! ## Clients that are the same -/

/-- The connection but for what it keeps between two statements. -/
def bare (c : Client) : Connection := { c.lock.value with own := {}, working := none }

/-- The client with its lock as it is before any panic. -/
def healed (c : Client) : Client := { c with lock := { c.lock with poisoned := false } }

/-- No statement sees a difference. -/
structure Same (c c' : Client) : Prop where
  disk : c.disk = c'.disk
  path : c.path = c'.path
  bare : c.bare = c'.bare
  session : c.session = c'.session

theorem Same.refl (c : Client) : Same c c := ⟨rfl, rfl, rfl, rfl⟩

theorem Same.symm (h : Same c c') : Same c' c := ⟨h.disk.symm, h.path.symm, h.bare.symm, h.session.symm⟩

theorem Same.trans (h : Same c c') (h' : Same c' c'') : Same c c'' :=
  ⟨h.disk.trans h'.disk, h.path.trans h'.path, h.bare.trans h'.bare, h.session.trans h'.session⟩

theorem same_healed (c : Client) : Same c c.healed := ⟨rfl, rfl, rfl, rfl⟩

theorem same_of_healed (h : c.healed = c'.healed) : Same c c' :=
  (same_healed c).trans (h ▸ (same_healed c').symm)

/-- A session is written back over all in which the clients may differ. -/
theorem withSession_healed (h : Same c c') (s : Session) : (c.withSession s).healed = (c'.withSession s).healed := by
  obtain ⟨disk, ⟨conn, poisoned⟩, path⟩ := c
  obtain ⟨disk', ⟨conn', poisoned'⟩, path'⟩ := c'
  obtain ⟨rfl, rfl, hbare, -⟩ := h
  cases conn
  cases conn'
  simp only [Client.bare, Connection.mk.injEq] at hbare
  obtain ⟨rfl, rfl, rfl, rfl, rfl, rfl, rfl, -, rfl, rfl, -, rfl⟩ := hbare
  rfl

theorem withSession_same (h : Same c c') (s : Session) : Same (c.withSession s) (c'.withSession s) :=
  same_of_healed (withSession_healed h s)

theorem execute_state (c : Client) (s : Statement) :
    (handle.execute c s).state = c.withSession (c.session.execute s.sql s.params).2 := by
  simp only [handle, execute]

theorem query_state (c : Client) (s : Statement) :
    (handle.query c s).state = c.withSession (c.session.query s.sql s.params).2 := by
  simp only [handle, query]

theorem batch_state (c : Client) (sql : String) : (c.batch sql).state = c.withSession (c.session.batch sql).2 := by
  simp only [batch]

theorem execute_same (h : Same c c') (s : Statement) :
    (handle.execute c s).result = (handle.execute c' s).result ∧
      Same (handle.execute c s).state (handle.execute c' s).state := by
  rw [execute_state, execute_state, ← h.session]
  refine ⟨?_, withSession_same h _⟩
  simp only [handle, execute, h.session]

theorem query_same (h : Same c c') (s : Statement) :
    (handle.query c s).result = (handle.query c' s).result ∧
      Same (handle.query c s).state (handle.query c' s).state := by
  rw [query_state, query_state, ← h.session]
  refine ⟨?_, withSession_same h _⟩
  simp only [handle, query, h.session]

theorem batch_same (h : Same c c') (sql : String) :
    (c.batch sql).result = (c'.batch sql).result ∧ Same (c.batch sql).state (c'.batch sql).state := by
  rw [batch_state, batch_state, ← h.session]
  refine ⟨?_, withSession_same h _⟩
  simp only [batch, h.session]

/-- The clients answer every text alike, and are the same after it. -/
structure Answers (c c' : Client) : Prop where
  execute : ∀ s, (handle.execute c s).result = (handle.execute c' s).result ∧
    Same (handle.execute c s).state (handle.execute c' s).state
  query : ∀ s, (handle.query c s).result = (handle.query c' s).result ∧
    Same (handle.query c s).state (handle.query c' s).state
  batch : ∀ sql, (c.batch sql).result = (c'.batch sql).result ∧ Same (c.batch sql).state (c'.batch sql).state

theorem Same.answers (h : Same c c') : Answers c c' := ⟨execute_same h, query_same h, batch_same h⟩

theorem unwind_same (c : Client) : Same (handle.unwind c) c := ⟨rfl, rfl, rfl, rfl⟩

theorem givenBack_same {m m' : Program α} (hm : m = m') (h : Same c c') (xs xs' : List Entry) :
    (m.givenBack handle c xs).rest = (m'.givenBack handle c' xs').rest ∧
      Same (m.givenBack handle c xs).state (m'.givenBack handle c' xs').state := by
  subst hm
  induction m generalizing xs xs' with
  | panic => exact ⟨rfl, (unwind_same c).trans (h.trans (unwind_same c').symm)⟩
  | release s taken rest ih => exact ih _ _
  | _ => exact ⟨rfl, h⟩

/-- A program cannot tell the clients apart, and its turn does the same to both. -/
theorem turn_same (m : Program α) (h : Same c c') :
    (m.turn handle c).rest = (m.turn handle c').rest ∧ Same (m.turn handle c).state (m.turn handle c').state := by
  cases m with
  | execute s k =>
    obtain ⟨hresult, hstate⟩ := execute_same h s
    rw [Program.turn_execute, Program.turn_execute]
    exact givenBack_same (congrArg k hresult) hstate _ _
  | query s k =>
    obtain ⟨hresult, hstate⟩ := query_same h s
    rw [Program.turn_query, Program.turn_query]
    exact givenBack_same (congrArg k hresult) hstate _ _
  | _ => exact givenBack_same rfl h _ _

/-! ## Clients at rest -/

/-- No transaction is open that holds nothing yet, and nothing is worked on outside of one. -/
structure AtRest (c : Client) : Prop where
  held : c.lock.value.savepoints = [] ∨ c.lock.value.hold ≠ .free
  settled : c.lock.value.hold = .free → c.lock.value.working = none

theorem AtRest.session (h : c.AtRest) : c.session.AtRest := h.held

theorem atRest_withSession (c : Client) {s : Session} (h : s.AtRest) : (c.withSession s).AtRest where
  held := h
  settled hfree := if_pos hfree

theorem seenBy_session (c : Client) : c.seenBy c.session = c.lock.value.seen := by
  have hnot : ¬(c.lock.value.hold = .free ∧ c.session.hold ≠ .free) := fun ⟨hfree, hheld⟩ => hheld hfree
  unfold seenBy
  split
  · rw [if_neg hnot]
  · rfl

/-- A session is what is kept of its client, and the database that it shows. -/
theorem session_ext (hdisk : c.disk = c'.disk) (hbare : c.bare = c'.bare)
    (hdatabase : c.session.database = c'.session.database) : c.session = c'.session := by
  obtain ⟨disk, ⟨conn, poisoned⟩, path⟩ := c
  obtain ⟨disk', ⟨conn', poisoned'⟩, path'⟩ := c'
  obtain rfl : disk = disk' := hdisk
  cases conn
  cases conn'
  simp only [Client.bare, Connection.mk.injEq] at hbare
  obtain ⟨rfl, rfl, rfl, rfl, rfl, rfl, rfl, -, rfl, rfl, -, rfl⟩ := hbare
  simp only [Client.session, Connection.session] at hdatabase ⊢
  rw [hdatabase]
  rfl

theorem bare_withSession (c : Client) : (c.withSession c.session).bare = c.bare := by
  show ({ c.bare with seen := c.seenBy c.session } : Connection) = c.bare
  rw [seenBy_session]
  rfl

/-- The database of a connection outside of a transaction. -/
theorem database_unworked (h : c.lock.value.working = none) :
    c.session.database = (Connection.database c.disk c.lock.value.place).map (·.withTemporary c.lock.value.own) := by
  unfold Client.session Connection.session
  rw [h]

theorem database_worked {db : Database} (h : c.lock.value.working = some db) : c.session.database = .ok db := by
  unfold Client.session Connection.session
  rw [h]

/-- The database that a client shows is shown again when its session is written back. -/
theorem database_withSession (h : c.AtRest) : (c.withSession c.session).session.database = c.session.database := by
  have hworking : (c.withSession c.session).lock.value.working =
      if c.lock.value.hold = .free then none else c.session.database.toOption := rfl
  have hown : (c.withSession c.session).lock.value.own = c.session.known.onlySchema true := rfl
  have hstored : Connection.database (c.withSession c.session).disk (c.withSession c.session).lock.value.place =
      Connection.database c.disk c.lock.value.place := rfl
  by_cases hfree : c.lock.value.hold = .free
  · rw [if_pos hfree] at hworking
    rw [database_unworked hworking, hown, hstored, Session.known, database_unworked (h.settled hfree)]
    cases Connection.database c.disk c.lock.value.place with
    | error f => rfl
    | ok db => exact congrArg Except.ok (Database.withTemporary_onlySchema db c.lock.value.own)
  · rw [if_neg hfree] at hworking
    cases hdatabase : c.session.database with
    | ok db =>
      rw [hdatabase] at hworking
      exact database_worked hworking
    | error f =>
      rw [hdatabase] at hworking
      cases hbefore : c.lock.value.working with
      | some db =>
        rw [database_worked hbefore] at hdatabase
        cases hdatabase
      | none =>
        rw [database_unworked hbefore] at hdatabase
        rw [database_unworked hworking, hstored]
        cases hplace : Connection.database c.disk c.lock.value.place with
        | error f' =>
          rw [hplace] at hdatabase
          exact hdatabase
        | ok db =>
          rw [hplace] at hdatabase
          cases hdatabase

/-- A client at rest is the same after its own session is written back. -/
theorem same_withSession (h : c.AtRest) : Same (c.withSession c.session) c where
  disk := rfl
  path := rfl
  bare := bare_withSession c
  session := session_ext rfl (bare_withSession c) (database_withSession h)

/-! ## Turns at rest -/

/-- The client has the session that a run of the statement leaves. -/
def Ran (c : Client) (s : Statement) (c' : Client) : Prop :=
  ∃ session, c.session.Runs s.sql s.params session ∧ c' = c.withSession session

theorem ran_execute (c : Client) (s : Statement) : c.Ran s (handle.execute c s).state :=
  ⟨_, c.session.runs_execute s.sql s.params, execute_state c s⟩

theorem ran_query (c : Client) (s : Statement) : c.Ran s (handle.query c s).state :=
  ⟨_, c.session.runs_query s.sql s.params, query_state c s⟩

/-- At rest, a query leaves the client the same. -/
theorem Ran.leaves {s : Statement} (hr : c.Ran s c') (h : c.AtRest) (hs : HasVerb "SELECT" s.sql) : Same c' c := by
  obtain ⟨session, hruns, rfl⟩ := hr
  rw [hruns.leaves h.session hs]
  exact same_withSession h

theorem givenBack_state (m : Program α) (c : Client) (xs : List Entry) : Same (m.givenBack handle c xs).state c := by
  induction m generalizing xs with
  | panic => exact unwind_same c
  | release s taken rest ih => exact ih _
  | _ => exact Same.refl c

/-- A turn of a program of queries leaves a client at rest the same, even if it panics. -/
theorem turn_queries {m : Program α} (hm : m.Sends fun s => HasVerb "SELECT" s.sql) (h : c.AtRest) :
    Same (m.turn handle c).state c := by
  cases m with
  | execute s k =>
    rw [Program.turn_execute]
    exact (givenBack_state _ _ _).trans ((ran_execute c s).leaves h hm.1)
  | query s k =>
    rw [Program.turn_query]
    exact (givenBack_state _ _ _).trans ((ran_query c s).leaves h hm.1)
  | _ => exact givenBack_state _ c _

/-- The statement is a query or a change. -/
def HasVerbAmong (s : Statement) : Prop := ∃ w ∈ verbs, HasVerb w s.sql

theorem Ran.atRest {s : Statement} (hr : c.Ran s c') (h : c.AtRest) (hs : HasVerbAmong s) : c'.AtRest := by
  obtain ⟨session, hruns, rfl⟩ := hr
  obtain ⟨w, hw, hverb⟩ := hs
  exact atRest_withSession c (hruns.atRest h.session hw hverb)

theorem givenBack_atRest (m : Program α) (h : c.AtRest) (xs : List Entry) : (m.givenBack handle c xs).state.AtRest := by
  induction m generalizing xs with
  | panic => exact ⟨h.held, h.settled⟩
  | release s taken rest ih => exact ih _
  | _ => exact h

/-- A turn of a program of queries and changes leaves a client at rest. -/
theorem turn_atRest {m : Program α} (hm : m.Sends HasVerbAmong) (h : c.AtRest) : (m.turn handle c).state.AtRest := by
  cases m with
  | execute s k =>
    rw [Program.turn_execute]
    exact givenBack_atRest _ ((ran_execute c s).atRest h hm.1) _
  | query s k =>
    rw [Program.turn_query]
    exact givenBack_atRest _ ((ran_query c s).atRest h hm.1) _
  | _ => exact givenBack_atRest _ h _

/-! ## Poison -/

theorem Ran.poisoned {s : Statement} (hr : c.Ran s c') : c'.lock.poisoned = c.lock.poisoned := by
  obtain ⟨session, -, rfl⟩ := hr
  rfl

theorem givenBack_poisoned (m : Program α) (c : Client) (xs : List Entry) :
    (m.givenBack handle c xs).state.lock.poisoned = (c.lock.poisoned || (m.givenBack handle c xs).rest.isPanic) := by
  induction m generalizing xs with
  | panic => exact (Bool.or_true _).symm
  | release s taken rest ih => exact ih _
  | _ => exact (Bool.or_false _).symm

/-- The lock is poisoned by a panic, and by nothing else, and it is never healed. -/
theorem turn_poisoned (m : Program α) (c : Client) :
    (m.turn handle c).state.lock.poisoned = (c.lock.poisoned || (m.turn handle c).rest.isPanic) := by
  cases m with
  | execute s k => rw [Program.turn_execute, givenBack_poisoned, (ran_execute c s).poisoned]
  | query s k => rw [Program.turn_query, givenBack_poisoned, (ran_query c s).poisoned]
  | _ => exact givenBack_poisoned _ c _

/-! ## Clients that were opened -/

theorem atRest_atPlace (d : Disk) (path : Option String) (place : Place) : (atPlace d path place).AtRest :=
  ⟨.inl rfl, fun _ => rfl⟩

theorem atRest_openNamed {d : Disk} {path : String} {n : DatabaseName} (h : openNamed d path n = .ok c) : c.AtRest := by
  unfold openNamed at h
  split at h
  · cases h
    exact ⟨.inl rfl, fun _ => rfl⟩
  · cases h
    exact ⟨.inl rfl, fun _ => rfl⟩
  · cases h
    exact ⟨.inl rfl, fun _ => rfl⟩
  · split at h
    · cases h
    · split at h
      · cases h
        exact ⟨.inl rfl, fun _ => rfl⟩
      · cases h

theorem atRest_openPath {d : Disk} {path : String} (h : openPath d path = .ok c) : c.AtRest := by
  unfold openPath at h
  split at h
  · cases h
  · split at h
    · cases h
    · exact atRest_openNamed h

theorem AtRest.configured {s : ConnectionSettings} (h : c.AtRest) (hc : configured? s c = some c') : c'.AtRest := by
  unfold configured? at hc
  split at hc
  · cases hc
  · cases hc
    exact ⟨h.held, h.settled⟩

/-- However a client was opened, it is at rest. -/
theorem atRest_connect {d : Disk} {path : String} {s : ConnectionSettings} (h : (connect d path s).result = some (.ok c)) :
    c.AtRest := by
  unfold connect at h
  cases hopen : openPath d path with
  | error e =>
    rw [hopen] at h
    cases h
  | ok opened =>
    rw [hopen] at h
    cases hconfigured : configured? s opened with
    | none =>
      simp only [hconfigured] at h
      cases h
    | some client =>
      simp only [hconfigured] at h
      cases h
      exact (atRest_openPath hopen).configured hconfigured

theorem atRest_connectMemory {d : Disk} {s : ConnectionSettings} (h : (connectMemory d s).result = some (.ok c)) :
    c.AtRest := by
  obtain ⟨client, hconfigured, hok⟩ := Option.map_eq_some_iff.mp h
  cases hok
  exact (atRest_atPlace d none (.memory {})).configured hconfigured

end Client
end TableKeeper
