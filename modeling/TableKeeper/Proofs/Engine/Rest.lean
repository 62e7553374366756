import TableKeeper.Engine.Session
import TableKeeper.Proofs.Sql.Verbs

/-!
  TableKeeper.Proofs.Engine.Rest — what a statement leaves of a session.

  1. A session is at rest when no transaction is open that holds nothing yet. The first query of
     such a transaction would begin to hold the database; at rest, a query leaves the session
     exactly as it is (`Runs.leaves`).
  2. Queries and changes keep a session at rest, whatever came of them (`Runs.atRest`).
-/

namespace TableKeeper.Engine.Session

open Sql Sql.Grammar

variable {s s' : Session} {sql w : String} {params : List Value} {p : Prepared}

/-- A transaction that is open holds the database. -/
def AtRest (s : Session) : Prop := s.savepoints = [] ∨ s.hold ≠ .free

/-! ## What a text is prepared as -/

/-- What a text with the verb can be prepared as. -/
def bodyOfVerb (w : String) : Body → Prop
  | .select _ => w = "SELECT"
  | .insert _ => w = "INSERT"
  | .update _ => w = "UPDATE"
  | .delete _ => w = "DELETE"
  | _ => False

theorem bind_ok {ε α β : Type} {x : Except ε α} {f : α → Except ε β} {b : β} (h : (x >>= f) = .ok b) :
    ∃ a, x = .ok a ∧ f a = .ok b := by
  cases x with
  | error e => cases h
  | ok a => exact ⟨a, rfl, h⟩

theorem prepareParsed_verb {q : Parsed} (hq : ofVerb w q) {body : Body} (h : s.prepareParsed q = .ok body) :
    bodyOfVerb w body := by
  cases q with
  | select q =>
    cases hprepared : prepareSelect s.context q with
    | error f =>
      rw [prepareParsed, hprepared] at h
      cases h
    | ok r =>
      rw [prepareParsed, hprepared] at h
      cases h
      exact hq
  | insert i =>
    obtain ⟨db, -, h⟩ := bind_ok h
    obtain ⟨r, -, h⟩ := bind_ok h
    obtain ⟨_, -, h⟩ := bind_ok h
    cases h
    exact hq
  | update u =>
    obtain ⟨db, -, h⟩ := bind_ok h
    obtain ⟨r, -, h⟩ := bind_ok h
    obtain ⟨_, -, h⟩ := bind_ok h
    cases h
    exact hq
  | delete d =>
    obtain ⟨db, -, h⟩ := bind_ok h
    obtain ⟨r, -, h⟩ := bind_ok h
    obtain ⟨_, -, h⟩ := bind_ok h
    cases h
    exact hq
  | _ => exact hq.elim

theorem prepare_verb (hw : w ∈ verbs) (hv : HasVerb w sql) (h : s.prepare sql = .ok p) : bodyOfVerb w p.body := by
  unfold prepare at h
  cases hfirst : s.prepareFirst sql with
  | error e =>
    rw [hfirst] at h
    cases h
  | ok first =>
    rw [hfirst] at h
    unfold prepareFirst at hfirst
    rcases readStatement_verb hw hv with ⟨f, hf⟩ | ⟨r, hr, hofVerb⟩
    · simp only [hf] at hfirst
      cases hfirst
    · simp only [hr] at hfirst
      cases hbody : s.prepareParsed r.parsed with
      | error f =>
        rw [hbody] at hfirst
        cases hfirst
      | ok body =>
        rw [hbody] at hfirst
        cases hfirst
        have hp : p.body = body := by
          simp only at h
          split at h
          · cases h
          · cases h
            rfl
          · cases h
        rw [hp]
        exact prepareParsed_verb hofVerb hbody

/-! ## Steps -/

theorem holding_reading (h : s.AtRest) : s.holding .reading = s := by
  unfold holding
  split
  · rfl
  · next hopen =>
    obtain ⟨hsavepoints, -⟩ := not_or.mp hopen
    have hhold : s.hold ≠ .free := h.resolve_left (by simpa using hsavepoints)
    have hmax : s.hold.max .reading = s.hold := by
      cases hh : s.hold <;> first | exact absurd hh hhold | rfl
    rw [anchored, if_neg hhold, hmax]

theorem holding_atRest (h : s.AtRest) (k : Hold) : (s.holding k).AtRest := by
  unfold holding
  split
  · exact h
  · next hopen =>
    have hk : k ≠ .free := (not_or.mp hopen).2
    refine .inr ?_
    show s.hold.max k ≠ .free
    cases hh : s.hold <;> cases k <;> first | exact absurd rfl hk | decide

theorem rolledBack_atRest (h : s.AtRest) : s.rolledBack.AtRest := by
  unfold rolledBack
  split
  · exact .inl rfl
  · exact h

theorem afterChange_atRest (h : s.AtRest) (c : Changed) : (s.afterChange c).AtRest := by
  unfold afterChange
  dsimp only
  split
  · exact rolledBack_atRest h
  · exact h

/-- At rest, a query leaves the session as it is. -/
theorem step_query (h : s.AtRest) {q : PreparedSelect} (hb : p.body = .select q) : (s.step p params).2 = s := by
  obtain ⟨body, n⟩ := p
  cases hb
  have hstep : (s.step ⟨.select q, n⟩ params).2 = { s.holding .reading with
      wrote := (s.holding .reading).wrote || (false && (s.holding .reading).savepoints.isEmpty) } := rfl
  rw [hstep, holding_reading h, Bool.false_and, Bool.or_false]

theorem step_atRest (h : s.AtRest) (hb : bodyOfVerb w p.body) : (s.step p params).2.AtRest := by
  obtain ⟨body, n⟩ := p
  unfold step
  split
  · exact h
  · cases body with
    | select q => exact holding_atRest h _
    | insert i =>
      refine afterChange_atRest ?_ _
      exact holding_atRest h _
    | update u =>
      refine afterChange_atRest ?_ _
      exact holding_atRest h _
    | delete d =>
      refine afterChange_atRest ?_ _
      exact holding_atRest h _
    | _ => exact hb.elim

/-! ## Texts -/

/-- A run of a text leaves a session as it is, or takes the step that the text is prepared as. -/
def Runs (s : Session) (sql : String) (params : List Value) (s' : Session) : Prop :=
  s' = s ∨ ∃ p, s.prepare sql = .ok p ∧ s' = (s.step p params).2

theorem runs_execute (s : Session) (sql : String) (params : List Value) :
    s.Runs sql params (s.execute sql params).2 := by
  unfold execute
  cases hp : s.prepare sql with
  | error e => exact .inl rfl
  | ok p =>
    dsimp only
    split
    · exact .inl rfl
    · refine .inr ⟨p, hp, ?_⟩
      split <;> next heq => rw [heq]

theorem runs_query (s : Session) (sql : String) (params : List Value) : s.Runs sql params (s.query sql params).2 := by
  unfold query
  cases hp : s.prepare sql with
  | error e => exact .inl rfl
  | ok p =>
    dsimp only
    split
    · exact .inl rfl
    · exact .inr ⟨p, hp, rfl⟩

theorem step_leaves (h : s.AtRest) (hv : HasVerb "SELECT" sql) (hp : s.prepare sql = .ok p) : (s.step p params).2 = s := by
  have hb := prepare_verb (by decide) hv hp
  cases hbody : p.body with
  | select q => exact step_query h hbody
  | _ =>
    rw [hbody] at hb
    simp [bodyOfVerb] at hb

/-- At rest, the text of a query leaves the session as it is. -/
theorem Runs.leaves (hr : s.Runs sql params s') (h : s.AtRest) (hv : HasVerb "SELECT" sql) : s' = s := by
  rcases hr with hs | ⟨p, hp, hs⟩
  · exact hs
  · rw [hs, step_leaves h hv hp]

theorem Runs.atRest (hr : s.Runs sql params s') (h : s.AtRest) (hw : w ∈ verbs) (hv : HasVerb w sql) : s'.AtRest := by
  rcases hr with rfl | ⟨p, hp, rfl⟩
  · exact h
  · exact step_atRest h (prepare_verb hw hv hp)

end TableKeeper.Engine.Session
