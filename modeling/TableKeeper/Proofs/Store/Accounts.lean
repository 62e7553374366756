import TableKeeper.Proofs.Exchange
import TableKeeper.Store.Operations

/-!
  TableKeeper.Proofs.Store.Accounts — what the result of a write says of what was applied.

  1. A call that changes rows gives an outcome exactly when one of its statements was applied.
     That statement is its last, and the outcome is the handle's own (`Accounts`).
  2. Nothing is sent after a statement that failed, with one exception: a write goes on once
     after an upsert that was refused for lack of a unique key (`Mutation.Resumes`).
  3. An exchange that applied nothing may stand in front of a call with an account
     (`Accounts.cons`); the account of a write is put together with that from those of what
     it goes on with.
-/

namespace TableKeeper

open Sql

/-! ## Exchanges -/

namespace Entry

/-- What a statement that was applied did. -/
def applied? : Entry → Option WriteOutcome
  | executed _ (.ok w) => some w
  | _ => none

/-- The statement failed, at once or at one of its rows. -/
def failed : Entry → Bool
  | executed _ (.error _) | queried _ (.error _) => true
  | queried _ (.ok items) => items.any fun
    | .error _ => true
    | .ok _ => false
  | _ => false

end Entry

/-- What a call tells of its exchanges. It may go on after a first failure for which
`resumes` holds. -/
structure Accounts (resumes : Entry → Prop) (most : Nat) (xs : List Entry) (r : Except Error WriteOutcome) : Prop where
  /-- The outcome is that of the last statement, and no other was applied. -/
  applied : ∀ w, r = .ok w → ∃ before s, xs = before ++ [.executed s (.ok w)] ∧ ∀ x ∈ before, x.applied? = none
  unapplied : ∀ e, r = .error e → ∀ x ∈ xs, x.applied? = none
  stops : ∀ before x after, xs = before ++ x :: after → x.failed = true → after = [] ∨ before = [] ∧ resumes x
  few : xs.length ≤ most

namespace Accounts

variable {resumes : Entry → Prop} {most : Nat} {xs : List Entry} {x : Entry} {r : Except Error WriteOutcome}

/-- An account that never goes on after a failure. -/
abbrev Strict : Nat → List Entry → Except Error WriteOutcome → Prop := Accounts fun _ => False

theorem none (e : Error) : Accounts resumes most [] (.error e) where
  applied := nofun
  unapplied _ _ := nofun
  stops before x after h := by simp at h
  few := Nat.zero_le _

/-- Nothing is behind a single exchange. -/
theorem after_single {y : Entry} {before after : List Entry} (h : [x] = before ++ y :: after) : after = [] := by
  have hlength := congrArg List.length h
  simp only [List.length_append, List.length_cons, List.length_nil] at hlength
  exact List.eq_nil_of_length_eq_zero (by omega)

theorem one (s : Statement) (r : Except Error WriteOutcome) : Accounts resumes 1 [.executed s r] r where
  applied := by
    rintro w rfl
    exact ⟨[], s, rfl, nofun⟩
  unapplied := by
    rintro e rfl x hx
    rw [List.mem_singleton.mp hx]
    rfl
  stops _ _ _ h _ := .inl (after_single h)
  few := Nat.le_refl _

/-- A statement that was not applied goes in front; if it failed, that must be one to go on after. -/
theorem cons (h : Strict most xs r) (hx : x.applied? = .none) (hresumes : x.failed = true → resumes x) :
    Accounts resumes (most + 1) (x :: xs) r where
  applied := by
    intro w hw
    obtain ⟨before, s, rfl, hbefore⟩ := h.applied w hw
    refine ⟨x :: before, s, rfl, fun y hy => ?_⟩
    rcases List.mem_cons.mp hy with rfl | hy
    · exact hx
    · exact hbefore y hy
  unapplied := by
    intro e he y hy
    rcases List.mem_cons.mp hy with rfl | hy
    · exact hx
    · exact h.unapplied e he y hy
  stops := by
    intro before y after hsplit hfailed
    cases before with
    | nil =>
      obtain ⟨rfl, -⟩ := List.cons.inj hsplit
      exact .inr ⟨rfl, hresumes hfailed⟩
    | cons z before =>
      obtain ⟨-, htail⟩ := List.cons.inj hsplit
      rcases h.stops before y after htail hfailed with hlast | ⟨-, hnever⟩
      · exact .inl hlast
      · exact hnever.elim
  few := Nat.succ_le_succ h.few

/-- A failure of the one statement before may be what the call gives. -/
theorem failing (hx : x.applied? = .none) (e : Error) : Accounts resumes 1 [x] (.error e) where
  applied := nofun
  unapplied _ _ _ hy := List.mem_singleton.mp hy ▸ hx
  stops _ _ _ h _ := .inl (after_single h)
  few := Nat.le_refl _

theorem imp {resumes' : Entry → Prop} (h : Accounts resumes most xs r) (himp : ∀ x, resumes x → resumes' x) :
    Accounts resumes' most xs r where
  applied := h.applied
  unapplied := h.unapplied
  stops before x after hxs hfailed := by
    rcases h.stops before x after hxs hfailed with hlast | ⟨hfirst, hx⟩
    · exact .inl hlast
    · exact .inr ⟨hfirst, himp x hx⟩
  few := h.few

theorem weaken {more : Nat} (h : Strict most xs r) (hmore : most ≤ more) : Accounts resumes more xs r where
  applied := h.applied
  unapplied := h.unapplied
  stops before x after hxs hfailed := (h.stops before x after hxs hfailed).imp_right fun ⟨_, hnever⟩ => hnever.elim
  few := Nat.le_trans h.few hmore

/-- An error may be told otherwise. -/
theorem retold (h : Accounts resumes most xs r) (tell : Error → Error) :
    Accounts resumes most xs (r.mapError tell) where
  applied := by
    intro w hw
    cases r with
    | ok w' => exact h.applied w hw
    | error e => cases hw
  unapplied := by
    intro e he
    cases r with
    | ok w' => cases he
    | error e' => exact h.unapplied e' rfl
  stops := h.stops
  few := h.few

end Accounts

/-! ## Calls that change rows -/

/-- The operations that change rows. -/
inductive Mutation where
  | create (id : Option Value) (r : Record)
  | update (id : Value) (r : Record)
  | remove (i : Identifier)
  | write (id : Option Value) (r : Record)
  | writeChecked (id : Option Value) (r : Record)

/-- The exchange is the upsert of the record, refused because nothing makes the key unique. -/
def Store.RefusedUpsert (st : Store) (r : Record) (x : Entry) : Prop :=
  ∃ s e, x = .executed s (.error e) ∧ st.upsertStatement r = .ok s ∧ lacksUniqueId e = true

namespace Mutation

/-- How many statements the operation sends at most. -/
def most : Mutation → Nat
  | create _ _ | update _ _ | remove _ => 1
  | writeChecked _ _ => 2
  | write _ _ => 3

/-- The operation is a write, and the exchange is its upsert, refused for lack of a unique key. -/
def Resumes (st : Store) : Mutation → Entry → Prop
  | write id r, x => ∃ key, Store.truthy? id = some key ∧ Store.RefusedUpsert st (r.withId key) x
  | _, _ => False

end Mutation

namespace Store

def mutate (st : Store) : Mutation → Call WriteOutcome
  | .create id r => st.create id r
  | .update id r => st.update id r
  | .remove i => st.remove i
  | .write id r => st.write id r
  | .writeChecked id r => st.writeChecked id r

variable {α σ : Type} {st : Store} {s : Statement} {resumes : Entry → Prop} {most : Nat}

theorem yields_inSpan {c : Call α} {q : List Entry → Except Error α → Prop} (h : c.Yields q) (s : Span) :
    (inSpan s c).Yields q := by
  refine Program.yields_bind h fun xs r hr => ?_
  show q (xs ++ []) r
  rwa [List.append_nil]

theorem yields_tellAll {q : List Entry → Except Error α → Prop} (ns : List Notice) {r : Except Error α} (h : q [] r) :
    (tellAll ns r).Yields q := by
  induction ns with
  | nil => exact h
  | cons n ns ih => exact ih

theorem yields_observe {c : Call α} {q : List Entry → Except Error α → Prop} (operation table : String)
    (h : c.Yields fun xs r => q xs (r.mapError (attributed operation))) : (observe operation table c).Yields q := by
  refine Program.yields_bind h fun xs r hr => ?_
  rw [← List.append_nil xs] at hr
  cases r with
  | ok a => exact yields_tellAll _ hr
  | error e => exact yields_tellAll _ hr

/-- A call keeps its account inside `observe` and a span. -/
theorem accounts_observed {c : Call WriteOutcome} (h : c.Yields (Accounts resumes most)) (operation table : String)
    (s : Span) : (inSpan s (observe operation table c)).Yields (Accounts resumes most) := by
  refine yields_inSpan (yields_observe operation table ?_) s
  exact Program.yields_mono h fun xs r hr => hr.retold _

theorem accounts_send (message : String) (s : Except Error Statement) : (send message s).Yields (Accounts.Strict 1) := by
  cases s with
  | error e => exact (Accounts.none e : Accounts.Strict 1 [] (.error e))
  | ok t => exact fun r => Accounts.one t r

theorem accounts_create (id : Option Value) (r : Record) : (st.create id r).Yields (Accounts.Strict 1) :=
  accounts_observed (accounts_send _ _) _ _ _

theorem accounts_update (id : Value) (r : Record) : (st.update id r).Yields (Accounts.Strict 1) :=
  accounts_observed (accounts_send _ _) _ _ _

theorem accounts_remove (i : Identifier) : (st.remove i).Yields (Accounts.Strict 1) :=
  accounts_observed (accounts_send _ _) _ _ _

/-- A question has one exchange, which applies nothing, and it has not failed if there is an answer. -/
def Asked (xs : List Entry) (r : Except Error α) : Prop :=
  ∃ x, xs = [x] ∧ x.applied? = none ∧ ∀ a, r = .ok a → x.failed = false

/-- Where every row is handed over, no row was an error. -/
theorem drained_ok {items : List RowItem} {rows : List Record} (h : (Reader.drained items).1 = .ok rows) :
    (Entry.queried s (.ok items)).failed = false := by
  induction items generalizing rows with
  | nil => rfl
  | cons item items ih =>
    cases item with
    | error e => cases h
    | ok row =>
      cases hrest : (Reader.drained items).1 with
      | ok rest => exact ih hrest
      | error e =>
        simp only [Reader.drained, hrest] at h
        cases h

theorem asked_fetchAll (s : Statement) : (Call.fetchAll s).Yields Asked := by
  refine Call.yields_fetchAll fun r => ⟨.queried s r, rfl, rfl, fun rows hrows => ?_⟩
  cases r with
  | error e => cases hrows
  | ok items => exact drained_ok hrows

theorem asked_exists (i : Identifier) : (st.exists? i).Yields Asked := by
  have hselect : (st.select i.toFilter existenceOptions).Yields Asked := asked_fetchAll _
  refine yields_inSpan (yields_observe _ _ (Call.yields_bind hselect ?_ ?_)) _
  · rintro xs e ⟨x, hxs, hx, -⟩
    exact ⟨x, hxs, hx, nofun⟩
  · rintro xs rows ⟨x, rfl, hx, hgood⟩
    exact ⟨x, rfl, hx, fun _ _ => hgood rows rfl⟩

theorem accounts_writeChecked (id : Option Value) (r : Record) :
    (st.writeChecked id r).Yields (Accounts.Strict 2) := by
  unfold writeChecked
  cases truthy? id with
  | none => exact Program.yields_mono (accounts_create none r) fun _ _ h => h.weaken (by decide)
  | some key =>
    refine Call.yields_bind (asked_exists (.key key)) ?_ ?_
    · rintro xs e ⟨x, rfl, hx, -⟩
      exact (Accounts.failing hx e).weaken (by decide)
    · rintro xs found ⟨x, rfl, hx, hgood⟩
      have hgoes : ∀ {c : Call WriteOutcome}, c.Yields (Accounts.Strict 1) →
          c.Yields fun ys r => Accounts.Strict 2 ([x] ++ ys) r := fun hc =>
        Program.yields_mono hc fun _ _ h => h.cons hx fun hfailed => by rw [hgood found rfl] at hfailed; cases hfailed
      cases found with
      | true => exact hgoes (accounts_update key r)
      | false => exact hgoes (accounts_create (some key) r)

/-- An upsert goes on by looking first only where it was refused for lack of a unique key. -/
theorem accounts_upsert (id : Value) (r : Record) :
    (st.upsert id r).Yields (Accounts (st.RefusedUpsert r) 3) := by
  unfold upsert
  cases hs : st.upsertStatement r with
  | error e => exact (Accounts.none e : Accounts _ 3 [] (.error e))
  | ok s =>
    intro reply
    cases reply with
    | ok w => exact (Accounts.one s (.ok w)).weaken (by decide)
    | error e =>
      show Program.Yields (if lacksUniqueId e then _ else _) _
      by_cases hlacks : lacksUniqueId e = true
      · rw [if_pos hlacks]
        refine Program.yields_mono (accounts_writeChecked (some id) r) fun ys reply h => ?_
        exact h.cons rfl fun _ => ⟨s, e, rfl, hs, hlacks⟩
      · rw [if_neg hlacks]
        exact (Accounts.one s (.error e)).weaken (by decide)

theorem accounts_write (id : Option Value) (r : Record) :
    (st.write id r).Yields (Accounts ((Mutation.write id r).Resumes st) 3) := by
  unfold write
  cases hid : truthy? id with
  | none =>
    have hcreate : (st.create none r).Yields (Accounts.Strict 1) := accounts_create none r
    exact yields_inSpan (Program.yields_mono hcreate fun _ _ h => h.weaken (by decide)) _
  | some key =>
    refine accounts_observed ?_ _ _ _
    by_cases hr : renames key r = true
    · rw [if_pos hr]
      exact Program.yields_mono (accounts_writeChecked (some key) r) fun _ _ h => h.weaken (by decide)
    · rw [if_neg hr]
      refine Program.yields_mono (accounts_upsert key (r.withId key)) fun xs reply h => ?_
      exact h.imp fun x hx => ⟨key, hid, hx⟩

/-- Whatever the replies, a call that changes rows ends, and its result says what was applied:
one change, the last statement, where there is an outcome, and nothing where there is an error. -/
theorem mutation_accounts (h : Handle σ) (start : σ) (st : Store) (c : Mutation) :
    ∃ r, (Program.run h (st.mutate c).run start).result = some r ∧
      Accounts (c.Resumes st) c.most (Program.run h (st.mutate c).run start).exchanges r := by
  refine Program.yields_run h ?_ start
  cases c with
  | create id r => exact accounts_create id r
  | update id r => exact accounts_update id r
  | remove i => exact accounts_remove i
  | write id r => exact accounts_write id r
  | writeChecked id r => exact accounts_writeChecked id r

end Store
end TableKeeper
