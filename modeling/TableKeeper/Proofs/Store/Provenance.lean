import TableKeeper.Proofs.Store.Measured
import TableKeeper.Proofs.Store.Refusals

/-!
  TableKeeper.Proofs.Store.Provenance — where the error of a call comes from, and how it is told.

  1. An error of the handle passes through the operations that were under way. The outermost
     gives it its name; the others and the failed step stand in front of the cause, but for a
     name right below the same name (`Error.through`). Each operation adds its own
     (`attributed_through`).
  2. Whatever the handle replies, the error of the last exchange is told through the operations
     that made its request, and any other error is the call's own (`errors_attributed`).
  3. A write goes on after its upsert exactly when the handle's own error says that nothing makes
     the key unique.
-/

namespace TableKeeper

open Sql

variable {α σ : Type}

/-! ## Errors and the operations that they pass through -/

namespace Error

/-- The names below an operation, but for those that repeat the name right above them. -/
def namesBelow (above : String) : List String → List String
  | [] => []
  | name :: names => if name = above then namesBelow name names else name :: namesBelow name names

/-- The error as it is told outside of these operations, the outermost first. -/
def through : List String → Error → Error
  | outer :: inner, operationFailed step cause =>
    operationFailed outer ((namesBelow outer (inner ++ [step])).foldr (fun name rest => name ++ ": " ++ rest) cause)
  | _, e => e

end Error

/-- An operation puts itself around an error that has passed through others. -/
theorem Store.attributed_through (operation : String) (scopes : List String) (e : Error) :
    attributed operation (e.through scopes) = e.through (operation :: scopes) := by
  cases e with
  | operationFailed step cause =>
    cases scopes with
    | nil =>
      by_cases hstep : step = operation
      · simp [Error.through, attributed, Error.namesBelow, hstep]
      · simp [Error.through, attributed, Error.namesBelow, hstep]
    | cons outer inner =>
      by_cases houter : outer = operation
      · simp [Error.through, attributed, Error.namesBelow, houter]
      · simp [Error.through, attributed, Error.namesBelow, houter]
  | _ => cases scopes <;> rfl

/-- A step with the name of the operation around it is not told twice. -/
example : (Error.operationFailed "update" "locked").through ["write", "update"] =
    .operationFailed "write" "update: locked" := by decide

/-! ## What an operation gets from a reply, and where it asked -/

/-- The error that a reply comes to, where `reads` says which error rows come to. -/
def Entry.fault? (reads : List RowItem → Option Error) : Entry → Option Error
  | executed _ (.error e) | queried _ (.error e) => some e
  | queried _ (.ok items) => reads items
  | _ => none

/-- The first error among some rows. -/
def firstFault? (items : List RowItem) : Option Error := items.findSome? fun
  | .error e => some e
  | .ok _ => none

/-- The error that a reader of some rows ends with. -/
def readFault? (reader : Reader α) (items : List RowItem) : Option Error :=
  match (reader.run items).result with
  | some (.error e) => some e
  | _ => none

/-- The operations that a write makes its requests through, the write itself apart. -/
def Sql.Request.within : Request → List String
  | .rows _ _ => ["exists"]
  | .update _ _ => ["update"]
  | .insert _ => ["create"]
  | _ => []

namespace Operation

/-- The error that the operation gets from rows: among all of them, in the first one, or the one
that the caller's reader ends with. -/
def reads : Operation → List RowItem → Option Error
  | read (.key _), items | count _ _, items => firstFault? (items.take 1)
  | iterate _ _ reader, items => readFault? reader items
  | _, items => firstFault? items

/-- The operations under way when a request is made, the outermost first. A write without a key
is a creation, and a checked write is only what it consists of. -/
def scopes : Operation → Request → List String
  | write id _, q => if (Store.truthy? id).isSome then "write" :: q.within else q.within
  | writeChecked _ _, q => q.within
  | op, _ => [op.name]

/-- An error of the operation itself: it has nothing to write, or has not got a count. -/
def Declines : Operation → Error → Prop
  | count _ _, e => ∃ v : Value, e = .operationFailed "count" ("unexpected count value " ++ v.display)
  | _, e => ∃ text, e = .invalidInput text

end Operation

namespace Store

variable {st : Store} {qs : List Request} {scopes : Request → List String} {reads : List RowItem → Option Error}
  {own : Error → Prop} {xs : List Entry} {r : Except Error α}

/-- The exchange has the statement of this request. -/
def Carries (st : Store) (q : Request) (x : Entry) : Prop := x.statement?.map .ok = some (st.requested q)

/-- The error of the last exchange is told through the operations of its request, and there is
no other error but the call's own. Only after an upsert that found no unique key did it go on. -/
structure Blames (st : Store) (qs : List Request) (scopes : Request → List String)
    (reads : List RowItem → Option Error) (own : Error → Prop) (xs : List Entry) (r : Option (Except Error α)) :
      Prop where
  told : ∀ x e, xs.getLast? = some x → x.fault? reads = some e →
    ∃ q ∈ qs, st.Carries q x ∧ r = some (.error (e.through (scopes q)))
  passed : ∀ x ∈ xs.dropLast, ∀ e, x.fault? reads = some e →
    lacksUniqueId e = true ∧ ∃ written, .upsert written ∈ qs ∧ st.Carries (.upsert written) x
  known : ∀ e, r = some (.error e) → (∃ x, xs.getLast? = some x ∧ (x.fault? reads).isSome = true) ∨ own e

namespace Blames

theorem mono {o : Option (Except Error α)} {qs' : List Request} {scopes' : Request → List String}
    (h : Blames st qs scopes reads own xs o) (hqs : ∀ q ∈ qs, q ∈ qs' ∧ scopes' q = scopes q) :
      Blames st qs' scopes' reads own xs o where
  told x e hlast he := by
    obtain ⟨q, hq, hcarries, ho⟩ := h.told x e hlast he
    obtain ⟨hmem, hsame⟩ := hqs q hq
    exact ⟨q, hmem, hcarries, hsame ▸ ho⟩
  passed x hx e he := by
    obtain ⟨hlacks, written, hwritten, hcarries⟩ := h.passed x hx e he
    exact ⟨hlacks, written, (hqs _ hwritten).1, hcarries⟩
  known := h.known

/-- An observed operation puts its name around. -/
theorem observed (h : Blames st qs scopes reads own xs (some r)) (operation : String)
    (hown : ∀ e, own e → own (attributed operation e)) :
    Blames st qs (fun q => operation :: scopes q) reads own xs (some (r.mapError (attributed operation))) where
  told x e hlast he := by
    obtain ⟨q, hq, hcarries, hr⟩ := h.told x e hlast he
    cases hr
    exact ⟨q, hq, hcarries, congrArg (fun e => some (Except.error e)) (attributed_through operation (scopes q) e)⟩
  passed := h.passed
  known e he := by
    cases r with
    | ok a => cases he
    | error e' =>
      cases he
      exact (h.known e' rfl).imp_right (hown e')

/-- An exchange in front changes nothing where it came to no error, or is an upsert that others
follow. -/
theorem cons {o : Option (Except Error α)} (h : Blames st qs scopes reads own xs o) {x : Entry}
    (hx : ∀ e, x.fault? reads = some e →
      xs ≠ [] ∧ lacksUniqueId e = true ∧ ∃ written, .upsert written ∈ qs ∧ st.Carries (.upsert written) x) :
        Blames st qs scopes reads own (x :: xs) o := by
  cases xs with
  | nil =>
    constructor
    · intro y e hlast he
      rw [List.getLast?_singleton, Option.some.injEq] at hlast
      exact absurd rfl (hx e (hlast ▸ he)).1
    · exact fun y hy => absurd hy List.not_mem_nil
    · intro e he
      rcases h.known e he with ⟨y, ⟨⟩, -⟩ | howned
      exact .inr howned
  | cons y ys =>
    have hlast : (x :: y :: ys).getLast? = (y :: ys).getLast? := List.getLast?_cons_cons
    refine ⟨hlast ▸ h.told, fun z hz e he => ?_, hlast ▸ h.known⟩
    rw [List.dropLast_cons_of_ne_nil (List.cons_ne_nil _ _)] at hz
    rcases List.mem_cons.mp hz with rfl | hz
    · exact (hx e he).2
    · exact h.passed z hz e he

/-- The one exchange is told as its error. -/
theorem single {o : Option (Except Error α)} {q : Request} {x : Entry} (hq : st.Carries q x)
    (htell : ∀ e, x.fault? reads = some e → o = some (.error (e.through (scopes q))))
    (hknown : x.fault? reads = none → ∀ e, o = some (.error e) → own e) : Blames st [q] scopes reads own [x] o where
  told y e hlast he := by
    rw [List.getLast?_singleton, Option.some.injEq] at hlast
    subst hlast
    exact ⟨q, List.mem_singleton_self q, hq, htell e he⟩
  passed x hx := absurd hx List.not_mem_nil
  known e he := by
    cases hfault : x.fault? reads with
    | some e' => exact .inl ⟨x, List.getLast?_singleton, by rw [hfault]; rfl⟩
    | none => exact .inr (hknown hfault e he)

/-- An error is blamed alike whatever the call would have given without it. -/
theorem error {β : Type} {e : Error} (h : Blames st qs scopes reads own xs (some (.error e : Except Error α))) :
    Blames st qs scopes reads own xs (some (.error e : Except Error β)) where
  told x e' hlast he := by
    obtain ⟨q, hq, hcarries, hr⟩ := h.told x e' hlast he
    cases hr
    exact ⟨q, hq, hcarries, rfl⟩
  passed := h.passed
  known e' he := by
    cases he
    exact h.known e rfl

/-- Nothing was sent, so the error is the call's own. -/
theorem silent (hown : ∀ e, r = .error e → own e) : Blames st qs scopes reads own [] (some r) where
  told x e hlast := by cases hlast
  passed x hx := absurd hx List.not_mem_nil
  known e he := .inr (hown e (Option.some.inj he))

end Blames

/-! ## Calls -/

/-- The input is refused. -/
abbrev Invalid (e : Error) : Prop := ∃ text, e = .invalidInput text

theorem invalid_attributed (operation : String) (e : Error) (h : Invalid e) : Invalid (attributed operation e) := by
  obtain ⟨text, rfl⟩ := h
  exact ⟨text, rfl⟩

/-- A single operation that changes rows tells the error of its statement as its own. -/
theorem blames_sent {q : Request} {operation : String} {r : Except Error WriteOutcome}
    (hinvalid : ∀ e, st.requested q = .error e → Invalid e) (h : Sent (st.requested q) (attributed operation) xs r) :
    Blames st [q] (fun _ => [operation]) reads Invalid xs (some r) := by
  unfold Sent at h
  cases hs : st.requested q with
  | error e =>
    rw [hs] at h
    obtain ⟨rfl, rfl⟩ := h
    refine Blames.silent fun e' he' => ?_
    cases he'
    exact invalid_attributed _ _ (hinvalid e hs)
  | ok s =>
    rw [hs] at h
    obtain ⟨reply, rfl, rfl⟩ := h
    refine Blames.single (by rw [Carries, hs]; rfl) ?_ ?_
    · intro e he
      cases reply with
      | ok w => cases he
      | error e' =>
        cases he
        exact congrArg (fun e => some (Except.error e)) (attributed_through operation [] e)
    · intro hnone e he
      cases reply with
      | ok w => cases he
      | error e' => cases hnone

theorem invalid_insert {r : Record} {e : Error} (h : st.insertStatement r = .error e) : Invalid e := by
  rcases shaped_cases r.names ⟨"insert", st.table⟩ (.insert st.table r.names) r.values with ⟨-, text, hs⟩ | ⟨-, s, hs⟩
  · exact ⟨text, Except.error.inj (h.symm.trans hs)⟩
  · cases h.symm.trans hs

theorem invalid_update {key : Value} {r : Record} {e : Error} (h : st.updateStatement key r = .error e) : Invalid e := by
  rcases shaped_cases r.names ⟨"update", st.table⟩ (.update st.table r.names) (r.values ++ [key]) with
    ⟨-, text, hs⟩ | ⟨-, s, hs⟩
  · exact ⟨text, Except.error.inj (h.symm.trans hs)⟩
  · cases h.symm.trans hs

theorem blames_create (id : Option Value) (r : Record) :
    (st.create id r).Yields fun xs res =>
      Blames st [.insert (keyed id r)] (fun _ => ["create"]) firstFault? Invalid xs (some res) :=
  Program.yields_mono (sent_create id r) fun _ _ h => blames_sent (fun _ => invalid_insert) h

theorem blames_update (key : Value) (r : Record) :
    (st.update key r).Yields fun xs res =>
      Blames st [.update key r] (fun _ => ["update"]) firstFault? Invalid xs (some res) :=
  Program.yields_mono (sent_update key r) fun _ _ h => blames_sent (fun _ => invalid_update) h

theorem blames_remove (i : Identifier) :
    (st.remove i).Yields fun xs res =>
      Blames st [.delete i.toFilter] (fun _ => ["remove"]) firstFault? Invalid xs (some res) :=
  Program.yields_mono (sent_remove i) fun _ _ h => blames_sent nofun h

/-! ### Rows -/

theorem firstFault?_all (items : List RowItem) : firstFault? items = readFault? .all items := by
  induction items with
  | nil => rfl
  | cons item items ih =>
    cases item with
    | error e => rfl
    | ok row =>
      have hcons : firstFault? (.ok row :: items) = firstFault? items := rfl
      rw [hcons, ih]
      cases hrest : (Reader.drained items).1 with
      | ok rows => simp only [readFault?, Reader.all, Reader.run, Reader.drained, hrest]; rfl
      | error e => simp only [readFault?, Reader.all, Reader.run, Reader.drained, hrest]; rfl

theorem firstFault?_first (items : List RowItem) : firstFault? (items.take 1) = readFault? .first items := by
  rcases items with - | ⟨e | row, items⟩ <;> rfl

/-- Rows that were all gathered had no error among them. -/
theorem fault?_gathered {s : Statement} {reply : Except Error (List RowItem)} {rows : List Record}
    (h : Call.gathered reply = .ok rows) : (Entry.queried s reply).fault? firstFault? = none := by
  cases reply with
  | error e => cases h
  | ok items =>
    have hdrained : (Reader.drained items).1 = .ok rows := h
    refine (firstFault?_all items).trans ?_
    simp only [readFault?, Reader.all, Reader.run, hdrained]

/-- An operation that reads the rows of one reply tells the error that it ends with as its own. -/
theorem blames_reading {β : Type} {q : Request} {s : Statement} {operation : String} {reader : Reader β}
    {g : β → Except Error α} (hq : st.requested q = .ok s) (hreads : ∀ items, reads items = readFault? reader items)
    (hown : ∀ b e, g b = .error e → own (attributed operation e)) (reply : Except Error (List RowItem)) :
    Blames st [q] (fun _ => [operation]) reads own [.queried s reply]
      ((Call.consumed reader reply).map fun r => (r.bind g).mapError (attributed operation)) := by
  refine Blames.single (by rw [Carries, hq]; rfl) ?_ ?_
  · intro e he
    cases reply with
    | error e' =>
      cases he
      exact congrArg (fun e => some (Except.error e)) (attributed_through operation [] e)
    | ok items =>
      have hread : readFault? reader items = some e := (hreads items).symm.trans he
      have hconsumed : Call.consumed reader (.ok items) = some (.error e) := by
        unfold readFault? at hread
        split at hread
        · cases hread
          assumption
        · cases hread
      rw [hconsumed]
      exact congrArg (fun e => some (Except.error e)) (attributed_through operation [] e)
  · intro hnone e he
    cases reply with
    | error e' => cases hnone
    | ok items =>
      have hread : readFault? reader items = none := (hreads items).symm.trans hnone
      cases hconsumed : Call.consumed reader (.ok items) with
      | none => rw [hconsumed] at he; cases he
      | some r =>
        rw [hconsumed] at he
        cases r with
        | error e' =>
          have hresult : (reader.run items).result = some (.error e') := hconsumed
          rw [readFault?, hresult] at hread
          cases hread
        | ok b =>
          cases hb : g b with
          | ok a => simp [Except.bind, hb, Except.mapError] at he
          | error e' =>
            have hsame : attributed operation e' = e := by
              simpa [Except.bind, hb, Except.mapError] using he
            exact hsame ▸ hown b e' hb

theorem blames_measured {β : Type} {q : Request} {s : Statement} {operation : String} {reader : Reader β}
    {g : β → Except Error α} {c : Call α} (hc : c.Yields (ReadBy s reader g)) (hq : st.requested q = .ok s)
    (hreads : ∀ items, reads items = readFault? reader items)
    (hown : ∀ b e, g b = .error e → own (attributed operation e)) (sp : Span) :
      (inSpan sp (observe operation st.table c)).Yields fun xs res =>
        Blames st [q] (fun _ => [operation]) reads own xs (some res) := by
  refine yields_inSpan (yields_observe _ _ (Program.yields_mono hc ?_)) sp
  rintro xs r ⟨reply, got, rfl, hgot, rfl⟩
  have hblames := blames_reading hq hreads hown reply
  rw [hgot] at hblames
  exact hblames

theorem blames_exists (i : Identifier) :
    (st.exists? i).Yields fun xs res =>
      Blames st [.rows i.toFilter existenceOptions] (fun _ => ["exists"]) firstFault? Invalid xs (some res) :=
  blames_measured (readBy_bind (readBy_select i.toFilter existenceOptions) fun rows => .ok (!rows.isEmpty)) rfl
    firstFault?_all nofun (st.spanOf "exists" [])

theorem blames_list (f : Filter) (o : QueryOptions) :
    (st.list f o).Yields fun xs res => Blames st [.rows f o] (fun _ => ["list"]) firstFault? Invalid xs (some res) :=
  blames_measured (readBy_select f o) rfl firstFault?_all nofun (st.spanOf "list" (predicatesField f))

theorem blames_read (i : Identifier) :
    (st.read i).Yields fun xs res =>
      Blames st (Operation.read i).requests (fun _ => ["read"]) (Operation.read i).reads Invalid xs (some res) := by
  cases i with
  | key v =>
    have hfetch : (Call.fetchRow (statement (.selectById st.table) [v])).Yields (ReadBy _ .first .ok) :=
      readBy_fetchRow _
    exact blames_measured hfetch rfl firstFault?_first nofun (st.spanOf "read" [])
  | keys vs =>
    exact blames_measured (readBy_bind (readBy_select _ _) fun rows => .ok rows.head?) rfl firstFault?_all nofun
      (st.spanOf "read" [])
  | filter f =>
    exact blames_measured (readBy_bind (readBy_select _ _) fun rows => .ok rows.head?) rfl firstFault?_all nofun
      (st.spanOf "read" [])

/-- A count has an error of its own, for a value that is no count. -/
theorem blames_count (f : Filter) (o : QueryOptions) :
    (st.count f o).Yields fun xs res => Blames st [.count f] (fun _ => ["count"]) (fun items => firstFault? (items.take 1))
      (Operation.count f o).Declines xs (some res) := by
  have hscalar : (Call.fetchScalar (st.countStatement f)).Yields (ReadBy _ .first fun row => .ok (Call.firstValue row)) :=
    readBy_bind (readBy_fetchRow _) fun row => .ok (Call.firstValue row)
  have hunexpected : ∀ v e, countOf v = .error e →
      e = .operationFailed "count" ("unexpected count value " ++ v.display) := by
    intro v e he
    unfold countOf countOf.unexpected at he
    split at he
    · split at he
      · cases he
      · cases he
        rfl
    · cases he
      rfl
  refine blames_measured (readBy_bind hscalar countOf) rfl firstFault?_first ?_ (st.spanOf "count" (predicatesField f))
  intro row e he
  exact ⟨Call.firstValue row, by rw [hunexpected _ e he]; rfl⟩

/-- The error of an iteration is the one that the caller's reader ends with. -/
theorem blames_iterate (h : Handle σ) (start : σ) (f : Filter) (o : QueryOptions) (reader : Reader α) :
    Blames st [.rows f o] (fun _ => ["iterate"]) (readFault? reader) Invalid
      (Program.run h (st.iterate f o reader).run start).exchanges (Program.run h (st.iterate f o reader).run start).result := by
  have hblames : Blames st [.rows f o] (fun _ => ["iterate"]) (readFault? reader) Invalid _ _ :=
    blames_reading (g := .ok) rfl (fun _ => rfl) nofun (h.query start (st.selectStatement f o)).result
  have hbind : (fun r : Except Error α => (r.bind .ok).mapError (attributed "iterate")) =
      (·.mapError (attributed "iterate")) := by
    funext r
    cases r <;> rfl
  obtain ⟨hexchanges, hresult⟩ := Call.run_read h (st.selectStatement f o) reader start
  unfold iterate
  rw [exchanges_measured, result_measured]
  rw [hbind, ← hresult, ← hexchanges] at hblames
  exact hblames

/-! ### Writes -/

/-- The call begins with a look for the row. -/
def Looks (st : Store) (key : Value) (xs : List Entry) : Prop :=
  ∃ reply more, xs = .queried (st.look key) reply :: more

theorem blames_checked {key : Value} (hkey : truthy? (some key) = some key) (r : Record) :
    (st.writeChecked (some key) r).Yields fun xs res => st.Looks key xs ∧
      Blames st (Operation.checkedRequests (some key) r) Sql.Request.within firstFault? Invalid xs (some res) := by
  have hrequests : Operation.checkedRequests (some key) r =
      [.rows (.byId key) existenceOptions, .update key r, .insert (keyed (some key) r)] := by
    rw [Operation.checkedRequests, hkey]
  have hlook : (st.exists? (.key key)).Yields fun xs res => Looked (st.look key) xs res ∧
      Blames st [.rows (.byId key) existenceOptions] (fun _ => ["exists"]) firstFault? Invalid xs (some res) :=
    Program.yields_and (looked_key key) (blames_exists (.key key))
  rw [hrequests]
  unfold writeChecked
  rw [hkey]
  refine Call.yields_bind hlook ?_ ?_
  · rintro xs e ⟨⟨reply, rfl, -⟩, h⟩
    exact ⟨⟨reply, [], rfl⟩, h.error.mono (by simp [Sql.Request.within])⟩
  · rintro xs found ⟨hlook, -⟩
    obtain ⟨reply, rfl, ⟨e, -, ⟨⟩⟩ | ⟨rows, hrows, -⟩⟩ := looked_cases hlook
    have hquiet : ∀ s, (Entry.queried s reply).fault? firstFault? = none := fun s => fault?_gathered hrows
    cases found with
    | true =>
      refine Program.yields_mono (blames_update key r) fun ys res h => ⟨⟨reply, ys, rfl⟩, ?_⟩
      exact (h.mono (by simp [Sql.Request.within])).cons (by simp [hquiet])
    | false =>
      refine Program.yields_mono (blames_create (some key) r) fun ys res h => ⟨⟨reply, ys, rfl⟩, ?_⟩
      exact (h.mono (by simp [Sql.Request.within])).cons (by simp [hquiet])

/-- The upsert goes first. A write goes on, with a look for the row, exactly when the handle's own
error for the upsert says that nothing makes the key unique. -/
def FallsBack (st : Store) (key : Value) (r : Record) (xs : List Entry) : Prop :=
  ∃ s reply rest, xs = .executed s reply :: rest ∧ st.upsertStatement r = .ok s ∧
    match reply with
    | .ok _ => rest = []
    | .error e => if lacksUniqueId e then st.Looks key rest else rest = []

theorem blames_upsert {key : Value} (hkey : truthy? (some key) = some key) {r : Record} (hr : r.isEmpty = false) :
    (st.upsert key r).Yields fun xs res => st.FallsBack key r xs ∧
      Blames st (.upsert r :: Operation.checkedRequests (some key) r) Sql.Request.within firstFault? Invalid xs
        (some res) := by
  have hnames : r.names ≠ [] := fun hnames => by rw [names_eq_nil.mp hnames] at hr; cases hr
  obtain ⟨hnil, -⟩ | ⟨-, s, hs⟩ := shaped_cases r.names ⟨"insert", st.table⟩ (.upsert st.table r.names) r.values
  · exact absurd hnil hnames
  have hupsert : st.upsertStatement r = .ok s := hs
  have hrequested : st.requested (.upsert r) = .ok s := hs
  have hcarries (reply) : st.Carries (.upsert r) (.executed s reply) := by rw [Carries, hrequested]; rfl
  have hself : ∀ q ∈ [Sql.Request.upsert r], q ∈ Sql.Request.upsert r :: Operation.checkedRequests (some key) r ∧
      q.within = q.within := fun q hq => ⟨List.mem_singleton.mp hq ▸ List.mem_cons_self, rfl⟩
  unfold upsert
  rw [hupsert]
  intro reply
  cases reply with
  | ok w =>
    refine ⟨⟨s, .ok w, [], rfl, hupsert, rfl⟩, ?_⟩
    exact (Blames.single (hcarries _) (fun _ he => by cases he) fun _ _ he => by cases he).mono hself
  | error e =>
    show Program.Yields (if lacksUniqueId e then _ else _) _
    by_cases hlacks : lacksUniqueId e = true
    · rw [if_pos hlacks]
      refine Program.yields_mono (blames_checked hkey r) fun ys res h => ⟨⟨s, .error e, ys, rfl, hupsert, ?_⟩, ?_⟩
      · show if _ then _ else _
        rw [if_pos hlacks]
        exact h.1
      · refine (h.2.mono fun q hq => ⟨List.mem_cons_of_mem _ hq, rfl⟩).cons fun e' he' => ?_
        cases he'
        obtain ⟨reply, more, rfl⟩ := h.1
        exact ⟨List.cons_ne_nil _ _, hlacks, r, List.mem_cons_self, hcarries _⟩
    · rw [if_neg hlacks]
      refine ⟨⟨s, .error e, [], rfl, hupsert, ?_⟩, ?_⟩
      · show if _ then _ else _
        rw [if_neg hlacks]
      · refine (Blames.single (hcarries _) ?_ fun hnone => by cases hnone).mono hself
        rintro e' ⟨⟩
        rfl

/-- A write by key begins with its upsert, unless the record renames the key. -/
def UpsertsFirst (st : Store) : Operation → List Entry → Prop
  | .write id r, xs => ∀ key, truthy? id = some key → renames key r = false → st.FallsBack key (r.withId key) xs
  | _, _ => True

theorem blames_write (id : Option Value) (r : Record) :
    (st.write id r).Yields fun xs res => st.UpsertsFirst (.write id r) xs ∧
      Blames st (Operation.write id r).requests (Operation.write id r).scopes firstFault? Invalid xs (some res) := by
  unfold write
  cases hid : truthy? id with
  | none =>
    refine yields_inSpan (Program.yields_mono (blames_create none r) fun xs res h => ⟨fun key hkey => ?_, ?_⟩) _
    · rw [hid] at hkey
      cases hkey
    · rw [Operation.requests, hid]
      refine h.mono fun q hq => ?_
      cases List.mem_singleton.mp hq
      exact ⟨List.mem_singleton_self _, by rw [Operation.scopes, hid]; rfl⟩
  | some key =>
    have hscopes : (Operation.write id r).scopes = fun q => "write" :: q.within := by
      funext q
      rw [Operation.scopes, hid]
      rfl
    rw [hscopes]
    simp only [Operation.requests, UpsertsFirst, hid, Option.some.injEq, forall_eq']
    refine yields_inSpan (yields_observe _ _ ?_) _
    by_cases hrenames : renames key r = true
    · rw [if_pos hrenames, if_pos hrenames]
      refine Program.yields_mono (blames_checked (truthy_given hid) r) fun xs res h => ⟨fun hnot => ?_, ?_⟩
      · rw [hrenames] at hnot
        cases hnot
      · exact h.2.observed "write" (invalid_attributed "write")
    · rw [if_neg hrenames, if_neg hrenames]
      refine Program.yields_mono (blames_upsert (truthy_given hid) (withId_isEmpty r key)) fun xs res h => ⟨fun _ => h.1, ?_⟩
      exact h.2.observed "write" (invalid_attributed "write")

/-- A checked write has a name only through what it consists of. -/
theorem blames_writeChecked (id : Option Value) (r : Record) :
    (st.writeChecked id r).Yields fun xs res =>
      Blames st (Operation.checkedRequests id r) Sql.Request.within firstFault? Invalid xs (some res) := by
  cases hid : truthy? id with
  | none =>
    unfold writeChecked Operation.checkedRequests
    rw [hid]
    refine Program.yields_mono (blames_create none r) fun xs res h => h.mono fun q hq => ?_
    cases List.mem_singleton.mp hq
    exact ⟨List.mem_singleton_self _, rfl⟩
  | some key =>
    have hrequests : Operation.checkedRequests id r = Operation.checkedRequests (some key) r := by
      rw [Operation.checkedRequests, Operation.checkedRequests, hid, truthy_given hid]
    rw [writeChecked_given hid, hrequests]
    exact Program.yields_mono (blames_checked (truthy_given hid) r) fun xs res h => h.2

/-! ### Every operation -/

/-- Whatever the handle replies, the error of the last exchange is what the call gives, told
through the operations that were under way. Every other error is the call's own, and a write
falls back by the handle's error alone. -/
theorem errors_attributed (h : Handle σ) (start : σ) (st : Store) (op : Operation) :
    Blames st op.requests op.scopes op.reads op.Declines (Program.run h (st.perform op).run start).exchanges
        (Program.run h (st.perform op).run start).result ∧
      st.UpsertsFirst op (Program.run h (st.perform op).run start).exchanges := by
  have hyields : ∀ {op : Operation}, (st.perform op).Yields (fun xs res => st.UpsertsFirst op xs ∧
      Blames st op.requests op.scopes op.reads op.Declines xs (some res)) →
        Blames st op.requests op.scopes op.reads op.Declines (Program.run h (st.perform op).run start).exchanges
            (Program.run h (st.perform op).run start).result ∧
          st.UpsertsFirst op (Program.run h (st.perform op).run start).exchanges := by
    intro op hop
    obtain ⟨res, hresult, hfirst, hblames⟩ := Program.yields_run h hop start
    rw [hresult]
    exact ⟨hblames, hfirst⟩
  cases op with
  | «exists» i => exact hyields (Program.yields_mono (blames_exists i) fun _ _ h => ⟨trivial, h⟩)
  | read i => exact hyields (Program.yields_mono (blames_read i) fun _ _ h => ⟨trivial, h⟩)
  | write id r => exact hyields (blames_write id r)
  | writeChecked id r => exact hyields (Program.yields_mono (blames_writeChecked id r) fun _ _ h => ⟨trivial, h⟩)
  | create id r => exact hyields (Program.yields_mono (blames_create id r) fun _ _ h => ⟨trivial, h⟩)
  | update id r => exact hyields (Program.yields_mono (blames_update id r) fun _ _ h => ⟨trivial, h⟩)
  | remove i => exact hyields (Program.yields_mono (blames_remove i) fun _ _ h => ⟨trivial, h⟩)
  | list f o => exact hyields (Program.yields_mono (blames_list f o) fun _ _ h => ⟨trivial, h⟩)
  | iterate f o reader => exact ⟨blames_iterate h start f o reader, trivial⟩
  | count f o => exact hyields (Program.yields_mono (blames_count f o) fun _ _ h => ⟨trivial, h⟩)

end Store
end TableKeeper
