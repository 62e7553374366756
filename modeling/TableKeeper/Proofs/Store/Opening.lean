import TableKeeper.Config.File
import TableKeeper.Proofs.Config.Layering
import TableKeeper.Store.Opening

/-!
  TableKeeper.Proofs.Store.Opening — how the opening of a store ends.

  1. The database is searched for first, and the settings have no say in it. What the search
     fails with is about an argument or about the connection (`openPath_failed`,
     `foundFor_cases`).
  2. The settings are taken as they are, or they are a panic; they are never an error
     (`settled_ends`).
  3. So every way to open a store ends as its search does, except that a busy timeout that
     does not fit is a panic wherever there is a database (`openings_end`).

  The bound on the timeout stands nowhere before the connection itself: a variable says any
  number of milliseconds below `2 ^ 64` (`withVariables_busyTimeout`), and a file may say too
  many as well (`long_timeout_panics`).
-/

namespace TableKeeper

open Client

/-- The busy timeout fits 32 signed bits. -/
def ConnectionSettings.Fits (s : ConnectionSettings) : Prop := s.busyTimeout.toNat < 2 ^ 31

namespace Client

/-! ## The search -/

/-- The database at a location, before any settings. -/
def located (d : Disk) : Location → Except Error Client
  | .memory => .ok (inMemory d)
  | .file path => openPath d path

theorem openNamed_failed {d : Disk} {path : String} {n : DatabaseName} {e : Error} (h : openNamed d path n = .error e) :
    ∃ cause, e = .connection path cause := by
  unfold openNamed at h
  split at h
  · cases h
  · cases h
  · cases h
  · split at h
    · cases h
      exact ⟨_, rfl⟩
    · split at h
      · cases h
      · cases h
        exact ⟨_, rfl⟩

theorem openPath_failed {d : Disk} {path : String} {e : Error} (h : openPath d path = .error e) :
    ∃ cause, e = .connection path cause := by
  unfold openPath at h
  split at h
  · cases h
    exact ⟨_, rfl⟩
  · split at h
    · cases h
      exact ⟨_, rfl⟩
    · exact openNamed_failed h

/-! ## The settings -/

theorem configured?_eq_none {s : ConnectionSettings} {c : Client} : configured? s c = none ↔ ¬s.Fits := by
  unfold configured? ConnectionSettings.Fits timeoutLimit
  split <;> simp <;> omega

theorem configured?_busyTimeout {s : ConnectionSettings} {c c' : Client} (h : configured? s c = some c') :
    c'.lock.value.busyTimeout.toInt = s.busyTimeout.toNat := by
  have hfits : s.Fits := by
    by_contra hlong
    rw [configured?_eq_none.mpr hlong] at h
    cases h
  unfold configured? at h
  split at h
  · cases h
  · cases h
    exact Int64.toInt_ofNat_of_lt (Nat.lt_trans hfits (by decide))

/-- What was found, under the settings. -/
def settled (s : ConnectionSettings) : Except Error Client → Option (Except Error Client)
  | .error e => some (.error e)
  | .ok c => (configured? s c).map .ok

/-- An opening ends as its search does: with the same error, or with a connection that waits
as long as the settings say. Where they say more than fits, it ends in a panic instead. -/
structure Ends (s : ConnectionSettings) (found : Except Error Client) (result : Option (Except Error Client)) : Prop where
  fails : ∀ e, result = some (.error e) ↔ found = .error e
  opens : (∃ c, result = some (.ok c)) ↔ (∃ c, found = .ok c) ∧ s.Fits
  waits : ∀ c, result = some (.ok c) → c.lock.value.busyTimeout.toInt = s.busyTimeout.toNat
  panics : result = none ↔ (∃ c, found = .ok c) ∧ ¬s.Fits

theorem settled_ends (s : ConnectionSettings) (found : Except Error Client) : Ends s found (settled s found) := by
  cases found with
  | error e =>
    constructor
    all_goals simp [settled]
  | ok c =>
    by_cases hfits : s.Fits
    · obtain ⟨c', hc'⟩ : ∃ c', configured? s c = some c' :=
        Option.ne_none_iff_exists'.mp fun hnone => configured?_eq_none.mp hnone hfits
      have hsettled : settled s (.ok c) = some (.ok c') := by rw [settled, hc', Option.map_some]
      constructor
      case waits =>
        intro opened hopened
        rw [hsettled] at hopened
        cases hopened
        exact configured?_busyTimeout hc'
      all_goals simp [hsettled, hfits]
    · have hsettled : settled s (.ok c) = none := by rw [settled, configured?_eq_none.mpr hfits, Option.map_none]
      constructor
      all_goals simp [hsettled, hfits]

theorem connect_result (d : Disk) (path : String) (s : ConnectionSettings) :
    (connect d path s).result = settled s (openPath d path) := by
  unfold connect
  cases openPath d path with
  | error e => rfl
  | ok c =>
    dsimp only [settled]
    cases configured? s c <;> rfl

end Client

/-! ## Stores -/

def StoreOpening.client? (o : StoreOpening) : Option (Except Error Client) := o.result.map (Except.map OpenStore.client)

namespace Store

/-- The database that a descriptor points at. -/
def found (disk : Disk) (home : Option String) (base : String) (d : Descriptor) : Except Error Client :=
  match d.locate home base with
  | .error f => .error f.error
  | .ok location => located disk location

/-- The database by the text of a descriptor. -/
def foundBy (disk : Disk) (home : Option String) (base text : String) : Except Error Client :=
  match Descriptor.parse text with
  | .error f => .error f.error
  | .ok d => found disk home base d

/-- The database of a configuration. -/
def foundFor (disk : Disk) (home : Option String) (c : StoreConfig) : Except Error Client :=
  match c.database with
  | none => .error (.invalidInput "no database configured")
  | some text => foundBy disk home c.baseDir text

theorem openedWith_client? (table : String) (binding : ListBinding) (o : Client.Opening) :
    (openedWith table binding o).client? = o.result := by
  obtain ⟨result, notices⟩ := o
  rcases result with _ | _ | c <;> rfl

section

variable (disk : Disk) (home : Option String)

theorem openAt_client? (base : String) (d : Descriptor) (s : ConnectionSettings) (binding : ListBinding) :
    (openAt disk home base d s binding).client? = settled s (found disk home base d) := by
  unfold openAt found
  cases d.locate home base with
  | error f => rfl
  | ok location =>
    cases location with
    | memory => exact openedWith_client? d.table binding _
    | file path => exact (openedWith_client? d.table binding _).trans (connect_result disk path s)

theorem openText_client? (base text : String) (s : ConnectionSettings) (binding : ListBinding) :
    (openText disk home base text s binding).client? = settled s (foundBy disk home base text) := by
  unfold openText foundBy
  cases Descriptor.parse text with
  | error f => rfl
  | ok d => exact openAt_client? disk home base d s binding

theorem openConfigured_client? (c : StoreConfig) :
    (openConfigured disk home c).client? = settled c.connection (foundFor disk home c) := by
  unfold openConfigured foundFor
  cases c.database with
  | none => rfl
  | some text => exact openText_client? disk home c.baseDir text c.connection c.listBinding

/-- A database is found, or what is missing is an argument or the connection. -/
theorem foundFor_cases (c : StoreConfig) :
    (∃ client, foundFor disk home c = .ok client) ∨ (∃ text, foundFor disk home c = .error (.invalidInput text)) ∨
      ∃ path cause, foundFor disk home c = .error (.connection path cause) := by
  unfold foundFor
  split
  · exact .inr (.inl ⟨_, rfl⟩)
  · unfold foundBy
    split
    · rename_i fault _
      cases fault
      exact .inr (.inl ⟨_, rfl⟩)
    · unfold found located
      split
      · exact .inr (.inl ⟨_, rfl⟩)
      · split
        · exact .inl ⟨_, rfl⟩
        · rename_i path _
          cases hopen : openPath disk path with
          | ok client => exact .inl ⟨client, rfl⟩
          | error e =>
            obtain ⟨cause, rfl⟩ := openPath_failed hopen
            exact .inr (.inr ⟨path, cause, rfl⟩)

end

/-! ## The bound -/

theorem written_toString (ms : UInt64) : Milliseconds.Written (toString ms.toNat) ms := by
  have hdigits : ∀ c ∈ (toString ms.toNat).toList, c.isDigit = true := fun c hc => Text.isDigit_of_mem_toString hc
  refine ⟨(toString ms.toNat).toList, Text.toString_ne_nil _, hdigits, .inl ?_,
    (Text.ofDigits_reverse _).trans (Text.decimalValue_toString _)⟩
  apply Text.trims_self
  · rw [Text.StartsSolid, Option.any_eq_false]
    intro c hc
    exact Text.isBlank_of_isDigit (hdigits c (List.mem_of_mem_head? hc))
  · exact fun hne => Text.isBlank_of_isDigit (hdigits _ (List.getLast_mem hne))

/-- A variable says any number of milliseconds. -/
theorem withVariables_busyTimeout (c : StoreConfig) (ms : UInt64) :
    (c.withVariables (Variables.ofList [("LITESTORE_BUSY_TIMEOUT_MS", toString ms.toNat)])).1 =
      { c with connection := { c.connection with busyTimeout := ms } } := by
  have hparse : Milliseconds.parse? (toString ms.toNat) = some ms :=
    Milliseconds.parse?_eq_some.mpr (written_toString ms)
  rw [StoreConfig.withVariables, Layer.ofVariables_fst]
  generalize toString ms.toNat = raw at hparse ⊢
  simp [Variables.ofList, Layer.onto, hparse]

/-- Every way to open a store, with a home directory or without one, and every configuration: what
is not found is an error about an argument or the connection, and what is found opens exactly when
the busy timeout fits. Where it does not, which no layer of the configuration rules out, there is
a panic. -/
theorem openings_end (disk : Disk) (home : Option String) :
    (∀ (s : ConnectionSettings) (c : Client), configured? s c = none ↔ ¬s.Fits) ∧
      (∀ s, Ends s (.ok (inMemory disk)) (connectMemory disk s).result) ∧
      (∀ s path, Ends s (openPath disk path) (Client.connect disk path s).result) ∧
      (∀ s base d binding, Ends s (found disk home base d) (openAt disk home base d s binding).client?) ∧
      (∀ c, Ends c.connection (foundFor disk home c) (openConfigured disk home c).client?) ∧
      (∀ c, (∃ client, foundFor disk home c = .ok client) ∨ (∃ text, foundFor disk home c = .error (.invalidInput text)) ∨
        ∃ path cause, foundFor disk home c = .error (.connection path cause)) ∧
      (∀ text, (connect disk home text).client? ≠ none) ∧
      ∀ (c : StoreConfig) (ms : UInt64),
        (c.withVariables (Variables.ofList [("LITESTORE_BUSY_TIMEOUT_MS", toString ms.toNat)])).1 =
          { c with connection := { c.connection with busyTimeout := ms } } := by
  refine ⟨fun _ _ => configured?_eq_none, fun s => settled_ends s _, fun s path => ?_, fun s base d binding => ?_,
    fun c => ?_, foundFor_cases disk home, fun text => ?_, withVariables_busyTimeout⟩
  · rw [connect_result]
    exact settled_ends s _
  · rw [openAt_client?]
    exact settled_ends s _
  · rw [openConfigured_client?]
    exact settled_ends c.connection _
  · intro hpanics
    rw [connect, openText_client?] at hpanics
    have hfits : ({} : ConnectionSettings).Fits := by
      unfold ConnectionSettings.Fits
      decide
    exact ((settled_ends _ _).panics.mp hpanics).2 hfits

/-- A file that cannot be made is an error, even under a timeout that does not fit. -/
theorem missing_directory_fails :
    let disk : Disk := { cwd := [], dirs := [[]], files := [] }
    let c : StoreConfig := { database := some "/nowhere/items.db", connection := { busyTimeout := 4294967296 } }
    (openConfigured disk "/home" c).client? =
      some (.error (.connection "/nowhere/items.db" "unable to open database file: /nowhere/items.db")) := by
  intro disk c
  obtain ⟨-, -, -, -, hconfigured, -⟩ := openings_end disk "/home"
  refine ((hconfigured c).fails _).mpr ?_
  have hfailed : (foundFor disk "/home" c).map (fun _ => ()) =
      .error (.connection "/nowhere/items.db" "unable to open database file: /nowhere/items.db") := by decide +kernel
  cases hfound : foundFor disk "/home" c with
  | ok client =>
    rw [hfound] at hfailed
    cases hfailed
  | error e =>
    rw [hfound] at hfailed
    cases hfailed
    rfl

/-- One millisecond more than fits, by a variable and by a file. -/
theorem long_timeout_panics :
    let disk : Disk := { cwd := [], dirs := [[]], files := [] }
    let vars := Variables.ofList [("LITESTORE_DATABASE", ":memory:#items"), ("LITESTORE_BUSY_TIMEOUT_MS", "2147483648")]
    let text := "database = \":memory:#items\"\n[connection]\nbusy_timeout_ms = 2147483648\n"
    (openConfigured disk "/home" (({} : StoreConfig).withVariables vars).1).client? = none ∧
      ∃ c, StoreConfig.ofToml text = .ok c ∧ (openConfigured disk "/home" c).client? = none := by
  intro disk vars text
  have htext : StoreConfig.ofToml text =
      .ok { database := some ":memory:#items", connection := { busyTimeout := 2147483648 } } := by decide +kernel
  exact ⟨Option.isNone_iff_eq_none.mp (by decide +kernel), _, htext, Option.isNone_iff_eq_none.mp (by decide +kernel)⟩

end Store
end TableKeeper
