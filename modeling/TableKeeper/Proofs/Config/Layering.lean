import TableKeeper.Config.Layer
import TableKeeper.Proofs.Text.Digits
import TableKeeper.Proofs.Text.Lowercase

/-!
  TableKeeper.Proofs.Config.Layering — which layer a setting comes from.

  1. A variable counts where its text is acceptable: a descriptor or a directory that is not
     blank, as it is; a name or a word for yes or no, trimmed and in lower case; a number of
     milliseconds in digits, behind a plus at most. The readers find exactly these
     (`nonBlank?_eq_some`, `ListBinding.parse?_eq_some`, `Flag.parse?_eq_some`,
     `Milliseconds.parse?_eq_some`).
  2. A field is what its own variable says, or else what the file says, or else its default
     (`layers_settle`). So the variables may be applied again, and one of them changes its own
     field at most.
-/

namespace TableKeeper

open Text

/-! ## Acceptable texts -/

/-- Trimmed and in lower case, the text is this word. -/
def Says (raw word : String) : Prop := ∃ core, Trims core raw.toList ∧ Lowers core word.toList

/-- The words for yes, and those for no. -/
def Flag.words : Bool → List String
  | true => ["1", "true", "yes", "on"]
  | false => ["0", "false", "no", "off"]

/-- Between blanks stand the digits of a number, behind a plus at most. -/
def Milliseconds.Written (raw : String) (ms : UInt64) : Prop :=
  ∃ ds : List Char, ds ≠ [] ∧ (∀ c ∈ ds, c.isDigit = true) ∧ (Trims ds raw.toList ∨ Trims ('+' :: ds) raw.toList) ∧
    Nat.ofDigits 10 (ds.reverse.map digitValue) = ms.toNat

/-- The text has a character that is no blank. -/
def Stands (raw : String) : Prop := ∃ c ∈ raw.toList, isBlank c = false

theorem isBlankText_eq_false {raw : String} : isBlankText raw = false ↔ Stands raw := by
  simp [isBlankText, Stands, List.all_eq_false]

/-- A name in ASCII, and without a `k`. -/
def IsName (word : String) : Prop := ∀ c ∈ word.toList, c.toNat < 128 ∧ c ≠ 'k'

instance (word : String) : Decidable (IsName word) := List.decidableBAll _ word.toList

theorem says_iff {raw word : String} (hword : IsName word) : Says raw word ↔ fold (trim raw) = word := by
  have hfold : fold (trim raw) = word ↔ (trimChars raw.toList).map foldChar = word.toList := by
    rw [← String.toList_inj, fold, trim, String.toList_ofList, String.toList_ofList]
  rw [hfold, ← lowers_iff hword]
  constructor
  · rintro ⟨core, hcore, hlowers⟩
    exact trims_iff.mp hcore ▸ hlowers
  · exact fun h => ⟨_, trims_iff.mpr rfl, h⟩

/-! ### Names and words -/

theorem ListBinding.ofName?_eq_some {word : String} {b : ListBinding} : ofName? word = some b ↔ word = b.name := by
  unfold ofName?
  constructor
  · intro h
    split at h
    · cases h
      assumption
    · split at h
      · cases h
        assumption
      · cases h
  · rintro rfl
    cases b <;> rfl

theorem ListBinding.parse?_eq_some {raw : String} {b : ListBinding} : parse? raw = some b ↔ Says raw b.name := by
  have hname : IsName b.name := by cases b <;> decide
  rw [says_iff hname]
  exact ofName?_eq_some

theorem Flag.isName_words {v : Bool} : ∀ word ∈ words v, IsName word := by
  cases v <;> decide

theorem Flag.parse?_eq_some {raw : String} {v : Bool} : parse? raw = some v ↔ ∃ word ∈ words v, Says raw word := by
  have hspoken : (∃ word ∈ words v, Says raw word) ↔ fold (trim raw) ∈ words v := by
    constructor
    · rintro ⟨word, hword, h⟩
      exact (says_iff (isName_words word hword)).mp h ▸ hword
    · exact fun h => ⟨_, h, (says_iff (isName_words _ h)).mpr rfl⟩
  rw [hspoken, parse?]
  generalize fold (trim raw) = word
  constructor
  · intro h
    split at h
    · cases h
      simpa [words] using ‹_ ∨ _›
    · split at h
      · cases h
        simpa [words] using ‹word = "0" ∨ _›
      · cases h
  · intro h
    cases v with
    | true =>
      simp only [words, List.mem_cons, List.not_mem_nil, or_false] at h
      exact if_pos h
    | false =>
      simp only [words, List.mem_cons, List.not_mem_nil, or_false] at h
      rcases h with rfl | rfl | rfl | rfl <;> rfl

/-! ### Numbers -/

theorem Milliseconds.written_iff {raw : String} {ms : UInt64} :
    Written raw ms ↔ unsigned? (trimChars raw.toList) = some ms.toNat := by
  rw [unsigned?_eq_some, Written]
  simp only [trims_iff, ofDigits_reverse]

theorem Milliseconds.parse?_eq_some {raw : String} {ms : UInt64} : parse? raw = some ms ↔ Written raw ms := by
  rw [written_iff, parse?]
  cases unsigned? (trimChars raw.toList) with
  | none => simp
  | some n =>
    rw [Option.filter_some]
    by_cases hsmall : n < UInt64.size
    · rw [if_pos (by simpa using hsmall), Option.map_some, Option.some.injEq, Option.some.injEq, ← UInt64.toNat_inj,
        UInt64.toNat_ofNat_of_lt' hsmall]
    · rw [if_neg (by simpa using hsmall)]
      refine ⟨fun h => absurd h.symm (Option.some_ne_none ms), fun h => ?_⟩
      exact absurd (Option.some.inj h ▸ ms.toNat_lt) hsmall

/-! ### Texts as they are -/

def verbatim? (raw : String) : Option String := if isBlankText raw then none else some raw

theorem verbatim?_eq_some {raw v : String} : verbatim? raw = some v ↔ Stands raw ∧ v = raw := by
  rw [← isBlankText_eq_false, verbatim?]
  cases isBlankText raw <;> simp [eq_comm]

theorem Variables.nonBlank?_eq (vars : Variables) (name : String) : vars.nonBlank? name = (vars name).bind verbatim? := by
  unfold nonBlank? verbatim?
  cases vars name with
  | none => rfl
  | some raw => cases h : isBlankText raw <;> simp [Option.filter, h]

/-! ## One layer on another -/

/-- A setting is what its variable says, where that is acceptable, and else what is below. -/
structure Settles {α : Type} (said : Option String) (accepts : String → α → Prop) (below setting : α) : Prop where
  taken : ∀ raw a, said = some raw → accepts raw a → setting = a
  kept : (∀ raw a, said = some raw → ¬accepts raw a) → setting = below

/-- A setting that is read by `read?` settles as what `read?` accepts. -/
theorem settles_read {α : Type} {accepts : String → α → Prop} {read? : String → Option α}
    (hread : ∀ raw a, read? raw = some a ↔ accepts raw a) (said : Option String) (below : α) :
    Settles said accepts below ((said.bind read?).getD below) := by
  constructor
  · rintro raw a rfl ha
    rw [Option.bind_some, (hread raw a).mpr ha, Option.getD_some]
  · intro hnone
    cases said with
    | none => rfl
    | some raw =>
      cases h : read? raw with
      | none => rw [Option.bind_some, h, Option.getD_none]
      | some a => exact absurd ((hread raw a).mp h) (hnone raw a rfl)

theorem Variables.read_fst {α : Type} (vars : Variables) (parse? : String → Option α) (name : String) :
    (vars.read parse? name).1 = (vars name).bind parse? := by
  unfold read
  cases vars name with
  | none => rfl
  | some raw =>
    dsimp only [Option.bind_some]
    cases parse? raw <;> rfl

/-- Each field of the layer has a variable of its own. -/
theorem Layer.ofVariables_fst (vars : Variables) : (ofVariables vars).1 =
    { database := (vars "LITESTORE_DATABASE").bind verbatim?
      baseDir := (vars "LITESTORE_BASE_DIR").bind verbatim?
      listBinding := (vars "LITESTORE_LIST_BINDING").bind ListBinding.parse?
      busyTimeout := (vars "LITESTORE_BUSY_TIMEOUT_MS").bind Milliseconds.parse?
      wal := (vars "LITESTORE_WAL").bind Flag.parse? } := by
  rw [← Variables.nonBlank?_eq, ← Variables.nonBlank?_eq, ← Variables.read_fst, ← Variables.read_fst,
    ← Variables.read_fst]
  rfl

/-- Every field is what its own variable says, or what it was. -/
structure Layered (vars : Variables) (below c : StoreConfig) : Prop where
  database : Settles (vars "LITESTORE_DATABASE") (fun raw d => Stands raw ∧ d = some raw) below.database c.database
  baseDir : Settles (vars "LITESTORE_BASE_DIR") (fun raw d => Stands raw ∧ d = raw) below.baseDir c.baseDir
  listBinding : Settles (vars "LITESTORE_LIST_BINDING") (fun raw b => Says raw b.name) below.listBinding c.listBinding
  busyTimeout : Settles (vars "LITESTORE_BUSY_TIMEOUT_MS") Milliseconds.Written below.connection.busyTimeout
    c.connection.busyTimeout
  wal : Settles (vars "LITESTORE_WAL") (fun raw v => ∃ word ∈ Flag.words v, Says raw word) below.connection.wal
    c.connection.wal

theorem layered_withVariables (below : StoreConfig) (vars : Variables) :
    Layered vars below (below.withVariables vars).1 := by
  unfold StoreConfig.withVariables
  rw [Layer.ofVariables_fst]
  constructor
  · have hread : ∀ raw d, (verbatim? raw).map some = some d ↔ Stands raw ∧ d = some raw := by
      intro raw d
      rw [Option.map_eq_some_iff]
      constructor
      · rintro ⟨v, hv, rfl⟩
        obtain ⟨hstands, rfl⟩ := verbatim?_eq_some.mp hv
        exact ⟨hstands, rfl⟩
      · rintro ⟨hstands, rfl⟩
        exact ⟨raw, verbatim?_eq_some.mpr ⟨hstands, rfl⟩, rfl⟩
    have hor : ((vars "LITESTORE_DATABASE").bind verbatim?).or below.database =
        ((vars "LITESTORE_DATABASE").bind fun raw => (verbatim? raw).map some).getD below.database := by
      cases vars "LITESTORE_DATABASE" with
      | none => rfl
      | some raw =>
        dsimp only [Option.bind_some]
        cases verbatim? raw <;> rfl
    rw [Layer.onto]
    dsimp only
    rw [hor]
    exact settles_read hread _ _
  · exact settles_read (fun _ _ => verbatim?_eq_some) _ _
  · exact settles_read (fun _ _ => ListBinding.parse?_eq_some) _ _
  · exact settles_read (fun _ _ => Milliseconds.parse?_eq_some) _ _
  · exact settles_read (fun _ _ => Flag.parse?_eq_some) _ _

/-! ### Twice, and one at a time -/

theorem Layer.onto_onto (l : Layer) (c : StoreConfig) : l.onto (l.onto c) = l.onto c := by
  have hget : ∀ {α : Type} (o : Option α) (a : α), o.getD (o.getD a) = o.getD a := by
    intro α o a
    cases o <;> rfl
  have hor : ∀ o below : Option String, o.or (o.or below) = o.or below := by
    intro o below
    cases o <;> rfl
  simp only [onto, hget, hor]

/-- The configurations differ in the field of this variable at most. -/
structure SameBut (name : String) (a b : StoreConfig) : Prop where
  database : name ≠ "LITESTORE_DATABASE" → a.database = b.database
  baseDir : name ≠ "LITESTORE_BASE_DIR" → a.baseDir = b.baseDir
  listBinding : name ≠ "LITESTORE_LIST_BINDING" → a.listBinding = b.listBinding
  busyTimeout : name ≠ "LITESTORE_BUSY_TIMEOUT_MS" → a.connection.busyTimeout = b.connection.busyTimeout
  wal : name ≠ "LITESTORE_WAL" → a.connection.wal = b.connection.wal

theorem sameBut_withVariables {vars vars' : Variables} {name : String}
    (h : ∀ other, other ≠ name → vars other = vars' other) (c : StoreConfig) :
    SameBut name (c.withVariables vars).1 (c.withVariables vars').1 := by
  unfold StoreConfig.withVariables
  rw [Layer.ofVariables_fst, Layer.ofVariables_fst]
  constructor
  all_goals
    intro hne
    simp only [Layer.onto, h _ hne.symm]

/-! ## Every field -/

/-- Each field of a file's configuration under the variables is what its own variable says, if
that is acceptable, or else what the file says, or else the default. The variables may be applied
again, and one of them changes its own field at most. -/
theorem layers_settle (file : Layer) (vars : Variables) :
    Layered vars
        { database := file.database
          baseDir := file.baseDir.getD "."
          listBinding := file.listBinding.getD .bound
          connection := { busyTimeout := file.busyTimeout.getD 5000, wal := file.wal.getD true } }
        ((file.onto {}).withVariables vars).1 ∧
      (∀ c : StoreConfig, (c.withVariables vars).1.withVariables vars = c.withVariables vars) ∧
      ∀ (c : StoreConfig) (vars' : Variables) (name : String), (∀ other, other ≠ name → vars other = vars' other) →
        SameBut name (c.withVariables vars).1 (c.withVariables vars').1 := by
  refine ⟨?_, fun c => ?_, fun c _ _ h => sameBut_withVariables h c⟩
  · have hlayered := layered_withVariables (file.onto {}) vars
    have hdatabase : (file.onto {}).database = file.database := Option.or_none
    exact { hlayered with database := hdatabase ▸ hlayered.database }
  · rw [StoreConfig.withVariables, StoreConfig.withVariables, Layer.onto_onto]

/-- A file's timeout under a longer spelling of another one, a word that means neither yes nor
no, and a binding in capitals. -/
theorem mixed_layers_settle :
    let file : Layer := { busyTimeout := some 250, wal := some false }
    let vars := Variables.ofList
      [("LITESTORE_BUSY_TIMEOUT_MS", " +00100\n"), ("LITESTORE_WAL", "maybe"), ("LITESTORE_LIST_BINDING", "INLINE")]
    let c := ((file.onto {}).withVariables vars).1
    c.connection.busyTimeout = 100 ∧ c.connection.wal = false ∧ c.listBinding = .inline ∧
      SameBut "LITESTORE_WAL" c ((file.onto {}).withVariables fun name =>
        if name = "LITESTORE_WAL" then some "on" else vars name).1 := by
  intro file vars c
  obtain ⟨⟨-, -, hlistBinding, hbusyTimeout, hwal⟩, -, hframe⟩ := layers_settle file vars
  refine ⟨hbusyTimeout.taken " +00100\n" 100 (by decide) ?_, hwal.kept ?_, hlistBinding.taken "INLINE" .inline
    (by decide) ?_, hframe _ _ _ fun other hother => (if_neg hother).symm⟩
  · exact Milliseconds.parse?_eq_some.mp (by decide)
  · intro raw v hraw haccepts
    have hmaybe : raw = "maybe" := by
      have hsaid : vars "LITESTORE_WAL" = some "maybe" := by decide
      exact Option.some.inj (hraw.symm.trans hsaid)
    rw [← Flag.parse?_eq_some, hmaybe] at haccepts
    revert haccepts
    cases v <;> decide
  · exact ListBinding.parse?_eq_some.mp (by decide)

end TableKeeper
