import TableKeeper.Logging.Installation

/-!
  TableKeeper.Proofs.Logging.Installation — one log, whatever is tried before it and after.

  1. A log's file that cannot be opened leaves no file behind; the directories above it may have
     been made (`openLog_fault`).
  2. A call with a refused directive, or one that finds a log, changes nothing at all
     (`Attempt.failsOnConfig_of_refused`, `Attempt.state_of_installed`). Any other puts its log in
     place exactly if its file can be opened (`Attempt.succeeds_or_fails`).
  3. A log that is in place is found by all calls that follow (`installed_kept`), so over every
     sequence of calls, with anything happening to the files between them, the first call that
     can open its file succeeds and no other does (`installed_once`).

  All of it holds whatever a filter is and whoever reads it.
-/

namespace TableKeeper

open Logging

/-! ## The file of a log -/

theorem files_makeDir {d d' : Disk} {p : String} (h : d.makeDir p = .ok d') : d'.files = d.files := by
  unfold Disk.makeDir at h
  cases hreach : d.reach p with
  | error e =>
    rw [hreach] at h
    cases h
  | ok full =>
    rw [hreach] at h
    simp only [bind, Except.bind, throw, throwThe, MonadExceptOf.throw] at h
    split at h
    · cases h
    · split at h
      · cases h
      · cases h
        rfl

/-- Directories are made, and no file with them. -/
theorem files_ensureDirs (n : Nat) (d : Disk) (p : String) : (d.ensureDirs n p).2.files = d.files := by
  induction n generalizing d p with
  | zero => rfl
  | succ n ih =>
    rw [Disk.ensureDirs]
    by_cases hp : p = ""
    · rw [if_pos hp]
    · rw [if_neg hp]
      cases hmade : d.makeDir p with
      | ok d' => exact files_makeDir hmade
      | error e =>
        cases e with
        | notFound =>
          cases habove : Disk.parentText? p with
          | none => rfl
          | some q =>
            have hq := ih d q
            -- What is above was made, or it failed; either way the files are still the same.
            cases hensured : d.ensureDirs n q with
            | mk r d' =>
              rw [hensured] at hq
              cases r with
              | error e => simpa [hensured] using hq
              | ok _ =>
                cases hagain : d'.makeDir p with
                | ok d'' => simpa [hensured, hagain] using (files_makeDir hagain).trans hq
                | error e => simpa [hensured, hagain] using hq
        | _ => rfl

theorem files_withDirectories (d : Disk) (path : String) : (withDirectories d path).2.files = d.files := by
  unfold withDirectories
  cases directoryAbove? path with
  | none => rfl
  | some above => exact files_ensureDirs (above.length + 1) d above

theorem withDirectories_fault {d : Disk} {path : String} {f : InstallFault}
    (h : (withDirectories d path).1 = .error f) : ∃ above e, f = .unusable above e := by
  unfold withDirectories at h
  cases habove : directoryAbove? path with
  | none =>
    rw [habove] at h
    cases h
  | some above =>
    rw [habove] at h
    cases hmade : (d.ensureDirs (above.length + 1) above).1 with
    | ok _ =>
      simp only [hmade] at h
      cases h
    | error e =>
      simp only [hmade] at h
      cases h
      exact ⟨above, e, rfl⟩

/-- A log's file cannot be opened for a path that cannot be used, and then no file is made. -/
theorem openLog_fault {d disk : Disk} {path : String} {f : InstallFault} (h : openLog d path = (.error f, disk)) :
    (∃ bad e, f = .unusable bad e) ∧ disk.files = d.files := by
  have hfiles := files_withDirectories d path
  unfold openLog at h
  cases hmade : withDirectories d path with
  | mk made d' =>
    rw [hmade] at h hfiles
    cases made with
    | error g =>
      cases h
      exact ⟨withDirectories_fault (congrArg Prod.fst hmade), hfiles⟩
    | ok _ =>
      cases hopen : d'.openForAppend path with
      | error e =>
        simp only [hopen] at h
        cases h
        exact ⟨⟨path, e, rfl⟩, hfiles⟩
      | ok _ =>
        simp only [hopen] at h
        cases h

/-! ## One call -/

/-- A call that is to install a log, with the state that it finds. -/
structure Attempt (φ : Type) where
  found : Logging φ
  settings : LogSettings

namespace Attempt

variable {φ : Type} {read : String → Except String φ} {a : Attempt φ}

def outcome (read : String → Except String φ) (a : Attempt φ) : Installing φ := a.found.installBy read a.settings

/-- What the caller is told. -/
def answer (read : String → Except String φ) (a : Attempt φ) : Except Error Unit :=
  (a.outcome read).result.mapError InstallFault.error

/-- The filter cannot be read. -/
def Refused (read : String → Except String φ) (a : Attempt φ) : Prop := ∃ cause, read a.settings.filter = .error cause

/-- The log's file can be opened as the files are, if there is to be one. -/
def FileOpens (a : Attempt φ) : Prop :=
  ∀ path, a.settings.file = some path → ∃ full, (openLog a.found.disk path).1 = .ok full

/-- The file that is opened for the log. -/
def opened? (a : Attempt φ) : Option FullPath := do (openLog a.found.disk (← a.settings.file)).1.toOption

/-- The call could install its log, if there is none. -/
def Able (read : String → Except String φ) (a : Attempt φ) : Prop := ¬ a.Refused read ∧ a.FileOpens

def Succeeds (read : String → Except String φ) (a : Attempt φ) : Prop := a.answer read = .ok ()

def FailsOnConfig (read : String → Except String φ) (a : Attempt φ) : Prop :=
  ∃ text, a.answer read = .error (.config text)

theorem not_refused : ¬ a.Refused read ↔ ∃ filter, read a.settings.filter = .ok filter := by
  unfold Refused
  cases read a.settings.filter with
  | ok filter => simp
  | error cause => simp

theorem outcome_refused {cause : String} (h : read a.settings.filter = .error cause) :
    a.outcome read = ⟨.error (.invalidFilter ("'" ++ a.settings.filter ++ "': " ++ cause)), a.found⟩ := by
  rw [outcome, installBy, h]

theorem outcome_again {i : Installation φ} (h : ¬ a.Refused read) (hi : a.found.installed = some i) :
    a.outcome read = ⟨.error .alreadyInstalled, a.found⟩ := by
  obtain ⟨filter, hfilter⟩ := not_refused.mp h
  rw [outcome, installBy, hfilter, hi]

theorem outcome_placed {filter : φ} (h : read a.settings.filter = .ok filter) (hi : a.found.installed = none) :
    a.outcome read = a.found.place filter a.settings := by
  rw [outcome, installBy, h, hi]

theorem place_opened {filter : φ} (h : a.FileOpens) :
    (a.found.place filter a.settings).result = .ok () ∧
      (a.found.place filter a.settings).state.installed = some ⟨filter, a.settings.format, a.opened?⟩ := by
  cases hfile : a.settings.file with
  | none => simp [place, opened?, hfile]
  | some path =>
    obtain ⟨full, hfull⟩ := h path hfile
    obtain ⟨disk, hopen⟩ : ∃ disk, openLog a.found.disk path = (.ok full, disk) := ⟨_, Prod.ext hfull rfl⟩
    simp [place, opened?, hfile, hopen, Except.toOption]

theorem place_unopened (filter : φ) (h : ¬ a.FileOpens) :
    ∃ bad e disk, a.found.place filter a.settings = ⟨.error (.unusable bad e), { a.found with disk }⟩ ∧
      disk.files = a.found.disk.files := by
  unfold FileOpens at h
  obtain ⟨path, h⟩ := Classical.not_forall.mp h
  obtain ⟨hfile, hopens⟩ := Classical.not_imp.mp h
  cases hopen : openLog a.found.disk path with
  | mk opened disk =>
    cases opened with
    | ok full => exact absurd ⟨full, by rw [hopen]⟩ hopens
    | error f =>
      obtain ⟨⟨bad, e, rfl⟩, hfiles⟩ := openLog_fault hopen
      exact ⟨bad, e, disk, by simp only [place, hfile, hopen], hfiles⟩

theorem failsOnConfig_of_refused (h : a.Refused read) : a.FailsOnConfig read ∧ (a.outcome read).state = a.found := by
  obtain ⟨cause, hcause⟩ := h
  unfold FailsOnConfig answer
  rw [outcome_refused hcause]
  exact ⟨⟨_, rfl⟩, rfl⟩

theorem FailsOnConfig.not_succeeds (h : a.FailsOnConfig read) : ¬ a.Succeeds read := by
  intro hsucceeds
  obtain ⟨text, htext⟩ := h
  cases hsucceeds.symm.trans htext

/-- A call that finds a log leaves everything as it is. -/
theorem state_of_installed {i : Installation φ} (hi : a.found.installed = some i) :
    (a.outcome read).state = a.found ∧ ¬ a.Succeeds read := by
  by_cases hrefused : a.Refused read
  · obtain ⟨hfails, hstate⟩ := failsOnConfig_of_refused hrefused
    exact ⟨hstate, hfails.not_succeeds⟩
  · unfold Succeeds answer
    rw [outcome_again hrefused hi]
    refine ⟨rfl, ?_⟩
    intro h
    cases h

/-- Without a log there, the call puts its own in place or is refused for its settings. -/
theorem succeeds_or_fails (hi : a.found.installed = none) (h : ¬ a.Refused read) :
    (a.FileOpens → a.Succeeds read ∧ ∃ filter, read a.settings.filter = .ok filter ∧
        (a.outcome read).state.installed = some ⟨filter, a.settings.format, a.opened?⟩) ∧
      (¬ a.FileOpens → a.FailsOnConfig read ∧ (a.outcome read).state.installed = none ∧
        (a.outcome read).state.disk.files = a.found.disk.files) := by
  obtain ⟨filter, hfilter⟩ := not_refused.mp h
  unfold Succeeds FailsOnConfig answer
  rw [outcome_placed hfilter hi]
  constructor
  · intro hopens
    obtain ⟨hresult, hinstalled⟩ := place_opened hopens
    rw [hresult]
    exact ⟨rfl, filter, hfilter, hinstalled⟩
  · intro hopens
    obtain ⟨bad, e, disk, hplace, hfiles⟩ := place_unopened filter hopens
    rw [hplace]
    exact ⟨⟨_, rfl⟩, hi, hfiles⟩

/-- A call that fails leaves no log behind where there was none. -/
theorem installed_of_fails (hi : a.found.installed = none) (h : ¬ a.Succeeds read) :
    (a.outcome read).state.installed = none := by
  by_cases hrefused : a.Refused read
  · rw [(failsOnConfig_of_refused hrefused).2]
    exact hi
  · obtain ⟨hopened, hunopened⟩ := succeeds_or_fails hi hrefused
    exact (hunopened fun hopens => h (hopened hopens).1).2.1

/-- A call that succeeds finds no log and leaves one. -/
theorem installed_of_succeeds (h : a.Succeeds read) :
    a.found.installed = none ∧ a.Able read ∧ ∃ i, (a.outcome read).state.installed = some i := by
  have hfound : a.found.installed = none := by
    cases hi : a.found.installed with
    | none => rfl
    | some i => exact absurd h (state_of_installed hi).2
  have hread : ¬ a.Refused read := fun hrefused => (failsOnConfig_of_refused hrefused).1.not_succeeds h
  obtain ⟨hopened, hunopened⟩ := succeeds_or_fails hfound hread
  have hopens : a.FileOpens := Classical.byContradiction fun hopens => (hunopened hopens).1.not_succeeds h
  obtain ⟨-, filter, -, hinstalled⟩ := hopened hopens
  exact ⟨hfound, ⟨hread, hopens⟩, _, hinstalled⟩

end Attempt

/-! ## Sequences of calls -/

/-- A call to come: what becomes of the files before it, be it through the log itself or by
others, and its settings. -/
structure InstallCall where
  since : Disk → Disk := id
  settings : LogSettings

section

variable {φ : Type} (read : String → Except String φ)

/-- The calls of a process, one after another. -/
def attempts : Logging φ → List InstallCall → List (Attempt φ)
  | _, [] => []
  | st, c :: calls =>
    let a : Attempt φ := ⟨{ st with disk := c.since st.disk }, c.settings⟩
    a :: attempts (a.outcome read).state calls

variable {st : Logging φ} {calls : List InstallCall} {before after : List (Attempt φ)} {a b : Attempt φ}

/-- What comes of a call behind others. -/
structure OneLog (before : List (Attempt φ)) (a : Attempt φ) : Prop where
  /-- A refused filter fails at every point and changes nothing. -/
  refused : a.Refused read → a.FailsOnConfig read ∧ (a.outcome read).state = a.found
  /-- Before the first success, a call succeeds if its file can be opened, -/
  opened : ¬ a.Refused read → (∀ b ∈ before, ¬ b.Succeeds read) → a.FileOpens →
    a.Succeeds read ∧ ∃ filter, read a.settings.filter = .ok filter ∧
      (a.outcome read).state.installed = some ⟨filter, a.settings.format, a.opened?⟩
  /-- and otherwise it fails, and there still is no log and no other file than before. -/
  unopened : ¬ a.Refused read → (∀ b ∈ before, ¬ b.Succeeds read) → ¬ a.FileOpens →
    a.FailsOnConfig read ∧ (a.outcome read).state.installed = none ∧
      (a.outcome read).state.disk.files = a.found.disk.files
  /-- Behind a success there is its log, which stays, and no file is touched any more. -/
  again : ∀ b ∈ before, b.Succeeds read →
    (¬ a.Refused read → a.answer read = .error (.operationFailed "init_logging" "logging already initialized")) ∧
      (a.outcome read).state = a.found ∧ a.found.installed = (b.outcome read).state.installed

variable {read}

/-- A log that is in place is found by every call that follows. -/
theorem installed_kept {i : Installation φ} (hi : st.installed = some i) (ha : a ∈ attempts read st calls) :
    a.found.installed = some i := by
  induction calls generalizing st with
  | nil => cases ha
  | cons c calls ih =>
    rcases List.mem_cons.mp ha with rfl | ha
    · exact hi
    · refine ih ?_ ha
      rw [(Attempt.state_of_installed hi).1]
      exact hi

theorem attempts_behind (h : attempts read st calls = before ++ a :: after) :
    ∃ rest, after = attempts read (a.outcome read).state rest := by
  induction before generalizing st calls with
  | nil =>
    cases calls with
    | nil => cases h
    | cons c calls =>
      obtain ⟨rfl, rfl⟩ := List.cons.inj h
      exact ⟨calls, rfl⟩
  | cons b before ih =>
    cases calls with
    | nil => cases h
    | cons c calls => exact ih (List.cons.inj h).2

/-- As long as no call has succeeded, no log is there. -/
theorem installed_before (hi : st.installed = none) (h : attempts read st calls = before ++ a :: after)
    (hfails : ∀ b ∈ before, ¬ b.Succeeds read) : a.found.installed = none := by
  induction before generalizing st calls with
  | nil =>
    cases calls with
    | nil => cases h
    | cons c calls =>
      obtain ⟨rfl, -⟩ := List.cons.inj h
      exact hi
  | cons b before ih =>
    cases calls with
    | nil => cases h
    | cons c calls =>
      obtain ⟨rfl, hbehind⟩ := List.cons.inj h
      have hfirst := hfails _ List.mem_cons_self
      exact ih (Attempt.installed_of_fails hi hfirst) hbehind fun b hb => hfails b (List.mem_cons_of_mem _ hb)

/-- Behind a call that succeeded, each call finds the log that it left. -/
theorem installed_behind (h : attempts read st calls = before ++ a :: after) (hb : b ∈ before)
    (hsucceeds : b.Succeeds read) :
    ∃ i, (b.outcome read).state.installed = some i ∧ a.found.installed = some i := by
  obtain ⟨front, middle, rfl⟩ := List.append_of_mem hb
  rw [List.append_assoc, List.cons_append] at h
  obtain ⟨rest, hrest⟩ := attempts_behind h
  obtain ⟨-, -, i, hi⟩ := Attempt.installed_of_succeeds hsucceeds
  have ha : a ∈ attempts read (b.outcome read).state rest := by
    rw [← hrest]
    simp
  exact ⟨i, hi, installed_kept hi ha⟩

/-- No call succeeds before or behind one that does. -/
theorem succeeds_alone (h : attempts read st calls = before ++ a :: after) (ha : a.Succeeds read) :
    ∀ b ∈ before ++ after, ¬ b.Succeeds read := by
  intro b hb hsucceeds
  rcases List.mem_append.mp hb with hb | hb
  · obtain ⟨i, -, hfound⟩ := installed_behind h hb hsucceeds
    rw [(Attempt.installed_of_succeeds ha).1] at hfound
    cases hfound
  · obtain ⟨middle, rest, rfl⟩ := List.append_of_mem hb
    rw [← List.cons_append, ← List.append_assoc] at h
    obtain ⟨i, -, hfound⟩ := installed_behind h (List.mem_append_right _ List.mem_cons_self) ha
    rw [(Attempt.installed_of_succeeds hsucceeds).1] at hfound
    cases hfound

theorem oneLog (hi : st.installed = none) (h : attempts read st calls = before ++ a :: after) :
    OneLog read before a where
  refused := Attempt.failsOnConfig_of_refused
  opened := by
    intro hread hfails
    exact (Attempt.succeeds_or_fails (installed_before hi h hfails) hread).1
  unopened := by
    intro hread hfails
    exact (Attempt.succeeds_or_fails (installed_before hi h hfails) hread).2
  again := by
    intro b hb hsucceeds
    obtain ⟨i, hleft, hfound⟩ := installed_behind h hb hsucceeds
    refine ⟨?_, (Attempt.state_of_installed hfound).1, hfound.trans hleft.symm⟩
    intro hread
    rw [Attempt.answer, Attempt.outcome_again hread hfound]
    rfl

end

/-- In a process that starts without a log, whoever reads the filters and whatever happens to the
files between the calls: every call fares by the rule of one log, and if any call is able to install
its log then exactly one succeeds. -/
theorem installed_once {φ : Type} (read : String → Except String φ) (disk : Disk) (calls : List InstallCall) :
    (∀ before a after, attempts read { disk } calls = before ++ a :: after → OneLog read before a) ∧
      ((∃ a ∈ attempts read { disk } calls, a.Able read) ↔
        ∃ before a after, attempts read { disk } calls = before ++ a :: after ∧ a.Succeeds read ∧
          ∀ b ∈ before ++ after, ¬ b.Succeeds read) := by
  have hfresh : Logging.installed { disk } = (none : Option (Installation φ)) := rfl
  refine ⟨fun before a after h => oneLog hfresh h, ?_⟩
  constructor
  · rintro ⟨a, ha, hread, hopens⟩
    by_cases hany : ∃ b ∈ attempts read { disk } calls, b.Succeeds read
    · obtain ⟨b, hb, hsucceeds⟩ := hany
      obtain ⟨before, after, h⟩ := List.append_of_mem hb
      exact ⟨before, b, after, h, hsucceeds, succeeds_alone h hsucceeds⟩
    · -- Then the call that is able finds no log, and succeeds after all.
      obtain ⟨before, after, h⟩ := List.append_of_mem ha
      have hfails : ∀ b ∈ before, ¬ b.Succeeds read := fun b hb hsucceeds =>
        hany ⟨b, h ▸ List.mem_append_left _ hb, hsucceeds⟩
      exact absurd ⟨a, ha, ((oneLog hfresh h).opened hread hfails hopens).1⟩ hany
  · rintro ⟨before, a, after, h, hsucceeds, -⟩
    exact ⟨a, h ▸ List.mem_append_right _ List.mem_cons_self, (Attempt.installed_of_succeeds hsucceeds).2.1⟩

/-- A file cannot be opened where a directory is, and so the next call takes the log. -/
example :
    (attempts LogFilter.read { disk := { cwd := [], dirs := [["log"]], files := [] } }
      [{ settings := { file := some "log" } }, { settings := { file := some "log/a/b", format := .json } },
        { settings := {} }, { settings := { filter := "=" } }]).map (·.outcome LogFilter.read |>.result.toBool) =
      [false, true, false, false] := by
  decide +kernel

end TableKeeper
