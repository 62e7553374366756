import Mathlib.Data.List.DropRight
import TableKeeper.Text.Blank

/-!
  TableKeeper.Proofs.Text.Blank — text that is trimmed and divided.

  1. Trimming drops blanks at the front and then at the end (`trimChars_eq`), so its result
     ends in no blank (`endsSolid_trimChars`). It is what stands between the blanks of a text
     and neither starts nor ends in one (`trims_iff`).
  2. A lead is taken off exactly where a text starts with it (`after?_eq_some`), and a text is
     divided at the mark with no other behind it (`splitLast?_eq_some`).
-/

namespace TableKeeper.Text

variable {cs before behind : List Char} {c : Char}

/-! ## Trimming -/

/-- The last character, where there is one, is no blank. -/
def EndsSolid (cs : List Char) : Prop := ∀ h : cs ≠ [], isBlank (cs.getLast h) = false

instance (cs : List Char) : Decidable (EndsSolid cs) :=
  inferInstanceAs (Decidable (∀ h : cs ≠ [], isBlank (cs.getLast h) = false))

theorem trimChars_eq (cs : List Char) : trimChars cs = (cs.dropWhile isBlank).rdropWhile isBlank := rfl

theorem rdropWhile_eq_self : cs.rdropWhile isBlank = cs ↔ EndsSolid cs := by
  rw [List.rdropWhile_eq_self_iff]
  exact forall_congr' fun _ => iff_of_eq (Bool.not_eq_true _)

theorem endsSolid_trimChars (cs : List Char) : EndsSolid (trimChars cs) :=
  rdropWhile_eq_self.mp (List.rdropWhile_idempotent isBlank _)

/-- What ends in no blank may be cut in two, and the second part still does. -/
theorem EndsSolid.of_append (h : EndsSolid (before ++ behind)) : EndsSolid behind := by
  intro hne
  have hlast := h (List.append_ne_nil_of_right_ne_nil before hne)
  rwa [List.getLast_append_of_ne_nil _ hne] at hlast

theorem EndsSolid.append (h : EndsSolid behind) (hne : behind ≠ []) (before : List Char) :
    EndsSolid (before ++ behind) := by
  intro happend
  rw [List.getLast_append_of_ne_nil happend hne]
  exact h hne

/-- Blanks are dropped from the end up to a solid part. -/
theorem rdropWhile_append (h : EndsSolid before) (behind : List Char) :
    (before ++ behind).rdropWhile isBlank = before ++ behind.rdropWhile isBlank := by
  induction behind using List.reverseRecOn with
  | nil => rw [List.append_nil, List.rdropWhile_nil, List.append_nil, rdropWhile_eq_self.mpr h]
  | append_singleton cs c ih =>
    rw [← List.append_assoc, List.rdropWhile_concat, List.rdropWhile_concat, ih]
    split <;> simp

/-- The first character, where there is one, is no blank. -/
def StartsSolid (cs : List Char) : Prop := cs.head?.any isBlank = false

instance (cs : List Char) : Decidable (StartsSolid cs) := inferInstanceAs (Decidable (_ = false))

theorem StartsSolid.append (h : StartsSolid before) (hne : before ≠ []) (behind : List Char) :
    StartsSolid (before ++ behind) := by
  obtain ⟨c, cs, rfl⟩ := List.exists_cons_of_ne_nil hne
  exact h

/-- The text is what is left of another one between the blanks around it. -/
structure Trims (core text : List Char) : Prop where
  starts : StartsSolid core
  ends : EndsSolid core
  around : ∃ before behind : List Char, (∀ c ∈ before, isBlank c = true) ∧ (∀ c ∈ behind, isBlank c = true) ∧
    text = before ++ core ++ behind

theorem trims_self (hstarts : StartsSolid cs) (hends : EndsSolid cs) : Trims cs cs :=
  ⟨hstarts, hends, [], [], by simp, by simp, by simp⟩

theorem dropWhile_eq_self (h : StartsSolid cs) : cs.dropWhile isBlank = cs := by
  cases cs with
  | nil => rfl
  | cons c cs => exact List.dropWhile_cons_of_neg (by simpa [StartsSolid] using h)

/-- Nothing else is left. -/
theorem trims_iff {core text : List Char} : Trims core text ↔ core = trimChars text := by
  rw [trimChars_eq]
  constructor
  · rintro ⟨hstarts, hends, before, behind, hbefore, hbehind, rfl⟩
    have hblank : behind.rdropWhile isBlank = [] := List.rdropWhile_eq_nil_iff.mpr hbehind
    rw [List.append_assoc, List.dropWhile_append_of_pos hbefore]
    by_cases hcore : core = []
    · subst hcore
      have hnothing : behind.dropWhile isBlank = [] := List.dropWhile_eq_nil_iff.mpr hbehind
      rw [List.nil_append, hnothing, List.rdropWhile_nil]
    · rw [dropWhile_eq_self (hstarts.append hcore behind), rdropWhile_append hends, hblank, List.append_nil]
  · rintro rfl
    refine ⟨?_, endsSolid_trimChars text, text.takeWhile isBlank, (text.dropWhile isBlank).rtakeWhile isBlank,
      fun c hc => List.mem_takeWhile_imp hc, fun c hc => List.mem_rtakeWhile_imp hc, ?_⟩
    · obtain ⟨behind, hprefix⟩ := List.rdropWhile_prefix isBlank (text.dropWhile isBlank)
      have hnot := List.head?_dropWhile_not isBlank text
      rw [← hprefix] at hnot
      cases hcore : (text.dropWhile isBlank).rdropWhile isBlank with
      | nil => rfl
      | cons c core =>
        rw [hcore] at hnot
        simpa [StartsSolid] using hnot
    · rw [List.append_assoc, List.rdropWhile_append_rtakeWhile, List.takeWhile_append_dropWhile]

/-! ## Dividing -/

theorem after?_eq_some {lead text rest : List Char} : after? lead text = some rest ↔ text = lead ++ rest := by
  induction lead generalizing text with
  | nil => rw [after?, Option.some.injEq, List.nil_append]
  | cons a lead ih =>
    cases text with
    | nil => simp [after?]
    | cons b text =>
      by_cases hab : a = b
      · simp [after?, hab, ih]
      · simp [after?, hab, Ne.symm hab]

theorem after?_eq_none {lead text : List Char} : after? lead text = none ↔ ¬lead <+: text := by
  rw [Option.eq_none_iff_forall_ne_some]
  constructor
  · rintro h ⟨rest, rfl⟩
    exact h rest (after?_eq_some.mpr rfl)
  · intro h rest hrest
    exact h ⟨rest, (after?_eq_some.mp hrest).symm⟩

theorem splitLast?_eq_none : splitLast? c cs = none ↔ c ∉ cs := by
  induction cs with
  | nil => simp [splitLast?]
  | cons x cs ih =>
    cases hrest : splitLast? c cs with
    | none =>
      have hcs : c ∉ cs := ih.mp hrest
      simp [splitLast?, hrest, hcs, eq_comm]
    | some parts =>
      have hcs : c ∈ cs := Decidable.not_not.mp fun hnot => by rw [ih.mpr hnot] at hrest; cases hrest
      simp [splitLast?, hrest, hcs]

theorem splitLast?_append (h : c ∉ behind) (before : List Char) :
    splitLast? c (before ++ c :: behind) = some (before, behind) := by
  induction before with
  | nil => rw [List.nil_append, splitLast?, splitLast?_eq_none.mpr h, if_pos rfl]
  | cons x before ih => rw [List.cons_append, splitLast?, ih]

/-- A text is divided at its last mark. -/
theorem splitLast?_eq_some : splitLast? c cs = some (before, behind) ↔ cs = before ++ c :: behind ∧ c ∉ behind := by
  constructor
  · intro h
    induction cs generalizing before with
    | nil => cases h
    | cons x cs ih =>
      cases hrest : splitLast? c cs with
      | none =>
        simp only [splitLast?, hrest, Option.ite_none_right_eq_some, Option.some.injEq, Prod.mk.injEq] at h
        obtain ⟨rfl, rfl, rfl⟩ := h
        exact ⟨rfl, splitLast?_eq_none.mp hrest⟩
      | some parts =>
        obtain ⟨front, back⟩ := parts
        simp only [splitLast?, hrest, Option.some.injEq, Prod.mk.injEq] at h
        obtain ⟨rfl, rfl⟩ := h
        obtain ⟨rfl, hnot⟩ := ih hrest
        exact ⟨rfl, hnot⟩
  · rintro ⟨rfl, h⟩
    exact splitLast?_append h before

end TableKeeper.Text
