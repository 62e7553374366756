import TableKeeper.Engine.Evaluate
import TableKeeper.Proofs.Engine.Comparing
import TableKeeper.Proofs.Sql.Meaning
import TableKeeper.Proofs.Sql.Numerals

/-!
  TableKeeper.Proofs.Engine.Literals — what the literal of a value is compared as.

  Beside a column, a literal is converted by the affinity of the column, and what it comes to
  may not be what the value itself comes to. A number beside a column without affinity is one
  thing and its text another; the text of a real that is written out is not always the text
  that the database has for it, nor always read back as the real. For all other values the
  literal may stand for the value, and for no value but these (`isFaithful_iff`).
-/

namespace TableKeeper.Engine

open Number Sql

namespace Affinity

/-- The text of a real, read as a number, is equal to the real. -/
def readsBack (x : Binary64) : Bool :=
  match Numeric.ofText? x.display with
  | some n => compareValues .binary (ofNumeric n) (.real x) == .eq
  | none => false

/-- Beside a column of this affinity, the literal of the value is compared as the value is. -/
def isFaithful (a : Affinity) : Value → Bool
  | .integer _ => a != .absent && a != .blob
  | .real x =>
    !x.isNaN &&
      match a with
      | .absent | .blob => false
      | .text => x.display == x.stored
      | .numeric | .integer | .real => readsBack x
  | .null | .text _ | .blob _ => true

variable {a : Affinity} {v : Value} {x : Binary64}

theorem numberOf_text (s : String) : numberOf (.text s) = ((Numeric.ofText? s).map ofNumeric).getD (.text s) := by
  simp only [numberOf]
  cases Numeric.ofText? s <;> rfl

/-- Whatever a faithful value is compared with, its literal may stand for it. -/
theorem sameValue_literal (h : a.isFaithful v = true) (c : Collation) (w : Value) :
    sameValue c w (a.compared (literalValue v)) = sameValue c w (a.compared (bindValue v)) := by
  cases v with
  | null => rfl
  | text s => rfl
  | blob bytes => rfl
  | integer n =>
    have hread : numberOf (.text (toString n.toInt)) = .integer n := by
      rw [numberOf_text, ofText?_toString]
      rfl
    cases a with
    | absent => cases h
    | blob => cases h
    | text => rfl
    | numeric => exact congrArg (sameValue c w) hread
    | integer => exact congrArg (sameValue c w) hread
    | real => exact congrArg (sameValue c w) hread
  | real x =>
    simp only [isFaithful, Bool.and_eq_true, Bool.not_eq_true'] at h
    obtain ⟨hnumber, h⟩ := h
    have hbind : bindValue (.real x) = .real x := by simp [bindValue, hnumber]
    have hread : readsBack x = true → sameValue c w (numberOf (.text x.display)) = sameValue c w (.real x) := by
      intro h
      unfold readsBack at h
      cases hn : Numeric.ofText? x.display with
      | none => simp [hn] at h
      | some n =>
        rw [hn] at h
        rw [numberOf_text, hn]
        exact sameValue_numbers (n := .real x) (beq_iff_eq.mp h) c w
    rw [hbind]
    cases a with
    | absent => cases h
    | blob => cases h
    | text =>
      show sameValue c w (.text x.display) = sameValue c w (.text x.stored)
      rw [beq_iff_eq.mp h]
    | numeric => exact hread h
    | integer => exact hread h
    | real => exact hread h

/-! ### No other values -/

theorem sameValue_numbers_iff (m n : Numeric) :
    sameValue .binary (ofNumeric m) (ofNumeric n) = true ↔ placeOf m = placeOf n := by
  rw [← compareValues_numbers .binary]
  cases m <;> cases n <;> simp [sameValue, ofNumeric, Value.isNull]

/-- A NaN is kept as null, and its literal is a text. -/
theorem compared_nan (h : x.isNaN = true) :
    a.compared (literalValue (.real x)) = .text "NaN" ∧ a.compared (bindValue (.real x)) = .null := by
  have hdisplay : x.display = "NaN" := by
    rw [Binary64.display, Layout.text, if_pos h]
    rfl
  have hword : Numeric.ofText? "NaN" = none := by decide
  constructor
  · show a.compared (.text x.display) = _
    rw [hdisplay]
    cases a <;> simp [compared, numberText, numberOf_text, hword]
  · rw [bindValue, if_pos h]
    cases a <;> rfl

/-- A real that is equal to what its text is read as is read back. -/
theorem readsBack_of_same (h : sameValue .binary (.real x) (numberOf (.text x.display)) = true) :
    readsBack x = true := by
  rw [numberOf_text] at h
  unfold readsBack
  cases hn : Numeric.ofText? x.display with
  | none => simp [hn, sameValue_right] at h
  | some n =>
    rw [hn] at h
    have hplace := (sameValue_numbers_iff (.real x) n).mp h
    exact beq_iff_eq.mpr ((compareValues_numbers .binary n (.real x)).mpr hplace.symm)

/-- A value that its literal may always stand for is faithful. -/
theorem isFaithful_of_same
    (h : ∀ w, sameValue .binary w (a.compared (literalValue v)) = sameValue .binary w (a.compared (bindValue v))) :
    a.isFaithful v = true := by
  cases v with
  | null => rfl
  | text s => rfl
  | blob bytes => rfl
  | integer n =>
    -- The integer is equal to itself, and to no text.
    have hself : sameValue .binary (.integer n) (.integer n) = true :=
      (sameValue_numbers_iff (.integer n) (.integer n)).mpr rfl
    have hplain : sameValue .binary (.integer n) (.text (toString n.toInt)) ≠ sameValue .binary (.integer n) (.integer n) := by
      simp [hself, sameValue_right]
    cases a with
    | absent => exact absurd (h (.integer n)) hplain
    | blob => exact absurd (h (.integer n)) hplain
    | _ => rfl
  | real x =>
    cases hnan : x.isNaN with
    | true =>
      have hsame := h (.text "NaN")
      rw [(compared_nan hnan).1, (compared_nan hnan).2] at hsame
      exact absurd hsame (by decide)
    | false =>
      have hbind : bindValue (.real x) = .real x := by simp [bindValue, hnan]
      rw [hbind] at h
      simp only [isFaithful, hnan, Bool.not_false, Bool.true_and]
      have hself : sameValue .binary (.real x) (.real x) = true := (sameValue_numbers_iff (.real x) (.real x)).mpr rfl
      have hplain : sameValue .binary (.real x) (.text x.display) ≠ sameValue .binary (.real x) (.real x) := by
        simp [hself, sameValue_right]
      cases a with
      | absent => exact absurd (h (.real x)) hplain
      | blob => exact absurd (h (.real x)) hplain
      | text =>
        have hsame : sameValue .binary (.text x.stored) (.text x.display) = true :=
          (h (.text x.stored)).trans ((sameValue_right _ _).mpr rfl)
        exact beq_iff_eq.mpr (Value.text.inj ((sameValue_right _ _).mp hsame)).symm
      | numeric => exact readsBack_of_same ((h (.real x)).trans hself)
      | integer => exact readsBack_of_same ((h (.real x)).trans hself)
      | real => exact readsBack_of_same ((h (.real x)).trans hself)

/-- The values whose literals may stand for them. -/
theorem isFaithful_iff : a.isFaithful v = true ↔
    ∀ c w, sameValue c w (a.compared (literalValue v)) = sameValue c w (a.compared (bindValue v)) :=
  ⟨sameValue_literal, fun h => isFaithful_of_same (h .binary)⟩

end Affinity

end TableKeeper.Engine
