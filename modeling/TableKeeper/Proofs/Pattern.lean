import TableKeeper.Filter
import TableKeeper.Proofs.Text.Blank
import TableKeeper.Proofs.Text.Utf8

/-!
  TableKeeper.Proofs.Pattern — a pattern and the literals that it is read from.

  1. A literal is a slash, a body, a second slash, and flags without one. Every text is one,
     or has no slash in front, or none but that (`literal_cases`).
  2. A literal is read as its body, which may have slashes of its own, and the other texts
     are refused (`parse_eq_ok`, `refused_iff`).
  3. A search of the bytes for the last slash comes to the same body, which ends between two
     characters there (`parse_of_bytes`).
  4. All of it together, with the pattern that is read back from its own text, is
     `literals_parsed`.
-/

namespace TableKeeper.Pattern

open Text

variable {l body flags rest : String} {p : Pattern}

/-! ## Literals -/

/-- The body stands between the first slash and the last. -/
theorem parse_literal (h : '/' ∉ flags.toList) : parse ("/" ++ body ++ "/" ++ flags) = .ok ⟨body⟩ := by
  have hchars : ("/" ++ body ++ "/" ++ flags).toList = '/' :: (body.toList ++ '/' :: flags.toList) := by simp
  rw [parse, hchars]
  simp only [splitLast?_append h, String.ofList_toList]

theorem parse_unclosed (h : '/' ∉ rest.toList) : parse ("/" ++ rest) = .error (.noClosing ("/" ++ rest)) := by
  have hchars : ("/" ++ rest).toList = '/' :: rest.toList := by simp
  rw [parse, hchars]
  simp only [splitLast?_eq_none.mpr h]

theorem parse_unopened (h : l.toList.head? ≠ some '/') : parse l = .error (.noOpening l) := by
  unfold parse
  split
  · rename_i rest hl
    rw [hl] at h
    exact absurd rfl h
  · rfl

/-- A text is a literal, or it lacks the closing slash, or the opening one. -/
theorem literal_cases (l : String) :
    (∃ body flags : String, '/' ∉ flags.toList ∧ l = "/" ++ body ++ "/" ++ flags) ∨
      (∃ rest : String, '/' ∉ rest.toList ∧ l = "/" ++ rest) ∨ l.toList.head? ≠ some '/' := by
  by_cases hopen : l.toList.head? = some '/'
  · obtain ⟨cs, hl⟩ := List.head?_eq_some_iff.mp hopen
    cases hsplit : splitLast? '/' cs with
    | some parts =>
      obtain ⟨hcs, hnot⟩ := splitLast?_eq_some.mp hsplit
      refine .inl ⟨.ofList parts.1, .ofList parts.2, by rwa [String.toList_ofList], ?_⟩
      rw [← String.toList_inj, hl, hcs]
      simp
    | none =>
      refine .inr (.inl ⟨.ofList cs, by rw [String.toList_ofList]; exact splitLast?_eq_none.mp hsplit, ?_⟩)
      rw [← String.toList_inj, hl]
      simp
  · exact .inr (.inr hopen)

theorem parse_eq_ok : parse l = .ok p ↔ ∃ flags : String, '/' ∉ flags.toList ∧ l = "/" ++ p.body ++ "/" ++ flags := by
  constructor
  · intro h
    rcases literal_cases l with ⟨body, flags, hnot, rfl⟩ | ⟨rest, hnot, rfl⟩ | hunopened
    · rw [parse_literal hnot] at h
      cases h
      exact ⟨flags, hnot, rfl⟩
    · rw [parse_unclosed hnot] at h
      cases h
    · rw [parse_unopened hunopened] at h
      cases h
  · rintro ⟨flags, hnot, rfl⟩
    exact parse_literal hnot

/-- The text is refused as invalid input. -/
def Refused (l : String) : Prop := ∃ e message, parse l = .error e ∧ e.error = .invalidInput message

/-- What is refused is what is no literal. -/
theorem refused_iff : Refused l ↔ ¬∃ body flags : String, '/' ∉ flags.toList ∧ l = "/" ++ body ++ "/" ++ flags := by
  constructor
  · rintro ⟨e, message, herror, -⟩ ⟨body, flags, hnot, rfl⟩
    rw [parse_literal hnot] at herror
    cases herror
  · intro h
    rcases literal_cases l with hliteral | ⟨rest, hnot, rfl⟩ | hunopened
    · exact absurd hliteral h
    · exact ⟨_, _, parse_unclosed hnot, rfl⟩
    · exact ⟨_, _, parse_unopened hunopened, rfl⟩

/-- A literal has two slashes. -/
theorem refused_of_count (h : l.toList.count '/' ≤ 1) : Refused l := by
  refine refused_iff.mpr ?_
  rintro ⟨body, flags, -, rfl⟩
  have hcount : ("/" ++ body ++ "/" ++ flags).toList.count '/' =
      body.toList.count '/' + flags.toList.count '/' + 2 := by
    simp
    omega
  omega

theorem parse_display (p : Pattern) : parse p.display = .ok p :=
  parse_eq_ok.mpr ⟨"", by simp, by simp [display]⟩

/-! ## Bytes -/

/-- The byte of a slash. -/
def slash : UInt8 := '/'.toUInt8

/-- The bytes before the last slash are those of the body, and end where a character does. -/
theorem parse_of_bytes {before behind : List UInt8} (h : toBytes rest = before ++ slash :: behind)
    (hlast : slash ∉ behind) :
    String.Pos.Raw.IsValid rest ⟨before.length⟩ ∧ ∃ b, parse ("/" ++ rest) = .ok ⟨b⟩ ∧ toBytes b = before := by
  have hsize : ('/' : Char).utf8Size = 1 := by decide
  obtain ⟨front, back, hrest, hfront, hback⟩ := exists_cut hsize h
  have hnot : '/' ∉ back.toList := fun hmem => hlast (hback ▸ (mem_toBytes hsize).mpr hmem)
  have htext : rest = front ++ "/" ++ back := by
    rw [← String.toList_inj, hrest]
    simp
  refine ⟨isValid_of_cut hsize h, front, ?_, hfront⟩
  rw [htext, ← String.append_assoc, ← String.append_assoc]
  exact parse_literal hnot

/-! ## All literals -/

/-- A literal is read exactly as its body, whatever is no literal is refused, the bytes tell
the same, and a pattern is read back from its text. -/
theorem literals_parsed (l : String) :
    (∀ b, parse l = .ok ⟨b⟩ ↔ ∃ flags : String, '/' ∉ flags.toList ∧ l = "/" ++ b ++ "/" ++ flags) ∧
      ((¬∃ b flags : String, '/' ∉ flags.toList ∧ l = "/" ++ b ++ "/" ++ flags) → Refused l) ∧
      (l.toList.count '/' ≤ 1 → Refused l) ∧
      (∀ (rest : String) (before behind : List UInt8), l = "/" ++ rest → toBytes rest = before ++ slash :: behind →
        slash ∉ behind →
        String.Pos.Raw.IsValid rest ⟨before.length⟩ ∧ ∃ b, parse l = .ok ⟨b⟩ ∧ toBytes b = before) ∧
      ∀ b, parse (display ⟨b⟩) = .ok ⟨b⟩ := by
  refine ⟨fun b => parse_eq_ok, refused_iff.mpr, refused_of_count, ?_, fun b => parse_display ⟨b⟩⟩
  rintro rest before behind rfl hbytes hlast
  exact parse_of_bytes hbytes hlast

/-- A body of several bytes to a character that ends in a slash, and a slash that stands alone. -/
theorem accented_literal_parsed :
    (String.Pos.Raw.IsValid "é//i" ⟨3⟩ ∧ ∃ b, parse "/é//i" = .ok ⟨b⟩ ∧ toBytes b = [0xc3, 0xa9, slash]) ∧
      Refused "/" ∧ Refused "é/i" :=
  ⟨(literals_parsed "/é//i").2.2.2.1 "é//i" [0xc3, 0xa9, slash] [0x69] rfl (by decide +kernel) (by decide),
    (literals_parsed "/").2.2.1 (by decide),
    (literals_parsed "é/i").2.1 fun ⟨b, flags, _, h⟩ => by
      have hhead := congrArg (fun s : String => s.toList.head?) h
      simp at hhead⟩

end TableKeeper.Pattern
