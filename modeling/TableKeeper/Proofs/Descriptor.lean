import TableKeeper.Descriptor
import TableKeeper.Proofs.Text.Blank

/-!
  TableKeeper.Proofs.Descriptor — a descriptor and the text that it is written as.

  1. What is divided into path and table is the text without its scheme and without blanks
     around it; a descriptor is read exactly from such parts (`parse_eq_ok`).
  2. A written descriptor is its path and its fragment behind the scheme, and reading drops the
     blanks at the end (`body_display`). With a table that is nothing, since a table that was
     read ends in no blank and has no `#` (`table_of_parse`).
  3. Without a table the path is the end of the text. It is read back exactly where it has no
     `#` and no blank at its end (`parse_display_iff`); an empty table lets other paths through
     (`unreadable_paths`).
-/

namespace TableKeeper.Descriptor

open Text

variable {s : String} {d : Descriptor}

/-! ## Reading -/

/-- What is left of a text to be divided into path and table. -/
def body (s : String) : List Char := withoutScheme (trimChars s.toList)

/-- The path, and the fragment behind the last `#`. -/
def divided (body : List Char) : List Char × List Char := (splitLast? '#' body).getD (body, [])

theorem nonEmpty?_eq_none {cs : List Char} : nonEmpty? cs = none ↔ cs = [] := by
  cases cs <;> simp [nonEmpty?]

theorem nonEmpty?_eq_some {cs : List Char} {t : String} : nonEmpty? cs = some t ↔ cs = t.toList ∧ t ≠ "" := by
  cases cs with
  | nil =>
    constructor
    · intro h
      cases h
    · rintro ⟨h, hne⟩
      exact absurd (String.toList_eq_nil_iff.mp h.symm) hne
  | cons c cs =>
    have hne : String.ofList (c :: cs) ≠ "" := by simp
    simp only [nonEmpty?, List.isEmpty_cons, Bool.false_eq_true, if_false, Option.some.injEq]
    constructor
    · rintro rfl
      exact ⟨(String.toList_ofList).symm, hne⟩
    · rintro ⟨h, -⟩
      rw [h, String.ofList_toList]

theorem parse_eq (s : String) : parse s = if (divided (body s)).1.isEmpty then .error (.noPath s)
    else .ok ⟨.ofList (divided (body s)).1, nonEmpty? (divided (body s)).2⟩ := rfl

/-- A descriptor is read from a body that is divided into its path and the text of its table. -/
theorem parse_eq_ok : parse s = .ok d ↔
    ∃ fragment, divided (body s) = (d.path.toList, fragment) ∧ d.path ≠ "" ∧ nonEmpty? fragment = d.tableName := by
  obtain ⟨path, table⟩ := d
  rw [parse_eq]
  obtain ⟨front, fragment⟩ := divided (body s)
  constructor
  · intro h
    split at h
    · cases h
    · rename_i hfront
      cases h
      refine ⟨fragment, by rw [String.toList_ofList], fun hempty => hfront ?_, rfl⟩
      simpa using hempty
  · rintro ⟨fragment', hdivided, hpath, htable⟩
    obtain ⟨rfl, rfl⟩ := Prod.mk.inj hdivided
    have hfront : ¬ path.toList.isEmpty = true := by simpa using hpath
    rw [if_neg hfront, String.ofList_toList, htable]

theorem divided_of_notMem {cs : List Char} (h : '#' ∉ cs) : divided cs = (cs, []) := by
  rw [divided, splitLast?_eq_none.mpr h]
  rfl

theorem divided_append {path fragment : List Char} (h : '#' ∉ fragment) :
    divided (path ++ '#' :: fragment) = (path, fragment) := by
  rw [divided, splitLast?_append h]
  rfl

theorem divided_cases (cs : List Char) :
    (∃ path fragment, cs = path ++ '#' :: fragment ∧ '#' ∉ fragment ∧ divided cs = (path, fragment)) ∨
      '#' ∉ cs ∧ divided cs = (cs, []) := by
  cases h : splitLast? '#' cs with
  | none => exact .inr ⟨splitLast?_eq_none.mp h, by rw [divided, h]; rfl⟩
  | some parts =>
    obtain ⟨hcs, hnot⟩ := splitLast?_eq_some.mp h
    exact .inl ⟨parts.1, parts.2, hcs, hnot, by rw [divided, h]; rfl⟩

/-- No blank is left at the end of a body. -/
theorem endsSolid_body (s : String) : EndsSolid (body s) := by
  have htrimmed := endsSolid_trimChars s.toList
  have hrest : ∀ {lead rest : List Char}, after? lead (trimChars s.toList) = some rest → EndsSolid rest := fun h =>
    EndsSolid.of_append (after?_eq_some.mp h ▸ htrimmed)
  unfold body withoutScheme
  cases hlong : after? "sqlite://".toList (trimChars s.toList) with
  | some rest => exact hrest hlong
  | none =>
    cases hshort : after? "sqlite:".toList (trimChars s.toList) with
    | some rest => exact hrest hshort
    | none => exact htrimmed

/-- A table that was read has characters, none of them a `#`, and no blank at its end. -/
theorem table_of_parse (h : parse s = .ok d) {t : String} (ht : d.tableName = some t) :
    t ≠ "" ∧ '#' ∉ t.toList ∧ EndsSolid t.toList := by
  obtain ⟨fragment, hdivided, -, htable⟩ := parse_eq_ok.mp h
  obtain ⟨rfl, hne⟩ := nonEmpty?_eq_some.mp (htable.trans ht)
  rcases divided_cases (body s) with ⟨path, fragment, hbody, hnot, hparts⟩ | ⟨-, hparts⟩
  · obtain ⟨-, rfl⟩ := Prod.mk.inj (hparts.symm.trans hdivided)
    have hsolid := endsSolid_body s
    rw [hbody, List.append_cons] at hsolid
    exact ⟨hne, hnot, hsolid.of_append⟩
  · have hempty := (Prod.mk.inj (hparts.symm.trans hdivided)).2
    exact absurd (by simpa using hempty.symm) hne

/-! ## Writing -/

/-- What is written behind the path. -/
def fragmentText (table : Option String) : List Char := (table.map ('#' :: ·.toList)).getD []

/-- A written descriptor is read without its scheme and without blanks at its end. -/
theorem body_display (d : Descriptor) :
    body d.display = (d.path.toList ++ fragmentText d.tableName).rdropWhile isBlank := by
  have hchars : d.display.toList = "sqlite://".toList ++ (d.path.toList ++ fragmentText d.tableName) := by
    unfold display fragmentText
    cases d.tableName <;> simp
  have hscheme : EndsSolid "sqlite://".toList := by decide
  have htrimmed : trimChars d.display.toList =
      "sqlite://".toList ++ (d.path.toList ++ fragmentText d.tableName).rdropWhile isBlank := by
    rw [trimChars_eq, hchars, ← rdropWhile_append hscheme]
    rfl
  unfold body withoutScheme
  rw [htrimmed, after?_eq_some.mpr rfl]
  rfl

/-- The end of the path can be told: a table is behind it, or it is neither blank nor followed
by something that looks like a table. -/
def EndsClearly (d : Descriptor) : Prop := d.tableName.isSome ∨ '#' ∉ d.path.toList ∧ EndsSolid d.path.toList

/-- A descriptor that was read is read back from its text exactly where the end of its path can
be told. -/
theorem parse_display_iff (h : parse s = .ok d) : parse d.display = .ok d ↔ d.EndsClearly := by
  obtain ⟨-, -, hpath, -⟩ := parse_eq_ok.mp h
  unfold EndsClearly
  rw [parse_eq_ok, body_display]
  cases htable : d.tableName with
  | some t =>
    obtain ⟨hne, hnot, hsolid⟩ := table_of_parse h htable
    have hnonempty : t.toList ≠ [] := by simpa using hne
    have hend : EndsSolid (d.path.toList ++ '#' :: t.toList) := by
      rw [List.append_cons]
      exact hsolid.append hnonempty _
    have htext : fragmentText (some t) = '#' :: t.toList := rfl
    rw [htext, rdropWhile_eq_self.mpr hend, divided_append hnot]
    exact ⟨fun _ => .inl rfl, fun _ => ⟨t.toList, rfl, hpath, nonEmpty?_eq_some.mpr ⟨rfl, hne⟩⟩⟩
  | none =>
    have htext : fragmentText none = [] := rfl
    rw [htext, List.append_nil]
    constructor
    · rintro ⟨fragment, hdivided, -, hempty⟩
      obtain rfl := nonEmpty?_eq_none.mp hempty
      rcases divided_cases (d.path.toList.rdropWhile isBlank) with ⟨path, fragment, hbody, -, hparts⟩ | ⟨hnot, hparts⟩
      · -- The path would be longer than the text that it is read from.
        obtain ⟨rfl, rfl⟩ := Prod.mk.inj (hparts.symm.trans hdivided)
        have hlength := (List.rdropWhile_prefix isBlank d.path.toList).length_le
        rw [hbody, List.length_append, List.length_singleton] at hlength
        omega
      · have hsame := (Prod.mk.inj (hparts.symm.trans hdivided)).1
        exact .inr ⟨hsame ▸ hnot, rdropWhile_eq_self.mp hsame⟩
    · rintro (hsome | ⟨hnot, hsolid⟩)
      · cases hsome
      · rw [rdropWhile_eq_self.mpr hsolid, divided_of_notMem hnot]
        exact ⟨[], rfl, hpath, rfl⟩

/-- A path that looks like a descriptor itself, with blanks and marks inside, is read back. -/
theorem nested_descriptor_read_back :
    parse "\t sqlite:sqlite://a b#c # #users\n" = .ok ⟨"sqlite://a b#c # ", some "users"⟩ ∧
      parse (display ⟨"sqlite://a b#c # ", some "users"⟩) = .ok ⟨"sqlite://a b#c # ", some "users"⟩ := by
  have hread : parse "\t sqlite:sqlite://a b#c # #users\n" = .ok ⟨"sqlite://a b#c # ", some "users"⟩ := by decide
  exact ⟨hread, (parse_display_iff hread).mpr (.inl rfl)⟩

/-- An empty table lets a path through that is read back as another path, as a path with a
table, or not at all. -/
theorem unreadable_paths :
    (parse "a#b#" = .ok ⟨"a#b", none⟩ ∧ parse (display ⟨"a#b", none⟩) = .ok ⟨"a", some "b"⟩) ∧
    (parse "a #" = .ok ⟨"a ", none⟩ ∧ parse (display ⟨"a ", none⟩) = .ok ⟨"a", none⟩) ∧
    (parse "sqlite:// #" = .ok ⟨" ", none⟩ ∧ parse (display ⟨" ", none⟩) = .error (.noPath "sqlite:// ")) := by
  decide

end TableKeeper.Descriptor
