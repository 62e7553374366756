import TableKeeper.Proofs.Descriptor

/-!
  TableKeeper.Proofs.Descriptor.Grammar — the texts that are descriptors, and of what.

  1. A text leaves a rest when the blanks around it and at most one scheme are taken off; the
     longer scheme goes before the shorter one (`Leaves`). The rest is a path, with a table
     behind its last `#`, with nothing there, or without a `#` (`Divides`).
  2. Every text leaves one rest, and a rest has one path and one table (`leaves_iff`,
     `divides_iff`). So a text is read as the parts of its rest, and is rejected exactly when
     the path is empty (`parse_eq_ok_iff`, `rejected_iff`).
  3. What is made of a path and a table is read as them, whichever scheme is in front, unless
     the path itself goes on as the scheme does (`parse_schemed`). Blanks around a text make no
     difference (`parse_around`).
-/

namespace TableKeeper.Descriptor

open Text

variable {s : String} {d : Descriptor} {path rest core lead : List Char} {table : Option String}

/-! ## Texts -/

/-- The text is the rest behind a scheme, or without one. -/
inductive Schemed (rest : List Char) : List Char → Prop
  | long : Schemed rest ("sqlite://".toList ++ rest)
  | short : ¬"//".toList <+: rest → Schemed rest ("sqlite:".toList ++ rest)
  | bare : ¬"sqlite:".toList <+: rest → Schemed rest rest

/-- The rest is the path, with the table behind its last `#`. -/
inductive Divides (path : List Char) : Option String → List Char → Prop
  | bare : '#' ∉ path → Divides path none path
  | empty : Divides path none (path ++ ['#'])
  | table {t : String} : t ≠ "" → '#' ∉ t.toList → Divides path (some t) (path ++ '#' :: t.toList)

/-- What is left of a text without the blanks around it and without its scheme. -/
def Leaves (s : String) (rest : List Char) : Prop := ∃ core, Trims core s.toList ∧ Schemed rest core

theorem withoutScheme_long (rest : List Char) : withoutScheme ("sqlite://".toList ++ rest) = rest := by
  have hlong := after?_eq_some.mpr (rfl : "sqlite://".toList ++ rest = _)
  rw [withoutScheme, hlong]
  rfl

theorem withoutScheme_short (h : ¬"//".toList <+: rest) : withoutScheme ("sqlite:".toList ++ rest) = rest := by
  have hlong : after? "sqlite://".toList ("sqlite:".toList ++ rest) = none := by
    rw [after?_eq_none]
    rintro ⟨more, hmore⟩
    have hsame : "sqlite:".toList ++ ("//".toList ++ more) = "sqlite:".toList ++ rest := hmore
    exact h ⟨more, List.append_cancel_left hsame⟩
  have hshort := after?_eq_some.mpr (rfl : "sqlite:".toList ++ rest = _)
  rw [withoutScheme, hlong, hshort]
  rfl

theorem withoutScheme_bare (h : ¬"sqlite:".toList <+: rest) : withoutScheme rest = rest := by
  have hlong : after? "sqlite://".toList rest = none := by
    rw [after?_eq_none]
    rintro ⟨more, hmore⟩
    exact h ⟨"//".toList ++ more, hmore⟩
  rw [withoutScheme, hlong, after?_eq_none.mpr h]
  rfl

theorem schemed_iff : Schemed rest core ↔ rest = withoutScheme core := by
  constructor
  · intro h
    cases h with
    | long => exact (withoutScheme_long rest).symm
    | short hnot => exact (withoutScheme_short hnot).symm
    | bare hnot => exact (withoutScheme_bare hnot).symm
  · rintro rfl
    by_cases hshort : "sqlite:".toList <+: core
    · obtain ⟨rest, rfl⟩ := hshort
      by_cases hlong : "//".toList <+: rest
      · obtain ⟨rest, rfl⟩ := hlong
        have hsame : "sqlite:".toList ++ ("//".toList ++ rest) = "sqlite://".toList ++ rest := rfl
        rw [hsame, withoutScheme_long]
        exact .long
      · rw [withoutScheme_short hlong]
        exact .short hlong
    · rw [withoutScheme_bare hshort]
      exact .bare hshort

/-- A text leaves one rest. -/
theorem leaves_iff : Leaves s rest ↔ rest = body s := by
  constructor
  · rintro ⟨core, hcore, hscheme⟩
    rw [body, ← trims_iff.mp hcore]
    exact schemed_iff.mp hscheme
  · intro h
    exact ⟨trimChars s.toList, trims_iff.mpr rfl, schemed_iff.mpr h⟩

/-- A rest has one path and one table. -/
theorem divides_iff : Divides path table rest ↔
    ∃ fragment, divided rest = (path, fragment) ∧ nonEmpty? fragment = table := by
  constructor
  · intro h
    cases h with
    | bare hnot => exact ⟨[], divided_of_notMem hnot, rfl⟩
    | empty => exact ⟨[], divided_append (by simp), rfl⟩
    | table hne hnot => exact ⟨_, divided_append hnot, nonEmpty?_eq_some.mpr ⟨rfl, hne⟩⟩
  · rintro ⟨fragment, hdivided, htable⟩
    rcases divided_cases rest with ⟨path', fragment', rfl, hnot, hparts⟩ | ⟨hnot, hparts⟩
    · obtain ⟨rfl, rfl⟩ := Prod.mk.inj (hparts.symm.trans hdivided)
      cases table with
      | none =>
        obtain rfl := nonEmpty?_eq_none.mp htable
        exact .empty
      | some t =>
        obtain ⟨rfl, hne⟩ := nonEmpty?_eq_some.mp htable
        exact .table hne hnot
    · obtain ⟨rfl, rfl⟩ := Prod.mk.inj (hparts.symm.trans hdivided)
      obtain rfl : none = table := htable
      exact .bare hnot

/-! ## Reading -/

/-- A text is read as the path and the table of its rest, unless the path is empty. -/
theorem parse_eq_ok_iff : parse s = .ok d ↔
    d.path ≠ "" ∧ ∃ rest, Leaves s rest ∧ Divides d.path.toList d.tableName rest := by
  rw [parse_eq_ok]
  constructor
  · rintro ⟨fragment, hdivided, hpath, htable⟩
    exact ⟨hpath, body s, leaves_iff.mpr rfl, divides_iff.mpr ⟨fragment, hdivided, htable⟩⟩
  · rintro ⟨hpath, rest, hleaves, hdivides⟩
    obtain ⟨fragment, hdivided, htable⟩ := divides_iff.mp hdivides
    rw [leaves_iff.mp hleaves] at hdivided
    exact ⟨fragment, hdivided, hpath, htable⟩

/-- The text is rejected as invalid input. -/
def Rejected (s : String) : Prop := ∃ e message, parse s = .error e ∧ e.error = .invalidInput message

/-- There is nothing before the last `#`, or nothing at all. -/
def Pathless (rest : List Char) : Prop := rest = [] ∨ ∃ fragment, '#' ∉ fragment ∧ rest = '#' :: fragment

theorem pathless_iff : Pathless rest ↔ (divided rest).1 = [] := by
  constructor
  · rintro (rfl | ⟨fragment, hnot, rfl⟩)
    · rfl
    · rw [← List.nil_append ('#' :: fragment), divided_append hnot]
  · intro h
    rcases divided_cases rest with ⟨path, fragment, rfl, hnot, hparts⟩ | ⟨-, hparts⟩
    · obtain rfl : path = [] := by simpa [hparts] using h
      exact .inr ⟨fragment, hnot, rfl⟩
    · exact .inl (by simpa [hparts] using h)

theorem rejected_iff : Rejected s ↔ ∃ rest, Leaves s rest ∧ Pathless rest := by
  have hleft : (∃ rest, Leaves s rest ∧ Pathless rest) ↔ Pathless (body s) := by simp [leaves_iff]
  rw [hleft, pathless_iff, ← List.isEmpty_iff]
  constructor
  · rintro ⟨e, message, herror, -⟩
    by_contra hpath
    rw [parse_eq, if_neg hpath] at herror
    cases herror
  · intro hpath
    exact ⟨_, _, by rw [parse_eq, if_pos hpath], rfl⟩

/-! ## Writing -/

theorem Divides.exists_tail (h : Divides path table rest) :
    ∃ tail, rest = path ++ tail ∧ ∀ c ∈ tail.head?, c = '#' := by
  cases h with
  | bare => exact ⟨[], by simp, by simp⟩
  | empty => exact ⟨['#'], rfl, by simp⟩
  | table => exact ⟨_, rfl, by simp⟩

/-- What begins the rest and has no `#` begins the path. -/
theorem Divides.begins (h : Divides path table rest) (hlead : '#' ∉ lead) (hbegins : lead <+: rest) :
    lead <+: path := by
  obtain ⟨tail, rfl, htail⟩ := h.exists_tail
  rcases List.prefix_or_prefix_of_prefix hbegins (List.prefix_append path tail) with hpath | ⟨more, rfl⟩
  · exact hpath
  · have hmore := (List.prefix_append_right_inj path).mp hbegins
    cases more with
    | nil => simp
    | cons c more =>
      obtain ⟨others, rfl⟩ := hmore
      obtain rfl := htail c rfl
      simp at hlead

/-- The rest may stand behind either scheme or alone, unless its path goes on as a scheme does. -/
theorem parse_schemed (hpath : d.path ≠ "") {text : String} (h : Divides d.path.toList d.tableName text.toList)
    (hends : EndsSolid text.toList) :
    parse ("sqlite://" ++ text) = .ok d ∧
      (¬"//".toList <+: d.path.toList → parse ("sqlite:" ++ text) = .ok d) ∧
      (¬"sqlite:".toList <+: d.path.toList → StartsSolid d.path.toList → parse text = .ok d) := by
  have hfront : d.path.toList ≠ [] := by simpa using hpath
  have hne : text.toList ≠ [] := by
    obtain ⟨tail, htext, -⟩ := h.exists_tail
    rw [htext]
    exact List.append_ne_nil_of_left_ne_nil hfront tail
  have hread : ∀ {s : String}, StartsSolid s.toList → EndsSolid s.toList → Schemed text.toList s.toList →
      parse s = .ok d :=
    fun hs he hscheme => parse_eq_ok_iff.mpr ⟨hpath, _, ⟨_, trims_self hs he, hscheme⟩, h⟩
  refine ⟨hread ?_ ?_ ?_, fun hnot => hread ?_ ?_ ?_, fun hnot hstarts => hread ?_ hends ?_⟩
  · rw [String.toList_append]
    exact StartsSolid.append (by decide) (by decide) _
  · rw [String.toList_append]
    exact hends.append hne _
  · rw [String.toList_append]
    exact .long
  · rw [String.toList_append]
    exact StartsSolid.append (by decide) (by decide) _
  · rw [String.toList_append]
    exact hends.append hne _
  · rw [String.toList_append]
    exact .short fun hbegins => hnot (h.begins (by decide) hbegins)
  · obtain ⟨tail, htext, -⟩ := h.exists_tail
    rw [htext]
    exact hstarts.append hfront tail
  · exact .bare fun hbegins => hnot (h.begins (by decide) hbegins)

/-- A path and a table whose end can be told when they are written. -/
structure Writable (d : Descriptor) : Prop where
  path : d.path ≠ ""
  table : ∀ t ∈ d.tableName, t ≠ "" ∧ '#' ∉ t.toList ∧ EndsSolid t.toList
  ends : d.EndsClearly

/-- The path, and the table behind a `#`. -/
def spelled (d : Descriptor) : String := d.path ++ d.tableName.elim "" ("#" ++ ·)

theorem Writable.divides (h : d.Writable) : Divides d.path.toList d.tableName d.spelled.toList := by
  obtain ⟨path, table⟩ := d
  cases table with
  | none =>
    rcases h.ends with hsome | ⟨hnot, -⟩
    · cases hsome
    · simpa [spelled] using Divides.bare hnot
  | some t =>
    obtain ⟨hne, hnot, -⟩ := h.table t rfl
    simpa [spelled] using Divides.table hne hnot

theorem Writable.solid (h : d.Writable) : EndsSolid d.spelled.toList := by
  obtain ⟨path, table⟩ := d
  cases table with
  | none =>
    rcases h.ends with hsome | ⟨-, hsolid⟩
    · cases hsome
    · simpa [spelled] using hsolid
  | some t =>
    obtain ⟨hne, -, hsolid⟩ := h.table t rfl
    have hbehind := hsolid.append (by simpa using hne) (path.toList ++ ['#'])
    simpa [spelled] using hbehind

/-- Blanks around a text leave what it is read as, and whether it is rejected. -/
theorem parse_around {before behind : String} (hbefore : ∀ c ∈ before.toList, isBlank c = true)
    (hbehind : ∀ c ∈ behind.toList, isBlank c = true) :
    (parse (before ++ s ++ behind)).toOption = (parse s).toOption := by
  have hleaves : Leaves (before ++ s ++ behind) (body s) := by
    obtain ⟨core, ⟨hstarts, hends, front, back, hfront, hback, hs⟩, hscheme⟩ := leaves_iff.mpr (rfl : body s = body s)
    refine ⟨core, ⟨hstarts, hends, before.toList ++ front, back ++ behind.toList, ?_, ?_, ?_⟩, hscheme⟩
    · intro c hc
      rcases List.mem_append.mp hc with hc | hc
      · exact hbefore c hc
      · exact hfront c hc
    · intro c hc
      rcases List.mem_append.mp hc with hc | hc
      · exact hback c hc
      · exact hbehind c hc
    · simp [hs]
  have hbody : body (before ++ s ++ behind) = body s := (leaves_iff.mp hleaves).symm
  rw [parse_eq, parse_eq, hbody]
  split <;> rfl

/-! ## All texts -/

/-- What is made of a path and a table is read as them, with either scheme or without; so is
what ends in a `#`, without a table; and blanks around a text make no difference. A text is
rejected exactly when it leaves no path, and is otherwise read as the parts that it leaves. -/
theorem descriptors_parsed :
    (∀ d : Descriptor, d.Writable →
      parse ("sqlite://" ++ d.spelled) = .ok d ∧
      (¬"//".toList <+: d.path.toList → parse ("sqlite:" ++ d.spelled) = .ok d) ∧
      (¬"sqlite:".toList <+: d.path.toList → StartsSolid d.path.toList → parse d.spelled = .ok d)) ∧
    (∀ path : String, path ≠ "" →
      parse ("sqlite://" ++ (path ++ "#")) = .ok ⟨path, none⟩ ∧
      (¬"//".toList <+: path.toList → parse ("sqlite:" ++ (path ++ "#")) = .ok ⟨path, none⟩) ∧
      (¬"sqlite:".toList <+: path.toList → StartsSolid path.toList → parse (path ++ "#") = .ok ⟨path, none⟩)) ∧
    (∀ s before behind : String, (∀ c ∈ before.toList, isBlank c = true) → (∀ c ∈ behind.toList, isBlank c = true) →
      (parse (before ++ s ++ behind)).toOption = (parse s).toOption) ∧
    ∀ s : String, (Rejected s ↔ ∃ rest, Leaves s rest ∧ Pathless rest) ∧
      (Rejected s ∨ ∃ d rest, parse s = .ok d ∧ Leaves s rest ∧ Divides d.path.toList d.tableName rest ∧
        d.path ≠ "" ∧ ∀ t ∈ d.tableName, t ≠ "" ∧ '#' ∉ t.toList) := by
  refine ⟨fun d h => parse_schemed h.path h.divides h.solid, fun path hpath => ?_,
    fun s before behind hbefore hbehind => parse_around hbefore hbehind, fun s => ⟨rejected_iff, ?_⟩⟩
  · refine parse_schemed (d := ⟨path, none⟩) hpath ?_ ?_
    · simpa using Divides.empty
    · rw [String.toList_append]
      exact EndsSolid.append (by decide) (by decide) _
  · cases hparse : parse s with
    | error e =>
      cases e with
      | noPath text => exact .inl ⟨_, _, hparse, rfl⟩
    | ok d =>
      obtain ⟨hpath, rest, hleaves, hdivides⟩ := parse_eq_ok_iff.mp hparse
      refine .inr ⟨d, rest, rfl, hleaves, hdivides, hpath, fun t ht => ?_⟩
      obtain ⟨hne, hnot, -⟩ := table_of_parse hparse ht
      exact ⟨hne, hnot⟩

/-- A path that goes on as the longer scheme does and has a `#` and blanks in it; a path that is
blank; and blanks of several kinds around a text. -/
theorem slashed_path_parsed :
    parse ("sqlite://" ++ spelled ⟨"//a#b ", some "users"⟩) = .ok ⟨"//a#b ", some "users"⟩ ∧
      parse ("sqlite:" ++ spelled ⟨"/a#", some "users"⟩) = .ok ⟨"/a#", some "users"⟩ ∧
      parse (spelled ⟨"//a", none⟩) = .ok ⟨"//a", none⟩ ∧
      parse ("sqlite:" ++ (" " ++ "#")) = .ok ⟨" ", none⟩ ∧
      (parse ("\t\u00a0" ++ "sqlite://#users" ++ "\n")).toOption = (parse "sqlite://#users").toOption := by
  have hlast : ∀ t ∈ some "users", t ≠ "" ∧ '#' ∉ t.toList ∧ EndsSolid t.toList := by
    rintro _ ⟨⟩
    decide
  obtain ⟨hparts, hempty, haround, -⟩ := descriptors_parsed
  exact ⟨(hparts ⟨"//a#b ", some "users"⟩ ⟨by decide, hlast, .inl rfl⟩).1,
    (hparts ⟨"/a#", some "users"⟩ ⟨by decide, hlast, .inl rfl⟩).2.1 (by decide),
    (hparts ⟨"//a", none⟩ ⟨by decide, nofun, .inr (by decide)⟩).2.2 (by decide) (by decide),
    (hempty " " (by decide)).2.1 (by decide),
    haround "sqlite://#users" "\t\u00a0" "\n" (by simp [isBlank]) (by simp [isBlank])⟩

end TableKeeper.Descriptor
