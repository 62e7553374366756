import TableKeeper.OrderedMap

/-!
  TableKeeper.Proofs.OrderedMap — what is in a map, and what one insertion or removal does.

  1. A name finds its entry.
  2. An insertion puts the value in the place of the old one or at the end, a removal takes one
     entry out, and both give back what was there (`steady`).
  3. Size, names, values and single values are all read off the entries (`views`).
-/

namespace TableKeeper.OrderedMap

variable {α : Type}

theorem findEntry?_eq_some {name : String} {a : α} {es : List (String × α)} (h : (es.map (·.1)).Nodup) :
    findEntry? name es = some a ↔ (name, a) ∈ es := by
  induction es with
  | nil => simp [ findEntry?]
  | cons e es ih =>
    obtain ⟨hne, hes⟩ := List.nodup_cons.mp h
    by_cases he : e.1 = name
    · rw [ findEntry?, if_pos he]
      constructor
      · rintro ⟨⟩
        exact he ▸ List.mem_cons_self
      · intro hm
        rcases List.mem_cons.mp hm with heq | hm
        · rw [← heq]
        · exact absurd (List.mem_map.mpr ⟨_, hm, he.symm⟩) hne
    · have hnot : (name, a) ≠ e := fun hm => he (hm ▸ rfl)
      simp only [ findEntry?, if_neg he, ih hes, List.mem_cons, hnot, false_or]

theorem get?_eq_some {m : OrderedMap α} {name : String} {a : α} : m.get? name = some a ↔ (name, a) ∈ m.entries :=
  findEntry?_eq_some m.distinct

theorem get?_of_mem {m : OrderedMap α} {e : String × α} (h : e ∈ m.entries) : m.get? e.1 = some e.2 :=
  get?_eq_some.mpr h

theorem findEntry?_eq_none {name : String} {es : List (String × α)} :
    findEntry? name es = none ↔ name ∉ es.map (·.1) := by
  induction es with
  | nil => simp [ findEntry?]
  | cons e es ih =>
    by_cases he : e.1 = name
    · simp [ findEntry?, he]
    · simp [ findEntry?, he, Ne.symm he, ih]

theorem get?_eq_none {m : OrderedMap α} {name : String} : m.get? name = none ↔ name ∉ m.names := findEntry?_eq_none

theorem findEntry?_putEntry (name other : String) (a : α) (es : List (String × α)) :
    findEntry? other (putEntry name a es) = if other = name then some a else findEntry? other es := by
  induction es with
  | nil => simp [putEntry, findEntry?, eq_comm]
  | cons e es ih =>
    by_cases he : e.1 = name
    · rw [putEntry, if_pos he]
      by_cases ho : other = name
      · simp [ findEntry?, ho]
      · simp [ findEntry?, ho, Ne.symm ho, he]
    · rw [putEntry, if_neg he]
      by_cases ho : e.1 = other
      · have hne : other ≠ name := fun h => he (ho.trans h)
        simp [ findEntry?, ho, hne]
      · simp [ findEntry?, ho, ih]

theorem get?_put (m : OrderedMap α) (name other : String) (a : α) :
    (m.put name a).get? other = if other = name then some a else m.get? other :=
  findEntry?_putEntry name other a m.entries

theorem mem_names_put {m : OrderedMap α} {name other : String} {a : α} (h : other ∈ (m.put name a).names) :
    other ∈ m.names ∨ other = name := by
  rw [names, put, names_putEntry] at h
  split at h
  · exact .inl h
  · rcases List.mem_append.mp h with h | h
    · exact .inl h
    · exact .inr (List.mem_singleton.mp h)

/-- The first entry of a name is its only one. -/
theorem lookup_entries (m : OrderedMap α) (name : String) : m.entries.lookup name = m.get? name := by
  have hlookup : ∀ es : List (String × α), es.lookup name = findEntry? name es := by
    intro es
    induction es with
    | nil => rfl
    | cons e es ih =>
      obtain ⟨n, a⟩ := e
      by_cases hn : n = name
      · simp [ findEntry?, hn]
      · have hne : (name == n) = false := by simpa using Ne.symm hn
        simp [List.lookup_cons, findEntry?, hn, hne, ih]
  exact hlookup m.entries

theorem entries_ne {m : OrderedMap α} {name : String} {a : α} (h : m.get? name = some a) : m.entries ≠ [] :=
  List.ne_nil_of_mem (get?_eq_some.mp h)

theorem length_names (m : OrderedMap α) : m.names.length = m.values.length := by simp [names, values]

theorem zip_names_values (m : OrderedMap α) : m.names.zip m.values = m.entries := (List.zip_of_prod rfl rfl).symm

/-! ## One insertion, one removal -/

section Cut

variable {name : String} {old : α} {before after : List (String × α)}

theorem findEntry?_append (h : name ∉ before.map (·.1)) :
    findEntry? name (before ++ (name, old) :: after) = some old := by
  induction before with
  | nil => simp [ findEntry?]
  | cons e before ih =>
    obtain ⟨hne, hbefore⟩ := not_or.mp (mt List.mem_cons.mpr h)
    rw [List.cons_append, findEntry?, if_neg (Ne.symm hne), ih hbefore]

theorem putEntry_append (a : α) (h : name ∉ before.map (·.1)) :
    putEntry name a (before ++ (name, old) :: after) = before ++ (name, a) :: after := by
  induction before with
  | nil => simp [putEntry]
  | cons e before ih =>
    obtain ⟨hne, hbefore⟩ := not_or.mp (mt List.mem_cons.mpr h)
    rw [List.cons_append, putEntry, if_neg (Ne.symm hne), ih hbefore, List.cons_append]

theorem eraseEntry_append (h : name ∉ before.map (·.1)) :
    eraseEntry name (before ++ (name, old) :: after) = before ++ after := by
  induction before with
  | nil => simp [eraseEntry]
  | cons e before ih =>
    obtain ⟨hne, hbefore⟩ := not_or.mp (mt List.mem_cons.mpr h)
    rw [List.cons_append, eraseEntry, if_neg (Ne.symm hne), ih hbefore, List.cons_append]

end Cut

theorem putEntry_of_notMem {name : String} (a : α) {es : List (String × α)} (h : name ∉ es.map (·.1)) :
    putEntry name a es = es ++ [(name, a)] := by
  induction es with
  | nil => rfl
  | cons e es ih =>
    obtain ⟨hne, hes⟩ := not_or.mp (mt List.mem_cons.mpr h)
    rw [putEntry, if_neg (Ne.symm hne), ih hes, List.cons_append]

theorem eraseEntry_of_notMem {name : String} {es : List (String × α)} (h : name ∉ es.map (·.1)) :
    eraseEntry name es = es := by
  induction es with
  | nil => rfl
  | cons e es ih =>
    obtain ⟨hne, hes⟩ := not_or.mp (mt List.mem_cons.mpr h)
    rw [eraseEntry, if_neg (Ne.symm hne), ih hes]

/-- Entries with names of their own are put behind those that are there. -/
theorem entries_foldl_put {es : List (String × α)} {m : OrderedMap α}
    (h : ((m.entries ++ es).map (·.1)).Nodup) :
    (es.foldl (fun m e => m.put e.1 e.2) m).entries = m.entries ++ es := by
  induction es generalizing m with
  | nil => rw [List.foldl_nil, List.append_nil]
  | cons e es ih =>
    have hnew : e.1 ∉ m.entries.map (·.1) := by
      rw [List.map_append, List.nodup_append] at h
      exact fun hmem => h.2.2 e.1 hmem e.1 List.mem_cons_self rfl
    have hput : (m.put e.1 e.2).entries = m.entries ++ [e] := putEntry_of_notMem e.2 hnew
    have hnext : (((m.put e.1 e.2).entries ++ es).map (·.1)).Nodup := by
      rw [hput, List.append_assoc]
      exact h
    rw [List.foldl_cons, ih hnext, hput, List.append_assoc]
    rfl

/-- A map is made again from its entries. -/
theorem ofList_entries (m : OrderedMap α) : ofList m.entries = m :=
  ext (entries_foldl_put (m := empty) m.distinct)

/-- No entry in front of one has its name. -/
theorem notMem_before {m : OrderedMap α} {name : String} {a : α} {before after : List (String × α)}
    (h : m.entries = before ++ (name, a) :: after) : name ∉ before.map (·.1) := by
  have hdistinct := m.distinct
  rw [h, List.map_append, List.nodup_append] at hdistinct
  exact fun hmem => hdistinct.2.2 name hmem name List.mem_cons_self rfl

/-- An insertion and a removal touch one entry, and give back its value. -/
structure Steady (m : OrderedMap α) : Prop where
  replaced : ∀ name old a before after, m.entries = before ++ (name, old) :: after →
    (m.insert name a).1 = some old ∧ (m.insert name a).2.entries = before ++ (name, a) :: after
  appended : ∀ name a, name ∉ m.names →
    (m.insert name a).1 = none ∧ (m.insert name a).2.entries = m.entries ++ [(name, a)]
  removed : ∀ name old before after, m.entries = before ++ (name, old) :: after →
    (m.remove name).1 = some old ∧ (m.remove name).2.entries = before ++ after
  unchanged : ∀ name, name ∉ m.names → (m.remove name).1 = none ∧ (m.remove name).2 = m

theorem steady (m : OrderedMap α) : m.Steady where
  replaced name old a before after h := by
    rw [insert_eq]
    have hbefore := notMem_before h
    constructor
    · show findEntry? name m.entries = some old
      rw [h, findEntry?_append hbefore]
    · show putEntry name a m.entries = before ++ (name, a) :: after
      rw [h, putEntry_append a hbefore]
  appended name a h := by
    rw [insert_eq]
    exact ⟨get?_eq_none.mpr h, putEntry_of_notMem a h⟩
  removed name old before after h := by
    rw [remove_eq]
    have hbefore := notMem_before h
    constructor
    · show findEntry? name m.entries = some old
      rw [h, findEntry?_append hbefore]
    · show eraseEntry name m.entries = before ++ after
      rw [h, eraseEntry_append hbefore]
  unchanged name h := by
    rw [remove_eq]
    exact ⟨get?_eq_none.mpr h, ext (eraseEntry_of_notMem h)⟩

/-- All that a map shows of itself is read off its entries. -/
structure Views (m : OrderedMap α) : Prop where
  size : m.size = m.entries.length
  isEmpty : m.isEmpty = true ↔ m.entries = []
  get : ∀ name a, m.get? name = some a ↔ (name, a) ∈ m.entries
  contains : ∀ name, m.contains name = true ↔ name ∈ m.names
  parts : m.parts = (m.names, m.values)
  entries : m.names.zip m.values = m.entries
  aligned : m.names.length = m.values.length

theorem views (m : OrderedMap α) : m.Views where
  size := rfl
  isEmpty := List.isEmpty_iff
  get _ _ := get?_eq_some
  contains name := by
    rw [contains, Option.isSome_iff_ne_none, ne_eq, get?_eq_none, Decidable.not_not]
  parts := List.unzip_eq_map
  entries := zip_names_values m
  aligned := length_names m

end TableKeeper.OrderedMap
