import Mathlib.Data.List.Induction
import TableKeeper.Proofs.OrderedMap

/-!
  TableKeeper.Proofs.Edits — what is in a map, told from the edits that made it.

  1. An edit puts a value under a name or takes a name out. What edits leave is said of the list
     of them alone: a name is `Absent` if a removal follows each of its insertions, `Latest` is
     the value of the last one, and `Arrives` is the edit from which on the name has been there.
  2. One more edit changes only what is said of its own name (`absent_insert`, `latest_insert`,
     `arrives_insert`, and the same for a removal).
  3. A map that follows some edits follows them with one more (`Follows.insert`,
     `Follows.remove`), so a map follows all the edits that made it (`follows_ofList`, `Follows.replay`): its
     values are the latest, and its names stand in the order in which they arrived.
-/

namespace TableKeeper

variable {α : Type}

inductive Edit (α : Type) where
  | insert (name : String) (a : α)
  | remove (name : String)

namespace Edit

/-- The name that an edit is about. -/
def name : Edit α → String
  | insert n _ => n
  | remove n => n

/-- The map after an edit. -/
def apply (m : OrderedMap α) : Edit α → OrderedMap α
  | insert n a => m.put n a
  | remove n => m.erase n

/-- Entries that are put in one after the other. -/
def ofEntries (entries : List (String × α)) : List (Edit α) := entries.map fun e => insert e.1 e.2

end Edit

/-! ## What edits leave -/

/-- Every insertion of the name is followed by a removal. -/
def Absent (es : List (Edit α)) (name : String) : Prop :=
  ∀ before a after, es = before ++ .insert name a :: after → .remove name ∈ after

/-- The value is that of the last edit of the name. -/
def Latest (es : List (Edit α)) (name : String) (a : α) : Prop :=
  ∃ before after, es = before ++ .insert name a :: after ∧ ∀ e ∈ after, e.name ≠ name

/-- The name has been there since the edit with this number, which found it absent. -/
def Arrives (es : List (Edit α)) (name : String) (k : Nat) : Prop :=
  ∃ before a after, es = before ++ .insert name a :: after ∧ before.length = k ∧ Absent before name ∧
    .remove name ∉ after

/-- A list with one more at the end, cut somewhere: at the end or before. -/
theorem snoc_eq_append_cons {es before after : List (Edit α)} {e d : Edit α} :
    es ++ [e] = before ++ d :: after ↔
      (es = before ∧ e = d ∧ after = []) ∨ ∃ rest, after = rest ++ [e] ∧ es = before ++ d :: rest := by
  constructor
  · intro h
    rcases List.eq_nil_or_concat after with rfl | ⟨rest, x, rfl⟩
    · obtain ⟨rfl, he⟩ := List.append_inj' h rfl
      exact .inl ⟨rfl, List.singleton_inj.mp he, rfl⟩
    · rw [List.concat_eq_append, ← List.cons_append, ← List.append_assoc] at h
      obtain ⟨hes, he⟩ := List.append_inj' h rfl
      exact .inr ⟨rest, by rw [List.concat_eq_append, List.singleton_inj.mp he], hes⟩
  · rintro (⟨rfl, rfl, rfl⟩ | ⟨rest, rfl, rfl⟩)
    · rfl
    · simp

section Edits

variable {es : List (Edit α)} {n m : String} {a b : α} {k l : Nat}

theorem absent_nil (n : String) : Absent ([] : List (Edit α)) n := by
  intro before a after h
  simp at h

theorem absent_insert : Absent (es ++ [.insert n a]) m ↔ m ≠ n ∧ Absent es m := by
  constructor
  · intro h
    refine ⟨?_, fun before b after hes => ?_⟩
    · rintro rfl
      exact absurd (h es a [] rfl) List.not_mem_nil
    · have hmem := h before b (after ++ [.insert n a]) (by rw [hes]; simp)
      simpa using hmem
  · rintro ⟨hne, h⟩ before b after hes
    rcases snoc_eq_append_cons.mp hes with ⟨-, he, -⟩ | ⟨rest, rfl, hrest⟩
    · cases he
      exact absurd rfl hne
    · exact List.mem_append_left _ (h before b rest hrest)

theorem absent_remove : Absent (es ++ [.remove n]) m ↔ m = n ∨ Absent es m := by
  constructor
  · intro h
    by_cases hmn : m = n
    · exact .inl hmn
    · refine .inr fun before b after hes => ?_
      have hmem := h before b (after ++ [.remove n]) (by rw [hes]; simp)
      simpa [hmn] using hmem
  · intro h before b after hes
    rcases snoc_eq_append_cons.mp hes with ⟨-, he, -⟩ | ⟨rest, rfl, hrest⟩
    · cases he
    · rcases h with rfl | h
      · exact List.mem_append_right _ List.mem_cons_self
      · exact List.mem_append_left _ (h before b rest hrest)

theorem latest_insert : Latest (es ++ [.insert n a]) m b ↔ if m = n then b = a else Latest es m b := by
  constructor
  · rintro ⟨before, after, hes, hafter⟩
    rcases snoc_eq_append_cons.mp hes with ⟨-, he, -⟩ | ⟨rest, rfl, hrest⟩
    · cases he
      rw [if_pos rfl]
    · have hne : n ≠ m := hafter (.insert n a) (List.mem_append_right _ List.mem_cons_self)
      rw [if_neg (Ne.symm hne)]
      exact ⟨before, rest, hrest, fun e he => hafter e (List.mem_append_left _ he)⟩
  · by_cases hmn : m = n
    · rw [if_pos hmn]
      rintro rfl
      exact ⟨es, [], by rw [hmn], nofun⟩
    · rw [if_neg hmn]
      rintro ⟨before, after, rfl, hafter⟩
      refine ⟨before, after ++ [.insert n a], by simp, fun e he => ?_⟩
      rcases List.mem_append.mp he with he | he
      · exact hafter e he
      · rw [List.mem_singleton.mp he]
        exact Ne.symm hmn

theorem latest_remove : Latest (es ++ [.remove n]) m b ↔ m ≠ n ∧ Latest es m b := by
  constructor
  · rintro ⟨before, after, hes, hafter⟩
    rcases snoc_eq_append_cons.mp hes with ⟨-, he, -⟩ | ⟨rest, rfl, hrest⟩
    · cases he
    · have hne : n ≠ m := hafter (.remove n) (List.mem_append_right _ List.mem_cons_self)
      exact ⟨Ne.symm hne, before, rest, hrest, fun e he => hafter e (List.mem_append_left _ he)⟩
  · rintro ⟨hmn, before, after, rfl, hafter⟩
    refine ⟨before, after ++ [.remove n], by simp, fun e he => ?_⟩
    rcases List.mem_append.mp he with he | he
    · exact hafter e he
    · rw [List.mem_singleton.mp he]
      exact Ne.symm hmn

theorem arrives_insert : Arrives (es ++ [.insert n a]) m k ↔ Arrives es m k ∨ (m = n ∧ Absent es n ∧ k = es.length) := by
  constructor
  · rintro ⟨before, b, after, hes, hlength, habsent, hafter⟩
    rcases snoc_eq_append_cons.mp hes with ⟨rfl, he, -⟩ | ⟨rest, rfl, hrest⟩
    · cases he
      exact .inr ⟨rfl, habsent, hlength.symm⟩
    · exact .inl ⟨before, b, rest, hrest, hlength, habsent, fun h => hafter (List.mem_append_left _ h)⟩
  · rintro (⟨before, b, after, rfl, hlength, habsent, hafter⟩ | ⟨rfl, habsent, rfl⟩)
    · exact ⟨before, b, after ++ [.insert n a], by simp, hlength, habsent, by simpa using hafter⟩
    · exact ⟨es, a, [], rfl, rfl, habsent, List.not_mem_nil⟩

theorem arrives_remove : Arrives (es ++ [.remove n]) m k ↔ m ≠ n ∧ Arrives es m k := by
  constructor
  · rintro ⟨before, b, after, hes, hlength, habsent, hafter⟩
    rcases snoc_eq_append_cons.mp hes with ⟨-, he, -⟩ | ⟨rest, rfl, hrest⟩
    · cases he
    · refine ⟨?_, before, b, rest, hrest, hlength, habsent, fun h => hafter (List.mem_append_left _ h)⟩
      rintro rfl
      exact hafter (List.mem_append_right _ List.mem_cons_self)
  · rintro ⟨hmn, before, b, after, rfl, hlength, habsent, hafter⟩
    exact ⟨before, b, after ++ [.remove n], by simp, hlength, habsent, by simp [hafter, hmn]⟩

theorem Arrives.lt_length (h : Arrives es n k) : k < es.length := by
  obtain ⟨before, b, after, rfl, rfl, -, -⟩ := h
  simp

theorem Arrives.not_absent (h : Arrives es n k) : ¬Absent es n := by
  obtain ⟨before, b, after, hes, -, -, hafter⟩ := h
  exact fun habsent => hafter (habsent before b after hes)

/-- A name that is there arrived once. -/
theorem Arrives.unique (hk : Arrives es n k) (hl : Arrives es n l) : k = l := by
  induction es using List.reverseRecOn with
  | nil => exact absurd (absent_nil n) hk.not_absent
  | append_singleton es e ih =>
    cases e with
    | insert m a =>
      rcases arrives_insert.mp hk with hbefore | ⟨rfl, habsent, rfl⟩
      · rcases arrives_insert.mp hl with hl | ⟨rfl, habsent, -⟩
        · exact ih hbefore hl
        · exact absurd habsent hbefore.not_absent
      · rcases arrives_insert.mp hl with hbefore | ⟨-, -, rfl⟩
        · exact absurd habsent hbefore.not_absent
        · rfl
    | remove m => exact ih (arrives_remove.mp hk).2 (arrives_remove.mp hl).2

end Edits

/-! ## Maps that follow edits -/

namespace OrderedMap

theorem findEntry?_eraseEntry {name : String} {es : List (String × α)} (h : (es.map (·.1)).Nodup) (other : String) :
    findEntry? other (eraseEntry name es) = if other = name then none else findEntry? other es := by
  induction es with
  | nil => simp [eraseEntry, findEntry?]
  | cons e es ih =>
    obtain ⟨hnotMem, hes⟩ := List.nodup_cons.mp h
    by_cases he : e.1 = name
    · rw [eraseEntry, if_pos he]
      by_cases ho : other = name
      · rw [if_pos ho, findEntry?_eq_none, ho, ← he]
        exact hnotMem
      · simp [ findEntry?, ho, he, Ne.symm ho]
    · rw [eraseEntry, if_neg he]
      by_cases ho : e.1 = other
      · have hne : other ≠ name := fun h => he (ho.trans h)
        simp [ findEntry?, ho, hne]
      · simp [ findEntry?, ho, ih hes]

theorem get?_erase (m : OrderedMap α) (name other : String) :
    (m.erase name).get? other = if other = name then none else m.get? other :=
  findEntry?_eraseEntry m.distinct other

/-- What is in the map is what the edits leave. -/
structure Follows (m : OrderedMap α) (es : List (Edit α)) : Prop where
  /-- No name stands there twice. -/
  distinct : m.names.Nodup
  /-- A name is there that has arrived and was not removed since. -/
  arrived : ∀ n, n ∈ m.names ↔ ∃ k, Arrives es n k
  /-- The names stand in the order in which they arrived. -/
  order : m.names.Pairwise fun n n' => ∀ k k', Arrives es n k → Arrives es n' k' → k < k'
  value : ∀ n a, m.get? n = some a ↔ Latest es n a
  absent : ∀ n, m.get? n = none ↔ Absent es n

variable {m : OrderedMap α} {es : List (Edit α)}

theorem follows_empty : (empty : OrderedMap α).Follows [] := by
  refine ⟨List.nodup_nil, fun n => ?_, List.Pairwise.nil, fun n a => ?_, fun n => ?_⟩
  · constructor
    · intro h
      cases h
    · rintro ⟨k, hk⟩
      exact absurd (absent_nil n) hk.not_absent
  · constructor
    · intro h
      cases h
    · rintro ⟨before, after, h, -⟩
      simp at h
  · exact iff_of_true rfl (absent_nil n)

theorem Follows.insert (h : m.Follows es) (n : String) (a : α) : (m.put n a).Follows (es ++ [.insert n a]) := by
  have hnames : (m.put n a).names = if n ∈ m.names then m.names else m.names ++ [n] := names_putEntry n a m.entries
  have hmem : n ∈ m.names ↔ ¬Absent es n := by
    rw [← h.absent, get?_eq_none, Decidable.not_not]
  -- An edit of a name that is there moves no arrival; a name that is not there arrives last.
  have hold : ∀ {x k}, x ∈ m.names → Arrives (es ++ [.insert n a]) x k → Arrives es x k := by
    intro x k hx hk
    rcases arrives_insert.mp hk with hk | ⟨rfl, habsent, -⟩
    · exact hk
    · exact absurd habsent (hmem.mp hx)
  have horder : m.names.Pairwise fun x y =>
      ∀ k l, Arrives (es ++ [.insert n a]) x k → Arrives (es ++ [.insert n a]) y l → k < l :=
    h.order.imp_of_mem fun hx hy hxy k l hk hl => hxy k l (hold hx hk) (hold hy hl)
  refine ⟨(m.put n a).distinct, fun x => ?_, ?_, fun x b => ?_, fun x => ?_⟩
  · simp only [arrives_insert, exists_or, ← h.arrived, hnames]
    by_cases hn : n ∈ m.names
    · rw [if_pos hn]
      constructor
      · exact .inl
      · rintro (hx | ⟨-, -, habsent, -⟩)
        · exact hx
        · exact absurd habsent (hmem.mp hn)
    · rw [if_neg hn, List.mem_append, List.mem_singleton]
      have habsent : Absent es n := Classical.not_not.mp fun hnot => hn (hmem.mpr hnot)
      exact or_congr Iff.rfl ⟨fun hx => ⟨es.length, hx, habsent, rfl⟩, fun ⟨_, hx, _⟩ => hx⟩
  · rw [hnames]
    by_cases hn : n ∈ m.names
    · rw [if_pos hn]
      exact horder
    · rw [if_neg hn]
      refine List.pairwise_append.mpr ⟨horder, List.pairwise_singleton _ _, fun x hx y hy k l hk hl => ?_⟩
      rw [List.mem_singleton.mp hy] at hl
      rcases arrives_insert.mp hl with hl | ⟨-, -, rfl⟩
      · exact absurd ((h.arrived n).mpr ⟨l, hl⟩) hn
      · exact (hold hx hk).lt_length
  · rw [get?_put, latest_insert]
    split
    · exact ⟨fun hb => (Option.some.inj hb).symm, fun hb => congrArg some hb.symm⟩
    · exact h.value x b
  · rw [get?_put, absent_insert, ← h.absent]
    split
    · next hx => simp [hx]
    · next hx => simp [hx]

theorem Follows.remove (h : m.Follows es) (n : String) : (m.erase n).Follows (es ++ [.remove n]) := by
  have hnames : (m.erase n).names = m.names.erase n := names_eraseEntry n m.entries
  refine ⟨(m.erase n).distinct, fun x => ?_, ?_, fun x b => ?_, fun x => ?_⟩
  · simp only [arrives_remove, hnames, h.distinct.mem_erase_iff, h.arrived, exists_and_left]
  · rw [hnames]
    refine (h.order.sublist List.erase_sublist).imp fun hxy k l hk hl => ?_
    exact hxy k l (arrives_remove.mp hk).2 (arrives_remove.mp hl).2
  · rw [get?_erase, latest_remove, ← h.value]
    split
    · next hx => simp [hx]
    · next hx => simp [hx]
  · rw [get?_erase, absent_remove, ← h.absent]
    split
    · next hx => simp [hx]
    · next hx => simp [hx]

/-- A map follows the edits that it has seen. -/
theorem Follows.apply (h : m.Follows es) (e : Edit α) : (e.apply m).Follows (es ++ [e]) := by
  cases e with
  | insert n a => exact h.insert n a
  | remove n => exact h.remove n

/-- A map that went on with some edits follows them too. -/
theorem Follows.replay (h : m.Follows es) (more : List (Edit α)) : (more.foldl Edit.apply m).Follows (es ++ more) := by
  induction more generalizing m es with
  | nil => rwa [List.append_nil]
  | cons e more ih =>
    have hnext := ih (h.apply e)
    rwa [List.append_assoc] at hnext

theorem follows_ofList (entries : List (String × α)) : (ofList entries).Follows (Edit.ofEntries entries) := by
  have h := (follows_empty (α := α)).replay (Edit.ofEntries entries)
  rwa [List.nil_append, Edit.ofEntries, List.foldl_map] at h

end OrderedMap
end TableKeeper
