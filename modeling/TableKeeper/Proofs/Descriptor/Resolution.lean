import TableKeeper.Disk
import TableKeeper.Proofs.Text.Blank

/-!
  TableKeeper.Proofs.Descriptor.Resolution — where the path of a descriptor leads.

  1. A path is told by its components: empty steps do not count, and `.` counts only as the
     first step of a path that does not start at the root (`Path.components`).
  2. Joining two paths puts the components of a relative one behind those of the other
     (`Path.below_join`), and an absolute one stands alone.
  3. So a relative path leads below the base directory and one that starts with `~/` below the
     home directory, whatever they are made of otherwise (`Descriptor.descriptors_resolved`).

  There is one way out: the rest behind `~/` may be absolute itself. The path `~//etc/app.db`
  leads to `/etc/app.db`, wherever the home directory is (`slashed_rest_leaves_home`). And a user
  without a home directory is refused such a path, and no other.
-/

namespace TableKeeper

namespace Path

/-! ## Components -/

/-- A step of a path that counts. -/
inductive Component where
  | root
  /-- A `.` that a path starts with. -/
  | here
  | above
  | named (name : String)
  deriving DecidableEq, Repr

def Component.ofStep? (step : List Char) : Option Component :=
  if step = [] ∨ step = ['.'] then none
  else if step = ['.', '.'] then some .above
  else some (.named (.ofList step))

/-- The root or the `.` that a path starts with, if it starts with one. -/
def opening (p : List Char) : List Component :=
  if p.head? = some '/' then [.root] else if (Disk.splitSteps p).head? = some ['.'] then [.here] else []

/-- The components behind the opening. -/
def inner (p : List Char) : List Component := (Disk.splitSteps p).filterMap Component.ofStep?

def components (p : String) : List Component := opening p.toList ++ inner p.toList

/-- A path is `rest` taken from `base` on: behind the components of `base` stand those of
`rest`, where a `.` at its start adds nothing any more. From nowhere, `rest` is all. -/
def IsBelow (base rest p : String) : Prop :=
  components p = if base = "" then components rest else components base ++ (components rest).filter (· ≠ .here)

variable {left right : String} {front behind : List Char}

theorem splitSteps_ne_nil (cs : List Char) : Disk.splitSteps cs ≠ [] := by
  cases cs with
  | nil => simp [Disk.splitSteps]
  | cons c cs =>
    rw [Disk.splitSteps]
    split
    · simp
    · split <;> simp

theorem splitSteps_slash (front behind : List Char) :
    Disk.splitSteps (front ++ '/' :: behind) = Disk.splitSteps front ++ Disk.splitSteps behind := by
  induction front with
  | nil => rfl
  | cons c front ih =>
    by_cases hc : c = '/'
    · simp only [List.cons_append, Disk.splitSteps, if_pos hc, ih]
    · simp only [List.cons_append, Disk.splitSteps, if_neg hc, ih]
      cases hfront : Disk.splitSteps front with
      | nil => exact absurd hfront (splitSteps_ne_nil front)
      | cons step steps => rfl

/-- What follows a slash has no part in how a path starts. -/
theorem opening_slash : opening (front ++ '/' :: behind) = opening (front ++ ['/']) := by
  cases front with
  | nil => rfl
  | cons c front =>
    obtain ⟨step, steps, hsteps⟩ := List.exists_cons_of_ne_nil (splitSteps_ne_nil (c :: front))
    unfold opening
    rw [splitSteps_slash, splitSteps_slash, hsteps]
    rfl

theorem opening_unslashed (h : front ≠ []) : opening (front ++ ['/']) = opening front := by
  obtain ⟨step, steps, hsteps⟩ := List.exists_cons_of_ne_nil (splitSteps_ne_nil front)
  obtain ⟨c, cs, rfl⟩ := List.exists_cons_of_ne_nil h
  unfold opening
  rw [splitSteps_slash, hsteps]
  rfl

theorem inner_slash : inner (front ++ '/' :: behind) = inner front ++ inner behind := by
  unfold inner
  rw [splitSteps_slash, List.filterMap_append]

theorem here_notMem_inner (p : List Char) : Component.here ∉ inner p := by
  intro h
  obtain ⟨step, -, hstep⟩ := List.mem_filterMap.mp h
  unfold Component.ofStep? at hstep
  split at hstep
  · cases hstep
  · split at hstep <;> cases hstep

/-- Without its `.` at the start, a path that is not absolute is its inner components. -/
theorem filter_components (h : isAbsolute right = false) :
    (components right).filter (· ≠ .here) = inner right.toList := by
  have hroot : right.toList.head? ≠ some '/' := by simpa [isAbsolute] using h
  have hopening : (opening right.toList).filter (· ≠ .here) = [] := by
    unfold opening
    rw [if_neg hroot]
    split <;> rfl
  have hinner : (inner right.toList).filter (· ≠ .here) = inner right.toList := by
    rw [List.filter_eq_self]
    intro c hc
    have hne : c ≠ .here := fun hhere => here_notMem_inner right.toList (hhere ▸ hc)
    simpa using hne
  rw [components, List.filter_append, hopening, hinner, List.nil_append]

/-! ## Joining -/

/-- A slash stands between the two, of which the left one may have brought it. -/
theorem join_cases (hleft : left ≠ "") (h : isAbsolute right = false) :
    ∃ front, (join left right).toList = front ++ '/' :: right.toList ∧
      (left.toList = front ++ ['/'] ∨ left.toList = front ∧ front ≠ []) := by
  have hne : left.toList ≠ [] := by simpa using hleft
  unfold join
  rw [if_neg (by simp [h])]
  by_cases hslash : left.toList.getLast? = some '/'
  · obtain ⟨front, hfront⟩ := List.getLast?_eq_some_iff.mp hslash
    refine ⟨front, ?_, .inl hfront⟩
    simp [hfront]
  · refine ⟨left.toList, ?_, .inr ⟨rfl, hne⟩⟩
    simp [hslash, hne]

/-- A path that is not absolute leads below the one that it is joined to. -/
theorem below_join (left : String) (h : isAbsolute right = false) : IsBelow left right (join left right) := by
  unfold IsBelow
  by_cases hleft : left = ""
  · subst hleft
    have hjoin : join "" right = right := by simp [join, h]
    rw [if_pos rfl, hjoin]
  · obtain ⟨front, hjoin, hfront⟩ := join_cases hleft h
    have hopening : opening (join left right).toList = opening left.toList := by
      rw [hjoin, opening_slash]
      rcases hfront with hfront | ⟨hfront, hne⟩
      · rw [hfront]
      · rw [hfront, opening_unslashed hne]
    have hinner : inner (join left right).toList = inner left.toList ++ inner right.toList := by
      rw [hjoin, inner_slash]
      rcases hfront with hfront | ⟨hfront, -⟩
      · rw [hfront, inner_slash]
        exact congrArg (· ++ inner right.toList) (List.append_nil (inner front)).symm
      · rw [hfront]
    rw [if_neg hleft, filter_components h, components, components, hopening, hinner, List.append_assoc]

theorem IsBelow.starts {base rest p : String} (h : IsBelow base rest p) : components base <+: components p := by
  unfold IsBelow at h
  by_cases hbase : base = ""
  · subst hbase
    exact List.nil_prefix
  · rw [if_neg hbase] at h
    rw [h]
    exact List.prefix_append _ _

theorem join_absolute (left : String) (h : isAbsolute right = true) : join left right = right := if_pos h

end Path

/-! ## Descriptors -/

namespace Descriptor

open Text

/-- Where the path of a descriptor leads, under a home directory and a base directory. -/
structure Resolves (home base : String) (d : Descriptor) : Prop where
  memory : d.resolve home base = .memory ↔ d.path = ":memory:"
  /-- The rest behind `~/` leads below the home directory if it is not absolute. -/
  belowHome : ∀ rest, d.path = "~/" ++ rest → Path.isAbsolute rest = false →
    ∃ p, (∀ base', d.resolve home base' = .file p) ∧ Path.IsBelow home rest p ∧
      Path.components home <+: Path.components p
  /-- If it is, it stands alone. -/
  outOfHome : ∀ rest, d.path = "~/" ++ rest → Path.isAbsolute rest = true → d.resolve home base = .file rest
  absolute : Path.isAbsolute d.path = true → d.resolve home base = .file d.path
  belowBase : d.path ≠ ":memory:" → (∀ rest, d.path ≠ "~/" ++ rest) → Path.isAbsolute d.path = false →
    ∃ p, (∀ home', d.resolve home' base = .file p) ∧ Path.IsBelow base d.path p ∧
      Path.components base <+: Path.components p
  /-- Who has a home directory is never refused, -/
  located : d.locate (some home) base = .ok (d.resolve home base)
  /-- and who has none, exactly where the path starts with `~/`. -/
  homeless : ∀ rest, d.path = "~/" ++ rest → d.locate none base = .error ⟨d.path⟩
  homelessElsewhere : (∀ rest, d.path ≠ "~/" ++ rest) → d.locate none base = .ok (d.resolve home base)

variable {d : Descriptor}

theorem resolve_memory {home base : String} (h : d.path = ":memory:") : d.resolve home base = .memory := by
  have hmemory : d.isMemory = true := by simp [isMemory, memoryPath, h]
  rw [resolve, if_pos hmemory]

theorem homeRest?_eq_some {rest : String} : d.homeRest? = some rest ↔ d.path = "~/" ++ rest := by
  rw [homeRest?, Option.map_eq_some_iff]
  constructor
  · rintro ⟨cs, hcs, rfl⟩
    refine String.toList_injective ?_
    rw [after?_eq_some.mp hcs]
    simp
  · intro h
    exact ⟨rest.toList, after?_eq_some.mpr (by rw [h]; simp), String.ofList_toList⟩

theorem homeRest?_eq_none : d.homeRest? = none ↔ ∀ rest, d.path ≠ "~/" ++ rest := by
  simp only [Option.eq_none_iff_forall_ne_some, ne_eq, homeRest?_eq_some]

theorem resolve_home {home base rest : String} (h : d.path = "~/" ++ rest) :
    d.resolve home base = .file (Path.join home rest) := by
  have hchars : d.path.toList = '~' :: '/' :: rest.toList := by rw [h]; simp
  have hmemory : ¬ d.isMemory = true := by
    intro hmemory
    have hpath : d.path = ":memory:" := by simpa [isMemory, memoryPath] using hmemory
    rw [hpath] at hchars
    simp at hchars
  rw [resolve, if_neg hmemory, homeRest?_eq_some.mpr h]

theorem resolve_plain {home base : String} (hmemory : d.path ≠ ":memory:") (h : ∀ rest, d.path ≠ "~/" ++ rest) :
    d.resolve home base = .file (Path.join base d.path) := by
  have hmemory : ¬ d.isMemory = true := by simpa [isMemory, memoryPath] using hmemory
  rw [resolve, if_neg hmemory, homeRest?_eq_none.mpr h]

/-- Only a path behind `~/` has to do with the home directory. -/
theorem resolve_elsewhere {base : String} (h : ∀ rest, d.path ≠ "~/" ++ rest) (home home' : String) :
    d.resolve home base = d.resolve home' base := by
  simp only [resolve, homeRest?_eq_none.mpr h]

/-- A path leads to memory, below the home directory, to itself or below the base directory, as
it is written; only an absolute rest behind `~/` leads out of the home directory. -/
theorem descriptors_resolved (home base : String) (d : Descriptor) : Resolves home base d where
  memory := by
    constructor
    · intro h
      by_contra hmemory
      by_cases hhome : ∃ rest, d.path = "~/" ++ rest
      · obtain ⟨rest, hrest⟩ := hhome
        rw [resolve_home hrest] at h
        cases h
      · rw [resolve_plain hmemory fun rest hrest => hhome ⟨rest, hrest⟩] at h
        cases h
    · exact resolve_memory
  belowHome := by
    intro rest hpath hrest
    have hbelow := Path.below_join home hrest
    exact ⟨Path.join home rest, fun base' => resolve_home hpath, hbelow, hbelow.starts⟩
  outOfHome := by
    intro rest hpath hrest
    rw [resolve_home hpath, Path.join_absolute home hrest]
  absolute := by
    intro habsolute
    have hroot : d.path.toList.head? = some '/' := by simpa [Path.isAbsolute] using habsolute
    have hmemory : d.path ≠ ":memory:" := by
      intro h
      simp [h] at hroot
    have hhome : ∀ rest, d.path ≠ "~/" ++ rest := by
      intro rest h
      simp [h] at hroot
    rw [resolve_plain hmemory hhome, Path.join_absolute base habsolute]
  belowBase := by
    intro hmemory hhome hrelative
    have hbelow := Path.below_join base hrelative
    exact ⟨Path.join base d.path, fun home' => resolve_plain hmemory hhome, hbelow, hbelow.starts⟩
  located := rfl
  homeless := by
    intro rest hpath
    have hasks : d.homeRest?.isSome = true := by rw [homeRest?_eq_some.mpr hpath, Option.isSome_some]
    exact if_pos hasks
  homelessElsewhere := by
    intro hhome
    have hasks : ¬ d.homeRest?.isSome = true := by simp [homeRest?_eq_none.mpr hhome]
    rw [locate, if_neg hasks, resolve_elsewhere hhome "" home]

/-- What follows `~/` is joined to the home directory like any path, so an absolute rest leaves
it. -/
theorem slashed_rest_leaves_home :
    Path.isAbsolute "/home/oracle" = true ∧ parse "~//etc/app.db" = .ok ⟨"~//etc/app.db", none⟩ ∧
      resolve "/home/oracle" "." ⟨"~//etc/app.db", none⟩ = .file "/etc/app.db" ∧
      ¬ Path.components "/home/oracle" <+: Path.components "/etc/app.db" := by
  decide

end Descriptor
end TableKeeper
