/-!
  TableKeeper.OrderedMap — names with values, in the order in which the names came.

  1. A name occurs once (`distinct`).
  2. `put` on a name that is present replaces its value in place; on a new name it adds an
     entry at the end.
  3. `erase` takes one entry out and moves nothing else.
  4. `insert` and `remove` do the same and give back the value that was there.
-/

namespace TableKeeper

/-- An insertion-ordered map from names. -/
structure OrderedMap (α : Type) where
  entries : List (String × α)
  distinct : (entries.map (·.1)).Nodup

namespace OrderedMap

variable {α : Type}

/-! ## Entries -/

def putEntry (name : String) (a : α) : List (String × α) → List (String × α)
  | [] => [(name, a)]
  | e :: rest => if e.1 = name then (name, a) :: rest else e :: putEntry name a rest

def findEntry? (name : String) : List (String × α) → Option α
  | [] => none
  | e :: rest => if e.1 = name then some e.2 else findEntry? name rest

def eraseEntry (name : String) : List (String × α) → List (String × α)
  | [] => []
  | e :: rest => if e.1 = name then rest else e :: eraseEntry name rest

/-- The value that was there, and the entries with the new one. -/
def insertEntry (name : String) (a : α) : List (String × α) → Option α × List (String × α)
  | [] => (none, [(name, a)])
  | e :: rest =>
    if e.1 = name then (some e.2, (name, a) :: rest)
    else
      let (old, rest) := insertEntry name a rest
      (old, e :: rest)

/-- The value that was there, and the entries without it. -/
def removeEntry (name : String) : List (String × α) → Option α × List (String × α)
  | [] => (none, [])
  | e :: rest =>
    if e.1 = name then (some e.2, rest)
    else
      let (old, rest) := removeEntry name rest
      (old, e :: rest)

theorem insertEntry_eq (name : String) (a : α) (es : List (String × α)) :
    insertEntry name a es = ( findEntry? name es, putEntry name a es) := by
  induction es with
  | nil => rfl
  | cons e rest ih =>
    by_cases h : e.1 = name
    · simp [insertEntry, findEntry?, putEntry, h]
    · simp [insertEntry, findEntry?, putEntry, h, ih]

theorem removeEntry_eq (name : String) (es : List (String × α)) :
    removeEntry name es = ( findEntry? name es, eraseEntry name es) := by
  induction es with
  | nil => rfl
  | cons e rest ih =>
    by_cases h : e.1 = name
    · simp [removeEntry, findEntry?, eraseEntry, h]
    · simp [removeEntry, findEntry?, eraseEntry, h, ih]

theorem names_putEntry (name : String) (a : α) (es : List (String × α)) :
    (putEntry name a es).map (·.1) =
      if name ∈ es.map (·.1) then es.map (·.1) else es.map (·.1) ++ [name] := by
  induction es with
  | nil => simp [putEntry]
  | cons e rest ih =>
    by_cases h : e.1 = name
    · simp [putEntry, h]
    · have hn : ¬ name = e.1 := fun h' => h h'.symm
      simp only [putEntry, if_neg h, List.map_cons, ih, List.mem_cons, hn, false_or]
      split <;> simp

theorem names_eraseEntry (name : String) (es : List (String × α)) :
    (eraseEntry name es).map (·.1) = (es.map (·.1)).erase name := by
  induction es with
  | nil => rfl
  | cons e rest ih =>
    by_cases h : e.1 = name
    · simp [eraseEntry, h]
    · simp [eraseEntry, h, ih]

theorem nodup_putEntry {name : String} {a : α} {es : List (String × α)}
    (h : (es.map (·.1)).Nodup) : ((putEntry name a es).map (·.1)).Nodup := by
  rw [names_putEntry]
  split
  · exact h
  · next hn =>
    refine List.nodup_append.2 ⟨h, by simp, fun x hx y hy => ?_⟩
    rw [List.mem_singleton.1 hy]
    exact fun hxy => hn (hxy ▸ hx)

/-! ## The map -/

def empty : OrderedMap α := ⟨[], List.nodup_nil⟩

instance : Inhabited (OrderedMap α) := ⟨empty⟩

def get? (m : OrderedMap α) (name : String) : Option α := findEntry? name m.entries

def contains (m : OrderedMap α) (name : String) : Bool := (m.get? name).isSome

def put (m : OrderedMap α) (name : String) (a : α) : OrderedMap α :=
  ⟨putEntry name a m.entries, nodup_putEntry m.distinct⟩

def erase (m : OrderedMap α) (name : String) : OrderedMap α :=
  ⟨eraseEntry name m.entries, by rw [names_eraseEntry]; exact m.distinct.erase name⟩

/-- Puts a value, and gives back the one that was there. -/
def insert (m : OrderedMap α) (name : String) (a : α) : Option α × OrderedMap α :=
  ((insertEntry name a m.entries).1, ⟨(insertEntry name a m.entries).2, by
    rw [insertEntry_eq]
    exact nodup_putEntry m.distinct⟩)

/-- Takes an entry out, and gives back its value. -/
def remove (m : OrderedMap α) (name : String) : Option α × OrderedMap α :=
  ((removeEntry name m.entries).1, ⟨(removeEntry name m.entries).2, by
    rw [removeEntry_eq, names_eraseEntry]
    exact m.distinct.erase name⟩)

/-- The map after putting the entries one by one. -/
def ofList (es : List (String × α)) : OrderedMap α := es.foldl (fun m e => m.put e.1 e.2) empty

def names (m : OrderedMap α) : List String := m.entries.map (·.1)

def values (m : OrderedMap α) : List α := m.entries.map (·.2)

/-- The names and the values, each in order. -/
def parts (m : OrderedMap α) : List String × List α := m.entries.unzip

def size (m : OrderedMap α) : Nat := m.entries.length

def isEmpty (m : OrderedMap α) : Bool := m.entries.isEmpty

@[ext] theorem ext {m n : OrderedMap α} (h : m.entries = n.entries) : m = n := by
  cases m; cases n; simp_all

theorem insert_eq (m : OrderedMap α) (name : String) (a : α) : m.insert name a = (m.get? name, m.put name a) := by
  have h := insertEntry_eq name a m.entries
  exact Prod.ext (by simp only [insert, h, get?]) (ext (by simp only [insert, h, put]))

theorem remove_eq (m : OrderedMap α) (name : String) : m.remove name = (m.get? name, m.erase name) := by
  have h := removeEntry_eq name m.entries
  exact Prod.ext (by simp only [remove, h, get?]) (ext (by simp only [remove, h, erase]))

instance [DecidableEq α] : DecidableEq (OrderedMap α) := fun m n =>
  decidable_of_iff (m.entries = n.entries) ⟨ext, fun h => by rw [h]⟩

/-- Same names in the same order, with values that `same` accepts. -/
def eqvBy (same : α → α → Bool) (m n : OrderedMap α) : Bool :=
  go m.entries n.entries
where
  go : List (String × α) → List (String × α) → Bool
    | [], [] => true
    | d :: ds, e :: es => d.1 == e.1 && same d.2 e.2 && go ds es
    | _, _ => false

end OrderedMap
end TableKeeper
