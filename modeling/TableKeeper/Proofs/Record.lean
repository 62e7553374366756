import TableKeeper.Cursor
import TableKeeper.Filter
import TableKeeper.Json.Document
import TableKeeper.Proofs.Edits

/-!
  TableKeeper.Proofs.Record — how records and filters are made, and what they hold then.

  1. A record is edited entry by entry, or made at once from pairs, from a JSON object or from
     a row of a result; each of these is a list of edits (`Record.Built`). Filters are made
     likewise, and nothing is ever taken out of one (`Filter.Built`).
  2. What a record or a filter holds follows from the edits alone (`Record.Built.follows`,
     `Filter.Built.follows`).
-/

namespace TableKeeper

/-! ## Decoded objects -/

namespace Json

/-- The members of an object, as the text has them. -/
def readMembers? : List Char → Option (List (String × Value) × List Char)
  | '\x7b' :: rest => readList? readEntry? '\x7d' rest
  | _ => none

def members? (text : String) : Option (List (String × Value)) := whole? readMembers? text

theorem readRecord?_eq (cs : List Char) :
    readRecord? cs = (readMembers? cs).map fun p => (.ofList p.1, p.2) := by
  cases cs with
  | nil => rfl
  | cons c rest =>
    by_cases hc : c = '\x7b'
    · subst hc
      rfl
    · simp [readRecord?, readMembers?, hc]

end Json

/-- Decoding puts the members in, in the order of the text. -/
theorem Record.ofJson?_eq (text : String) : Record.ofJson? text = (Json.members? text).map .ofList := by
  unfold Record.ofJson? Json.members? Json.whole?
  rw [Json.readRecord?_eq]
  cases Json.readMembers? (Json.skipBlank text.toList) with
  | none => rfl
  | some p =>
    simp only [Option.map_some]
    split
    · rfl
    · rfl

/-! ## Rows -/

/-- The values of the cells that could be read. -/
def RowCursor.valuesOf (cells : List (Except String Value)) : List Value := cells.filterMap Except.toOption

theorem RowCursor.recordFrom_eq_ok {i : Nat} {columns : List String} {cells : List (Except String Value)}
    {start r : Record} (h : recordFrom i columns cells start = .ok r) :
    r = (columns.zip (valuesOf cells)).foldl (fun m e => m.put e.1 e.2) start := by
  induction columns generalizing i cells start with
  | nil =>
    cases h
    rfl
  | cons c columns ih =>
    cases cells with
    | nil => cases h
    | cons cell cells =>
      cases cell with
      | error cause => cases h
      | ok v => exact ih h

/-! ## Records -/

/-- A record, and the edits that it was made by. -/
inductive Record.Built : List (Edit Value) → Record → Prop where
  | new : Built [] .empty
  | insert {es : List (Edit Value)} {r : Record} (column : String) (v : Value) (h : Built es r) :
      Built (es ++ [.insert column v]) (r.insert column v).2
  /-- The same, on a record that is handed on. -/
  | put {es : List (Edit Value)} {r : Record} (column : String) (v : Value) (h : Built es r) :
      Built (es ++ [.insert column v]) (r.put column v)
  | remove {es : List (Edit Value)} {r : Record} (column : String) (h : Built es r) :
      Built (es ++ [.remove column]) (r.remove column).2
  | collect (pairs : List (String × Value)) : Built (Edit.ofEntries pairs) (.ofList pairs)
  | decode {text : String} {r : Record} (h : Record.ofJson? text = some r) :
      Built (Edit.ofEntries ((Json.members? text).getD [])) r
  | row {columns : List String} {cells : List (Except String Value)} {r : Record}
      (h : RowCursor.recordOf columns cells .empty = .ok r) :
      Built (Edit.ofEntries (columns.zip (RowCursor.valuesOf cells))) r

theorem Record.Built.follows {es : List (Edit Value)} {r : Record} (h : Record.Built es r) :
    OrderedMap.Follows r es := by
  induction h with
  | new => exact OrderedMap.follows_empty
  | insert column v _ ih =>
    rw [OrderedMap.insert_eq]
    exact ih.insert column v
  | put column v _ ih => exact ih.insert column v
  | remove column _ ih =>
    rw [OrderedMap.remove_eq]
    exact ih.remove column
  | collect pairs => exact OrderedMap.follows_ofList pairs
  | @decode text r h =>
    rw [Record.ofJson?_eq] at h
    obtain ⟨pairs, hpairs, rfl⟩ := Option.map_eq_some_iff.mp h
    rw [hpairs]
    exact OrderedMap.follows_ofList pairs
  | row h =>
    rw [RowCursor.recordFrom_eq_ok h]
    exact OrderedMap.follows_ofList _

/-! ## Filters -/

/-- A filter, and the edits that it was made by. -/
inductive Filter.Built : List (Edit Constraint) → Filter → Prop where
  | new : Built [] .empty
  | insert {es : List (Edit Constraint)} {f : Filter} (field : String) (c : Constraint) (h : Built es f) :
      Built (es ++ [.insert field c]) (f.insert field c).2
  | eq {es : List (Edit Constraint)} {f : Filter} (field : String) (v : Value) (h : Built es f) :
      Built (es ++ [.insert field (.equals v)]) (Filter.eq f field v)
  | oneOf {es : List (Edit Constraint)} {f : Filter} (field : String) (vs : List Value) (h : Built es f) :
      Built (es ++ [.insert field (.oneOf vs)]) (Filter.oneOf f field vs)
  | matching {es : List (Edit Constraint)} {f : Filter} (field : String) (p : Pattern) (h : Built es f) :
      Built (es ++ [.insert field (.matches p)]) (Filter.matching f field p)
  | collect (pairs : List (String × Constraint)) : Built (Edit.ofEntries pairs) (.ofList pairs)

theorem Filter.Built.follows {es : List (Edit Constraint)} {f : Filter} (h : Filter.Built es f) :
    OrderedMap.Follows f es := by
  induction h with
  | new => exact OrderedMap.follows_empty
  | insert field c _ ih =>
    rw [OrderedMap.insert_eq]
    exact ih.insert field c
  | eq field v _ ih => exact ih.insert field (.equals v)
  | oneOf field vs _ ih => exact ih.insert field (.oneOf vs)
  | matching field p _ ih => exact ih.insert field (.matches p)
  | collect pairs => exact OrderedMap.follows_ofList pairs

end TableKeeper
