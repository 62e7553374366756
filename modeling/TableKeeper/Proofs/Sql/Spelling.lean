import TableKeeper.Proofs.OrderedMap
import TableKeeper.Proofs.Sql.Lexing

/-!
  TableKeeper.Proofs.Sql.Spelling — statements as tokens, each parameter with its value.

  1. A slot is a token of a statement and, for a parameter or a literal, the value that it
     stands for. The slots of a part are written beside the part of the filter, the options
     or the record that they come from, so a value has the place that it is about.
  2. `Spells` says that a text is read as some slots wherever its last token ends. `Leads`
     says so of a text that ends in a blank, a bracket or a comma: anything may follow it.
-/

namespace TableKeeper.Sql

open Text

/-! ## Slots -/

/-- The token of a value that is written into the text. -/
def literalToken : Value → Token
  | .null => .word "NULL"
  | .blob bytes => .blob bytes
  | v => .text v.display

inductive Slot where
  | word (w : String)
  | mark (s : String)
  | name (n : String)
  | numeral (n : Nat)
  /-- A parameter and the value that is meant for it. -/
  | parameter (v : Value)
  /-- A value in the text. -/
  | literal (v : Value)

namespace Slot

def token : Slot → Token
  | word w => .word w
  | mark s => .symbol s
  | name n => .name '`' n
  | numeral n => Sql.numeral n
  | parameter _ => .parameter none
  | literal v => literalToken v

/-- The value that is sent for the slot. -/
def sent? : Slot → Option Value
  | parameter v => some v
  | _ => none

end Slot

open Slot

/-- Parts with commas between them. -/
def commaSlots (parts : List (List Slot)) : List Slot := [mark ","].intercalate parts

/-- `lead` and the parts with `sep` between them, or nothing when there are none. -/
def listingSlots (lead sep : List Slot) (parts : List (List Slot)) : List Slot :=
  if parts.isEmpty then [] else lead ++ sep.intercalate parts

/-- The values that are sent for the slots, in their order. -/
def valuesOf (slots : List Slot) : List Value := slots.filterMap Slot.sent?

/-! ## The slots of a clause -/

/-- An item of a list. -/
def itemSlot (b : ListBinding) (v : Value) : Slot :=
  match b with
  | .bound => parameter v
  | .inline => .literal v

def predicateSlots (b : ListBinding) (e : String × Constraint) : List Slot :=
  match e.2 with
  | .equals v => [name e.1, mark "=", parameter v]
  | .matches p => [name e.1, word "LIKE", parameter (.text p.body)]
  | .oneOf vs => [name e.1, word "IN", mark "("] ++ commaSlots (vs.map fun v => [itemSlot b v]) ++ [mark ")"]

def filterSlots (b : ListBinding) (f : Filter) : List Slot :=
  listingSlots [word "WHERE"] [word "AND"] (f.entries.map (predicateSlots b))

def orderSlots (o : QueryOptions) : List Slot :=
  listingSlots [word "ORDER", word "BY"] [mark ","] ((orderOf o).map fun t => [name t.1, word t.2.text])

def limitSlots (limit offset : Option UInt64) : List Slot :=
  match limit, offset with
  | some n, _ => [word "LIMIT", .numeral n.toNat]
  | none, some _ => [word "LIMIT", mark "-", .numeral 1]
  | none, none => []

def offsetSlots : Option UInt64 → List Slot
  | some n => [word "OFFSET", .numeral n.toNat]
  | none => []

def clauseSlots (b : ListBinding) (f : Filter) (o : QueryOptions) : List Slot :=
  filterSlots b f ++ orderSlots o ++ (limitSlots o.limit? o.offset? ++ offsetSlots o.offset?)

/-- Without order and page a clause is its filter. -/
theorem clauseSlots_default (b : ListBinding) (f : Filter) : clauseSlots b f {} = filterSlots b f := by
  have hpage : clauseSlots b f {} = filterSlots b f ++ [] ++ [] := rfl
  rw [hpage, List.append_nil, List.append_nil]

/-! ## Tokens of parts -/

theorem intercalate_cons_flatMap {β : Type} (sep : β) (x : List β) (xs : List (List β)) :
    [sep].intercalate (x :: xs) = x ++ xs.flatMap (sep :: ·) := by
  induction xs generalizing x with
  | nil => simp
  | cons y ys ih => rw [List.intercalate_cons_cons, ih y, List.flatMap_cons, List.append_assoc, List.cons_append,
      List.nil_append, List.cons_append]

theorem map_intercalate {α β : Type} (f : α → β) (sep : List α) (parts : List (List α)) :
    (sep.intercalate parts).map f = (sep.map f).intercalate (parts.map (List.map f)) := by
  induction parts with
  | nil => rfl
  | cons part parts ih =>
    cases parts with
    | nil => simp
    | cons next parts => simp only [List.map_cons, List.intercalate_cons_cons, List.map_append] at ih ⊢; rw [ih]

theorem tokens_commas {α : Type} (slots : α → List Slot) (xs : List α) :
    (commaSlots (xs.map slots)).map token = [Token.symbol ","].intercalate (xs.map fun x => (slots x).map token) := by
  rw [commaSlots, map_intercalate, List.map_map]
  rfl

/-! ## Parameters and values -/

theorem token_eq_parameter {s : Slot} {n : Option Nat} (h : s.token = .parameter n) : n = none ∧ s.sent?.isSome := by
  cases s with
  | parameter v => cases h; exact ⟨rfl, rfl⟩
  | literal v => cases v <;> cases h
  | numeral k =>
    simp only [token, Sql.numeral, Token.decimalToken] at h
    repeat' split at h
    all_goals cases h
  | _ => cases h

theorem parameter_notMem {slots : List Slot} {n : Nat} : .parameter (some n) ∉ slots.map token := by
  intro h
  obtain ⟨s, -, hs⟩ := List.mem_map.mp h
  exact absurd (token_eq_parameter hs).1 (by simp)

@[simp] theorem valuesOf_nil : valuesOf [] = [] := rfl

@[simp] theorem valuesOf_cons (s : Slot) (slots : List Slot) :
    valuesOf (s :: slots) = s.sent?.toList ++ valuesOf slots := by
  cases h : s.sent? <;> simp [valuesOf, h]

@[simp] theorem valuesOf_append (xs ys : List Slot) : valuesOf (xs ++ ys) = valuesOf xs ++ valuesOf ys :=
  List.filterMap_append

/-- One value is sent for each parameter. -/
theorem count_parameter (slots : List Slot) :
    (slots.map token).count (.parameter none) = (valuesOf slots).length := by
  induction slots with
  | nil => rfl
  | cons s slots ih =>
    rw [List.map_cons, List.count_cons, ih, valuesOf_cons, List.length_append]
    cases hs : s.sent? with
    | some v =>
      have htoken : s.token = .parameter none := by cases s <;> cases hs; rfl
      simp [htoken, Nat.add_comm]
    | none =>
      have htoken : s.token ≠ .parameter none := fun h => by simpa [hs] using (token_eq_parameter h).2
      simp [htoken]

/-- The value of a parameter is sent as its number says. -/
theorem valuesOf_getElem? (before after : List Slot) (v : Value) :
    (valuesOf (before ++ parameter v :: after))[(before.map token).count (.parameter none)]? = some v := by
  rw [count_parameter, valuesOf_append, List.getElem?_append_right (Nat.le_refl _), Nat.sub_self]
  rfl

theorem valuesOf_intercalate {sep : List Slot} (h : valuesOf sep = []) (parts : List (List Slot)) :
    valuesOf (sep.intercalate parts) = parts.flatMap valuesOf := by
  induction parts with
  | nil => rfl
  | cons part parts ih =>
    cases parts with
    | nil => simp
    | cons next parts =>
      rw [List.intercalate_cons_cons, valuesOf_append, valuesOf_append, h, ih, List.append_nil, ← List.flatMap_cons]

theorem valuesOf_commas (parts : List (List Slot)) : valuesOf (commaSlots parts) = parts.flatMap valuesOf :=
  valuesOf_intercalate rfl parts

theorem valuesOf_listing {lead sep : List Slot} (hl : valuesOf lead = []) (hs : valuesOf sep = [])
    (parts : List (List Slot)) :
    valuesOf (listingSlots lead sep parts) = parts.flatMap valuesOf := by
  cases parts with
  | nil => rfl
  | cons part parts =>
    show valuesOf (lead ++ sep.intercalate (part :: parts)) = _
    rw [valuesOf_append, hl, valuesOf_intercalate hs, List.nil_append]

theorem valuesOf_predicate (b : ListBinding) (e : String × Constraint) :
    valuesOf (predicateSlots b e) = parametersOf b e := by
  obtain ⟨field, c⟩ := e
  cases c with
  | equals v => rfl
  | «matches» p => rfl
  | oneOf vs =>
    have hitems : valuesOf (predicateSlots b (field, .oneOf vs)) = vs.flatMap fun v => valuesOf [itemSlot b v] := by
      simp only [predicateSlots, valuesOf_append, valuesOf_commas, List.flatMap_map]
      simp [Slot.sent?]
    rw [hitems]
    cases b with
    | bound => simp [itemSlot, parametersOf, Slot.sent?]
    | inline => simp [itemSlot, parametersOf, Slot.sent?]

/-- The values of a clause are those of its filter; order and page send none. -/
theorem valuesOf_clause (b : ListBinding) (f : Filter) (o : QueryOptions) :
    valuesOf (clauseSlots b f o) = (compile b f o).values := by
  have horder : valuesOf (orderSlots o) = [] := by
    rw [orderSlots, valuesOf_listing rfl rfl, List.flatMap_map]
    exact List.flatMap_eq_nil_iff.mpr fun _ _ => rfl
  have hpage : ∀ l s : Option UInt64, valuesOf (limitSlots l s ++ offsetSlots s) = [] := by
    intro l s
    cases l <;> cases s <;> rfl
  rw [clauseSlots, valuesOf_append, valuesOf_append, horder, hpage, List.append_nil, List.append_nil, filterSlots,
    valuesOf_listing rfl rfl, List.flatMap_map]
  simp only [valuesOf_predicate, compile]

/-! ## Spelling -/

/-- In front of every text with the property, the text is read as the slots. -/
def SpelledBefore (after : List Char → Prop) (text : String) (slots : List Slot) : Prop :=
  ∀ rest ts, after rest → Lexes rest ts → Lexes (text.toList ++ rest) (slots.map token ++ ts)

/-- The text is read as the slots wherever its last token ends. -/
abbrev Spells : String → List Slot → Prop := SpelledBefore Soft

/-- The text is read as the slots, whatever follows it. -/
abbrev Leads : String → List Slot → Prop := SpelledBefore (· ≠ [])

theorem SpelledBefore.join {after between : List Char → Prop} {a b : String} {xs ys : List Slot}
    (ha : SpelledBefore between a xs) (hb : SpelledBefore after b ys)
    (h : ∀ rest, after rest → between (b.toList ++ rest)) : SpelledBefore after (a ++ b) (xs ++ ys) := by
  intro rest ts hr hl
  have hab := ha _ _ (h rest hr) (hb rest ts hr hl)
  rwa [String.toList_append, List.append_assoc, List.map_append, List.append_assoc]

theorem SpelledBefore.of_text {after : List Char → Prop} {a b : String} {xs : List Slot}
    (h : SpelledBefore after a xs) (he : a = b) : SpelledBefore after b xs := he ▸ h

theorem SpelledBefore.of_slots {after : List Char → Prop} {a : String} {xs ys : List Slot}
    (h : SpelledBefore after a xs) (he : xs = ys) : SpelledBefore after a ys := he ▸ h

theorem spells_nil : Spells "" [] := fun _ _ _ h => h

/-- As a whole text, it has no other tokens. -/
theorem Spells.tokens_eq {text : String} {slots : List Slot} (h : Spells text slots) :
    tokens text.toList = slots.map token ++ [.ending] := by
  have hl := h [] [.ending] soft_nil .ending
  rw [List.append_nil] at hl
  exact hl.tokens_eq

theorem Spells.append {a b : String} {xs ys : List Slot} (ha : Spells a xs) (hb : Spells b ys) (hs : Soft b.toList) :
    Spells (a ++ b) (xs ++ ys) :=
  SpelledBefore.join ha hb fun _ hr => hs.append hr

theorem Leads.append {after : List Char → Prop} {a b : String} {xs ys : List Slot} (ha : Leads a xs)
    (hb : SpelledBefore after b ys) (hn : b ≠ "") : SpelledBefore after (a ++ b) (xs ++ ys) :=
  SpelledBefore.join ha hb fun _ _ => by simp [hn]

/-- A text that begins with such a mark ends what stands before it, whatever follows. -/
theorem Soft.append_right {a : List Char} (ha : Soft a) (hn : a ≠ []) (b : List Char) : Soft (a ++ b) := by
  obtain ⟨c, cs, rfl⟩ := List.exists_cons_of_ne_nil hn
  exact soft_cons (ha c rfl) _

theorem soft_lead {a : String} (ha : Soft a.toList) (hn : a ≠ "") (b : String) : Soft (a ++ b).toList := by
  rw [String.toList_append]
  exact ha.append_right (by simpa using hn) _

theorem Spells.leads {a b : String} {xs ys : List Slot} (ha : Spells a xs) (hb : Leads b ys) (hn : b ≠ "")
    (hs : Soft b.toList) : Leads (a ++ b) (xs ++ ys) :=
  SpelledBefore.join ha hb fun rest _ => hs.append_right (by simpa using hn) rest

/-- What stands in the middle may be empty, as long as something closes it. -/
theorem Leads.closing {after : List Char → Prop} {a b c : String} {xs ys zs : List Slot} (ha : Leads a xs)
    (hb : Spells b ys) (hc : SpelledBefore after c zs) (hn : c ≠ "") (hs : Soft c.toList) :
    SpelledBefore after (a ++ b ++ c) (xs ++ ys ++ zs) := by
  have hcs : c.toList ≠ [] := by simpa using hn
  have hab : SpelledBefore (fun rest => Soft rest ∧ rest ≠ []) (a ++ b) (xs ++ ys) :=
    SpelledBefore.join ha (fun rest ts hr h => hb rest ts hr.1 h) fun rest hr => by simp [hr.2]
  exact SpelledBefore.join hab hc fun rest _ => ⟨hs.append_right hcs rest, by simp [hn]⟩

theorem leads_blank : Leads " " [] := fun _ _ hr h => h.space hr

theorem leads_comma : Leads "," [mark ","] := fun rest _ _ h => .token 0 (reads_comma rest) h

theorem leads_open : Leads "(" [mark "("] := fun rest _ _ h => .token 0 (reads_open rest) h

theorem spells_close : Spells ")" [mark ")"] := fun rest _ _ h => .token 0 (reads_close rest) h

theorem spells_star : Spells "*" [mark "*"] := fun rest _ _ h => .token 0 (reads_star rest) h

theorem spells_word {w : String} (hw : isWord w = true) : Spells w [word w] :=
  fun _ _ hs h => .token 0 (reads_word hw (hs.takeWhile_eq_nil (by decide))) h

theorem spells_name {n : String} (hn : Plain n) : Spells (quoteName n) [name n] :=
  fun _ _ hs h => .token 0 (reads_name hn hs) h

theorem spells_numeral (n : Nat) : Spells (toString n) [.numeral n] := fun _ _ hs h => .token 0 (reads_numeral n hs) h

theorem spells_parameter (v : Value) : Spells "?" [parameter v] := fun _ _ hs h => .token 0 (reads_parameter hs) h

theorem spells_equals (v : Value) : Spells "=?" [mark "=", parameter v] :=
  fun _ _ hs h => .token 0 (reads_equals (c := '?') (by decide) _) (.token 0 (reads_parameter hs) h)

theorem spells_quoted {v : Value} (hv : literalToken v = .text v.display) :
    Spells ("'" ++ escaped v ++ "'") [.literal v] := by
  intro rest ts hs h
  have htext : ("'" ++ escaped v ++ "'").toList = '\'' :: (doubleQuotes v.display.toList ++ ['\'']) := by
    simp [escaped]
  have hreads := reads_text v.display hs
  rw [htext]
  exact .token 0 (hv ▸ hreads) h

theorem spells_literal (v : Value) : Spells (literal v) [.literal v] := by
  cases v with
  | null => exact spells_word (w := "NULL") (by decide)
  | blob bytes =>
    intro rest ts hs h
    have htext : (literal (.blob bytes)).toList = 'X' :: '\'' :: (bytes.flatMap hexByte ++ ['\'']) := by
      simp [literal, hex]
    rw [htext]
    exact .token 0 (reads_blob bytes rest) h
  | integer n => exact spells_quoted (v := .integer n) rfl
  | real x => exact spells_quoted (v := .real x) rfl
  | text s => exact spells_quoted (v := .text s) rfl

theorem literal_ne (v : Value) : literal v ≠ "" := by
  cases v <;> simp [literal]

/-- A word with a blank behind it. -/
theorem leads_word {w : String} (hw : isWord w = true) : Leads (w ++ " ") [word w] :=
  Spells.leads (spells_word hw) leads_blank (by decide) (by decide)

/-- A word between blanks. -/
theorem leads_spaced {w : String} (hw : isWord w = true) (hn : w ≠ "") : Leads (" " ++ w ++ " ") [word w] :=
  Spells.leads (leads_blank.append (spells_word hw) hn) leads_blank (by decide) (by decide)

theorem spells_joined {α : Type} {sep : String} {between : List Slot} {text : α → String} {slots : α → List Slot}
    (hsep : Leads sep between) (hsoft : Soft sep.toList) (hn : sep ≠ "") (xs : List α)
    (h : ∀ x ∈ xs, Spells (text x) (slots x) ∧ text x ≠ "") :
    Spells (joined sep (xs.map text)) (between.intercalate (xs.map slots)) ∧
      (xs ≠ [] → joined sep (xs.map text) ≠ "") := by
  induction xs with
  | nil => exact ⟨spells_nil, fun hne => absurd rfl hne⟩
  | cons x xs ih =>
    obtain ⟨hx, hxn⟩ := h x List.mem_cons_self
    cases xs with
    | nil =>
      rw [List.map_singleton, List.map_singleton, List.intercalate_singleton]
      exact ⟨hx, fun _ => hxn⟩
    | cons y ys =>
      obtain ⟨htail, hne⟩ := ih fun z hz => h z (List.mem_cons_of_mem _ hz)
      have hlead := Spells.leads hx hsep hn hsoft
      refine ⟨?_, fun _ => by simp [joined, hxn]⟩
      simpa only [List.map_cons, List.intercalate_cons_cons, joined] using hlead.append htail
        (hne (List.cons_ne_nil y ys))

/-- A quoted name is never empty text. -/
theorem quoteName_ne (n s : String) : quoteName n ++ s ≠ "" := by simp [quoteName]

theorem spells_commas {α : Type} {text : α → String} {slots : α → List Slot} {xs : List α}
    (h : ∀ x ∈ xs, Spells (text x) (slots x) ∧ text x ≠ "") :
    Spells (joined "," (xs.map text)) (commaSlots (xs.map slots)) :=
  (spells_joined leads_comma (by decide) (by decide) xs h).1

theorem spells_listing {α : Type} {lead sep : String} {opening between : List Slot} {text : α → String}
    {slots : α → List Slot} {xs : List α} (hlead : Leads lead opening) (hsep : Leads sep between)
    (hsoft : Soft sep.toList) (hn : sep ≠ "") (h : ∀ x ∈ xs, Spells (text x) (slots x) ∧ text x ≠ "") :
    Spells (listing lead sep (xs.map text)) (listingSlots opening between (xs.map slots)) := by
  cases xs with
  | nil => exact spells_nil
  | cons x xs =>
    obtain ⟨hs, hne⟩ := spells_joined hsep hsoft hn (x :: xs) h
    exact hlead.append hs (hne (List.cons_ne_nil x xs))

theorem soft_listing {lead : String} (h : Soft lead.toList) (hn : lead ≠ "") (sep : String) (parts : List String) :
    Soft (listing lead sep parts).toList := by
  unfold listing
  split
  · exact soft_nil
  · exact soft_lead h hn _

/-! ## Clauses are spelled -/

theorem spells_like (v : Value) : Spells " LIKE ?" [word "LIKE", parameter v] :=
  have hlike := leads_spaced (w := "LIKE") (by decide) (by decide)
  (hlike.append (spells_parameter v) (by decide)).of_text (by decide)

theorem leads_in : Leads " IN (" [word "IN", mark "("] :=
  have hin := leads_spaced (w := "IN") (by decide) (by decide)
  (hin.append leads_open (by decide)).of_text (by decide)

/-- A list in brackets, whatever its items are. -/
theorem spells_oneOf {field : String} (hf : Plain field) {items : String} {slots : List Slot}
    (h : Spells items slots) :
    Spells (quoteName field ++ " IN (" ++ items ++ ")")
      ([name field, word "IN", mark "("] ++ slots ++ [mark ")"]) := by
  have hopen := Spells.leads (spells_name hf) leads_in (by decide) (by decide)
  exact hopen.closing h spells_close (by decide) (by decide)

theorem spells_predicate (b : ListBinding) {e : String × Constraint} (he : Plain e.1) :
    Spells (predicateOf b e).text (predicateSlots b e) := by
  obtain ⟨field, c⟩ := e
  cases c with
  | equals v => exact Spells.append (spells_name he) (spells_equals v) (by decide)
  | «matches» p => exact Spells.append (spells_name he) (spells_like _) (by decide)
  | oneOf vs =>
    cases b with
    | bound =>
      refine spells_oneOf he ?_
      rw [List.map_map]
      exact spells_commas fun v _ => ⟨spells_parameter v, by simp [Item.text]⟩
    | inline =>
      refine spells_oneOf he ?_
      rw [List.map_map]
      exact spells_commas fun v _ => ⟨spells_literal v, literal_ne v⟩

theorem predicate_text_ne (p : Predicate) : p.text ≠ "" := by
  cases p <;> simp [Predicate.text, quoteName]

theorem isWord_direction (d : Direction) : isWord d.text = true := by cases d <;> decide

theorem spells_orderTerm {t : String × Direction} (ht : Plain t.1) :
    Spells (orderTermText t) [name t.1, word t.2.text] := by
  have hname := Spells.leads (spells_name ht) leads_blank (by decide) (by decide)
  exact hname.append (spells_word (isWord_direction t.2)) (by cases t.2 <;> decide)

theorem leads_where : Leads " WHERE " [word "WHERE"] := leads_spaced (w := "WHERE") (by decide) (by decide)

theorem leads_and : Leads " AND " [word "AND"] := leads_spaced (w := "AND") (by decide) (by decide)

theorem leads_orderBy : Leads " ORDER BY " [word "ORDER", word "BY"] :=
  have horder := leads_spaced (w := "ORDER") (by decide) (by decide)
  (horder.append (leads_word (w := "BY") (by decide)) (by decide)).of_text (by decide)

theorem leads_limit : Leads " LIMIT " [word "LIMIT"] := leads_spaced (w := "LIMIT") (by decide) (by decide)

theorem leads_offset : Leads " OFFSET " [word "OFFSET"] := leads_spaced (w := "OFFSET") (by decide) (by decide)

theorem spells_page (limit offset : Option UInt64) :
    Spells (pageText limit offset) (limitSlots limit offset ++ offsetSlots offset) := by
  have hlimit : ∀ n : UInt64, Spells (" LIMIT " ++ toString n.toNat) [word "LIMIT", .numeral n.toNat] := fun n =>
    leads_limit.append (spells_numeral _) (by simp)
  have hoffset : ∀ n : UInt64, Spells (" OFFSET " ++ toString n.toNat) [word "OFFSET", .numeral n.toNat] := fun n =>
    leads_offset.append (spells_numeral _) (by simp)
  have hunlimited : Spells " LIMIT -1" [word "LIMIT", mark "-", .numeral 1] := by
    have hminus : Spells "-1" [mark "-", .numeral 1] := fun rest ts hs h =>
      .token 0 (reads_minus rest) (.token 0 (reads_numeral 1 hs) h)
    exact (leads_limit.append hminus (by decide)).of_text (by decide)
  cases limit with
  | some n =>
    cases offset with
    | some m => exact Spells.append (hlimit n) (hoffset m) (soft_lead (by decide) (by decide) _)
    | none => exact Spells.append (hlimit n) spells_nil soft_nil
  | none =>
    cases offset with
    | some m => exact Spells.append hunlimited (hoffset m) (soft_lead (by decide) (by decide) _)
    | none => exact spells_nil

theorem soft_page (limit offset : Option UInt64) : Soft (pageText limit offset).toList := by
  cases limit with
  | some n => exact soft_lead (soft_lead (by decide) (by decide) _) (by simp) _
  | none =>
    cases offset with
    | some m => exact soft_lead (a := " LIMIT -1") (by decide) (by decide) _
    | none => exact soft_nil

/-- Every entry of the map has a name that back-ticks keep. -/
abbrev PlainNames {α : Type} (m : OrderedMap α) : Prop := ∀ n ∈ m.names, Plain n

/-- A filter and options have only such names. -/
structure PlainQuery (f : Filter) (o : QueryOptions) : Prop where
  filter : PlainNames f
  order : ∀ t ∈ o.order, Plain t.1
  fields : ∀ ns ∈ o.fields, ∀ n ∈ ns, Plain n

theorem PlainNames.entry {α : Type} {m : OrderedMap α} (h : PlainNames m) {e : String × α} (he : e ∈ m.entries) :
    Plain e.1 :=
  h e.1 (List.mem_map_of_mem he)

theorem PlainNames.query {f : Filter} (h : PlainNames f) {o : QueryOptions} (ho : o.order = [])
    (hf : ∀ ns ∈ o.fields, ∀ n ∈ ns, Plain n) : PlainQuery f o :=
  ⟨h, by simp [ho], hf⟩

theorem PlainNames.put {α : Type} {m : OrderedMap α} (h : PlainNames m) {n : String} (hn : Plain n) (a : α) :
    PlainNames (m.put n a) := by
  intro k hk
  rcases OrderedMap.mem_names_put hk with hk | rfl
  · exact h k hk
  · exact hn

theorem plainNames_empty {α : Type} : PlainNames (OrderedMap.empty : OrderedMap α) := by intro n hn; cases hn

theorem plain_orderOf {o : QueryOptions} (h : ∀ t ∈ o.order, Plain t.1) : ∀ t ∈ orderOf o, Plain t.1 := by
  intro t ht
  obtain ⟨u, hu, hd⟩ := List.mem_filterMap.mp ht
  obtain ⟨d, -, rfl⟩ := Option.map_eq_some_iff.mp hd
  exact h u hu

theorem spells_clause (b : ListBinding) {f : Filter} {o : QueryOptions} (h : PlainQuery f o) :
    Spells (compile b f o).text (clauseSlots b f o) := by
  have hfilter : Spells (listing " WHERE " " AND " ((compile b f o).clause.predicates.map Predicate.text))
      (filterSlots b f) := by
    simp only [compile, List.map_map]
    exact spells_listing leads_where leads_and (by decide) (by decide) fun e he =>
      ⟨spells_predicate b (h.filter.entry he), predicate_text_ne _⟩
  have horder : Spells (listing " ORDER BY " ", " ((orderOf o).map orderTermText)) (orderSlots o) :=
    spells_listing leads_orderBy (leads_comma.append leads_blank (by decide))
      (by decide) (by decide) fun t ht =>
        ⟨spells_orderTerm (plain_orderOf h.order t ht), by simp [orderTermText, quoteName]⟩
  exact Spells.append (Spells.append hfilter horder (soft_listing (by decide) (by decide) _ _))
    (spells_page _ _) (soft_page _ _)

theorem soft_clause (b : ListBinding) (f : Filter) (o : QueryOptions) : Soft (compile b f o).text.toList := by
  simp only [Compiled.text, Clause.text, String.toList_append]
  refine Soft.append (Soft.append ?_ ?_) (soft_page _ _)
  · exact soft_listing (by decide) (by decide) _ _
  · exact soft_listing (by decide) (by decide) _ _

end TableKeeper.Sql
