import TableKeeper.Json.Document
import TableKeeper.Proofs.Json.Scalars
import TableKeeper.Proofs.OrderedMap

/-!
  TableKeeper.Proofs.Json.Document — a record is read back from its JSON text.

  1. A value has no mark of its class in JSON. It is read as the first of null, integer, real,
     text and bytes that its text can be (`readValue?_eq`), and the text of a value is refused by
     every class in front of its own (`readValue?_json`). Reals are left out.
  2. What stands between brackets is read item by item, if each item is read where a comma or the
     closing bracket follows (`readList?_joined`).
  3. A record is read with its columns in order, since no column merges with another
     (`Record.ofJson?_json`).
-/

namespace TableKeeper

open Json Number Text

namespace Value

def isReal : Value → Bool
  | real _ => true
  | _ => false

end Value

namespace Json

/-! ## Classes that are tried in order -/

def readNull? : List Char → Option (Value × List Char)
  | 'n' :: 'u' :: 'l' :: 'l' :: rest => some (.null, rest)
  | _ => none

def readInteger? (cs : List Char) : Option (Value × List Char) :=
  match readNumeral? cs with
  | some (.integer n, rest) => some (.integer n, rest)
  | _ => none

/-- An integer is a real too. -/
def readReal? (cs : List Char) : Option (Value × List Char) :=
  match readNumeral? cs with
  | some (.integer n, rest) => some (.real (.ofInt n.toInt), rest)
  | some (.real x, rest) => some (.real x, rest)
  | none => none

def readText? : List Char → Option (Value × List Char)
  | '"' :: rest => (unquote? rest).map fun p => (.text (.ofList p.1), p.2)
  | _ => none

def readBytes? : List Char → Option (Value × List Char)
  | '[' :: rest => (readList? readByte? ']' rest).map fun p => (.blob p.1, p.2)
  | _ => none

/-- The first class that the text can be. -/
def readFirst? (cs : List Char) : Option (Value × List Char) :=
  readNull? cs <|> readInteger? cs <|> readReal? cs <|> readText? cs <|> readBytes? cs

theorem readNumeral?_none {c : Char} (hd : c.isDigit = false) (hm : c ≠ '-') (rest : List Char) :
    readNumeral? (c :: rest) = none := by
  have hz : c ≠ '0' := by
    rintro rfl
    exact absurd hd (by decide)
  simp [readNumeral?, readWhole?, hd, hm, hz]

/-- A value is read as the first class that its text can be. -/
theorem readValue?_eq (cs : List Char) : readValue? cs = readFirst? cs := by
  unfold readValue?
  split
  · rfl
  · next rest =>
    have hn : readNumeral? ('"' :: rest) = none := readNumeral?_none (by decide) (by decide) rest
    simp [readFirst?, readNull?, readInteger?, readReal?, readText?, readBytes?, hn]
  · next rest =>
    have hn : readNumeral? ('[' :: rest) = none := readNumeral?_none (by decide) (by decide) rest
    simp [readFirst?, readNull?, readInteger?, readReal?, readText?, readBytes?, hn]
  · next hnull hquote hbracket =>
    have h1 : readNull? cs = none := by
      unfold readNull?
      split
      · exact absurd rfl (hnull _)
      · rfl
    have h2 : readText? cs = none := by
      unfold readText?
      split
      · exact absurd rfl (hquote _)
      · rfl
    have h3 : readBytes? cs = none := by
      unfold readBytes?
      split
      · exact absurd rfl (hbracket _)
      · rfl
    rw [readFirst?, h1, h2, h3, readInteger?, readReal?]
    cases readNumeral? cs with
    | none => rfl
    | some p =>
      obtain ⟨n, rest⟩ := p
      cases n <;> rfl

/-! ## Items between brackets -/

section Items

variable {α : Type} {item? : List Char → Option (α × List Char)} {close : Char} {text : α → String} {as : List α}

/-- The text is read as the item where a comma or the closing bracket follows, and begins with
neither a blank nor the bracket. -/
structure ReadsItem (item? : List Char → Option (α × List Char)) (close : Char) (text : String) (a : α) : Prop where
  read : ∀ rest : List Char, rest.head? = some ',' ∨ rest.head? = some close →
    item? (text.toList ++ rest) = some (a, rest)
  solid : ∃ c cs, text.toList = c :: cs ∧ isJsonBlank c = false ∧ c ≠ close

theorem skipBlank_solid {c : Char} (hc : isJsonBlank c = false) (rest : List Char) :
    skipBlank (c :: rest) = c :: rest :=
  List.dropWhile_cons_of_neg (by simp [hc])

theorem ReadsItem.skip {t : String} {a : α} (h : ReadsItem item? close t a) (rest : List Char) :
    skipBlank (t.toList ++ rest) = t.toList ++ rest := by
  obtain ⟨c, cs, ht, hc, -⟩ := h.solid
  rw [ht, List.cons_append, skipBlank_solid hc]

theorem joined_cons {a b : α} {as : List α} :
    (joined "," ((a :: b :: as).map text)).toList =
      (text a).toList ++ ',' :: (joined "," ((b :: as).map text)).toList := by
  simp [joined]

/-- One item after the other is read, up to the closing bracket. -/
theorem readItems?_joined (hcomma : close ≠ ',') (hblank : isJsonBlank close = false) (hne : as ≠ [])
    (h : ∀ a ∈ as, ReadsItem item? close (text a) a) (fuel : Nat) (hf : as.length ≤ fuel) (rest : List Char) :
    readItems? item? close fuel ((joined "," (as.map text)).toList ++ close :: rest) = some (as, rest) := by
  induction as generalizing fuel with
  | nil => exact absurd rfl hne
  | cons a as ih =>
    obtain ⟨fuel, rfl⟩ : ∃ f, fuel = f + 1 := ⟨fuel - 1, by simp at hf; omega⟩
    have ha := h a List.mem_cons_self
    cases as with
    | nil =>
      have hread := ha.read (close :: rest) (.inr rfl)
      show readItems? item? close (fuel + 1) ((text a).toList ++ close :: rest) = some ([a], rest)
      simp [readItems?, ha.skip, hread, skipBlank_solid hblank]
    | cons b as =>
      have hread := ha.read (',' :: ((joined "," ((b :: as).map text)).toList ++ close :: rest)) (.inl rfl)
      have hmore := ih (by simp) (fun x hx => h x (List.mem_cons_of_mem _ hx)) fuel (by simpa using hf)
      have hskip : ∀ cs : List Char, skipBlank (',' :: cs) = ',' :: cs := skipBlank_solid (by decide)
      rw [joined_cons, List.append_assoc, List.cons_append]
      simp only [readItems?, ha.skip, hread, hskip, hmore, Option.map_some]

theorem length_le_joined (h : ∀ a ∈ as, text a ≠ "") : as.length ≤ (joined "," (as.map text)).toList.length := by
  induction as with
  | nil => exact Nat.zero_le _
  | cons a as ih =>
    have ha : 0 < (text a).toList.length := by
      rw [List.length_pos_iff, ne_eq, String.toList_eq_nil_iff]
      exact h a List.mem_cons_self
    cases as with
    | nil => exact ha
    | cons b as =>
      have hmore := ih fun x hx => h x (List.mem_cons_of_mem _ hx)
      rw [joined_cons, List.length_append, List.length_cons, List.length_cons]
      simp only [List.length_cons] at hmore ⊢
      omega

/-- A list is read back, empty or not. -/
theorem readList?_joined (hcomma : close ≠ ',') (hblank : isJsonBlank close = false)
    (h : ∀ a ∈ as, ReadsItem item? close (text a) a) (rest : List Char) :
    readList? item? close ((joined "," (as.map text)).toList ++ close :: rest) = some (as, rest) := by
  cases as with
  | nil =>
    show readList? item? close (close :: rest) = some ([], rest)
    simp [readList?, skipBlank_solid hblank]
  | cons a as =>
    have ha := h a List.mem_cons_self
    obtain ⟨c, cs, ht, hc, hne⟩ := ha.solid
    obtain ⟨more, hmore⟩ : ∃ more, (joined "," ((a :: as).map text)).toList = c :: more := by
      cases as with
      | nil => exact ⟨cs, ht⟩
      | cons b as => exact ⟨_, by rw [joined_cons, ht]; rfl⟩
    have hlength : (a :: as).length ≤ (joined "," ((a :: as).map text)).toList.length := by
      refine length_le_joined fun x hx => ?_
      obtain ⟨c, cs, ht, -⟩ := (h x hx).solid
      rintro hempty
      rw [hempty] at ht
      cases ht
    have hitems := readItems?_joined hcomma hblank (List.cons_ne_nil a as) h
      ((more ++ close :: rest).length + 2) (by rw [hmore] at hlength; simp at hlength ⊢; omega) rest
    rw [hmore, List.cons_append] at hitems ⊢
    rw [readList?, skipBlank_solid hc]
    simp only [if_neg hne, hitems]

end Items

/-! ## Values -/

theorem endsNumber_cons {c : Char} (h : c ∈ [',', ']', '\x7d']) (rest : List Char) : EndsNumber (c :: rest) := by
  rintro d ⟨⟩
  simp only [List.mem_cons, List.not_mem_nil, or_false] at h
  rcases h with rfl | rfl | rfl <;> decide

theorem endsNumber_of_head {rest : List Char} {close : Char} (hc : close ∈ [']', '\x7d'])
    (h : rest.head? = some ',' ∨ rest.head? = some close) : EndsNumber rest := by
  cases rest with
  | nil => simp at h
  | cons c rest =>
    refine endsNumber_cons ?_ rest
    rcases h with h | h
    · exact Option.some.inj h ▸ List.mem_cons_self
    · exact Option.some.inj h ▸ List.mem_cons_of_mem _ hc

/-- What a number begins with is no blank, no bracket and no word. -/
theorem solid_of_digit {c : Char} (h : c = '-' ∨ c.isDigit = true) : isJsonBlank c = false ∧ c ≠ ']' ∧ c ≠ 'n' := by
  rcases h with rfl | h
  · decide
  · refine ⟨?_, ?_, ?_⟩
    · cases hb : isJsonBlank c with
      | false => rfl
      | true =>
        simp only [isJsonBlank, Bool.or_eq_true, beq_iff_eq] at hb
        rcases hb with ((rfl | rfl) | rfl) | rfl <;> exact absurd h (by decide)
    · rintro rfl
      exact absurd h (by decide)
    · rintro rfl
      exact absurd h (by decide)

theorem toInt_begins (n : Int64) : ∃ c cs, (toString n.toInt).toList = c :: cs ∧ (c = '-' ∨ c.isDigit = true) := by
  obtain ⟨negative, k, htext, -⟩ := toString_toInt n
  obtain ⟨c, cs, hcs, hc⟩ := toString_begins k
  rw [htext]
  cases negative with
  | true => exact ⟨'-', _, rfl, .inl rfl⟩
  | false => exact ⟨c, cs, hcs, .inr hc⟩

/-- A byte is read back in a list of bytes. -/
theorem readsItem_byte (b : UInt8) : ReadsItem readByte? ']' (toString b.toNat) b where
  read rest h := by
    have hb : b.toNat < 256 := b.toNat_lt
    have hn := readNumeral?_toString (k := b.toNat) (by omega) (endsNumber_of_head (by simp) h)
    have hback : (Int64.ofInt b.toNat).toInt = b.toNat :=
      Int64.toInt_ofInt_of_le (by omega) (by omega)
    simp only [readByte?, hn, hback, Int.toNat_natCast, UInt8.ofNat_toNat]
    rw [if_pos ⟨by omega, by omega⟩]
  solid := by
    obtain ⟨c, cs, hcs, hc⟩ := toString_begins b.toNat
    obtain ⟨hblank, hbracket, -⟩ := solid_of_digit (.inr hc)
    exact ⟨c, cs, hcs, hblank, hbracket⟩

/-- A value is read back: each class in front of its own refuses its text. -/
theorem readValue?_json {v : Value} (hv : v.isReal = false) {rest : List Char} (hr : EndsNumber rest) :
    readValue? (v.json.toList ++ rest) = some (v, rest) := by
  rw [readValue?_eq, readFirst?]
  cases v with
  | null => rfl
  | integer n =>
    obtain ⟨c, cs, hcs, hc⟩ := toInt_begins n
    have hword : c ≠ 'n' := (solid_of_digit hc).2.2
    have hnull : readNull? ((Value.integer n).json.toList ++ rest) = none := by
      rw [Value.json, hcs]
      simp [readNull?, hword]
    have hn : readInteger? ((Value.integer n).json.toList ++ rest) = some (.integer n, rest) := by
      rw [readInteger?, Value.json, readNumeral?_toInt n hr]
    rw [hnull, hn]
    rfl
  | real x => cases hv
  | text s =>
    have htext : (Value.text s).json.toList ++ rest = '"' :: (s.toList.flatMap escapeChar ++ '"' :: rest) := by
      simp [Value.json, quote_toList]
    have hn : readNumeral? ('"' :: (s.toList.flatMap escapeChar ++ '"' :: rest)) = none :=
      readNumeral?_none (by decide) (by decide) _
    rw [htext]
    simp [readNull?, readInteger?, readReal?, hn, readText?, unquote?_quoted]
  | blob bytes =>
    have htext : (Value.blob bytes).json.toList ++ rest =
        '[' :: ((joined "," (bytes.map fun b => toString b.toNat)).toList ++ ']' :: rest) := by
      simp [Value.json]
    have hn : ∀ cs, readNumeral? ('[' :: cs) = none := readNumeral?_none (by decide) (by decide)
    have hlist : readList? readByte? ']' ((joined "," (bytes.map fun b => toString b.toNat)).toList ++ ']' :: rest) =
        some (bytes, rest) :=
      readList?_joined (by decide) (by decide) (fun b _ => readsItem_byte b) rest
    have hbytes : readBytes? ((Value.blob bytes).json.toList ++ rest) = some (.blob bytes, rest) := by
      rw [htext, readBytes?, hlist]
      rfl
    rw [hbytes, htext]
    simp [readNull?, readInteger?, readReal?, hn, readText?]

/-! ## Records -/

def entryText (e : String × Value) : String := quote e.1 ++ ":" ++ e.2.json

/-- No value begins with a blank. -/
theorem json_solid {v : Value} (hv : v.isReal = false) (rest : List Char) :
    skipBlank (v.json.toList ++ rest) = v.json.toList ++ rest := by
  cases v with
  | null => exact skipBlank_solid (by decide) _
  | integer n =>
    obtain ⟨c, cs, hcs, hc⟩ := toInt_begins n
    rw [Value.json, hcs]
    exact skipBlank_solid (solid_of_digit hc).1 _
  | real x => cases hv
  | text s =>
    rw [Value.json, quote_toList]
    exact skipBlank_solid (by decide) _
  | blob bytes =>
    rw [Value.json, String.append_assoc, String.toList_append]
    exact skipBlank_solid (by decide) _

theorem readsItem_entry {e : String × Value} (hv : e.2.isReal = false) :
    ReadsItem readEntry? '\x7d' (entryText e) e where
  read rest h := by
    have htext : (entryText e).toList ++ rest =
        '"' :: (e.1.toList.flatMap escapeChar ++ '"' :: ':' :: (e.2.json.toList ++ rest)) := by
      simp [entryText, quote_toList]
    have hcolon : ∀ cs : List Char, skipBlank (':' :: cs) = ':' :: cs := skipBlank_solid (by decide)
    have hvalue := readValue?_json hv (endsNumber_of_head (by simp) h)
    rw [htext]
    simp [ readEntry?, unquote?_quoted, hcolon, json_solid hv, hvalue]
  solid := by
    have htext : (entryText e).toList = '"' :: (e.1.toList.flatMap escapeChar ++ '"' :: ':' :: e.2.json.toList) := by
      simp [entryText, quote_toList]
    exact ⟨'"', _, htext, by decide, by decide⟩

/-- The entries of a record are read back. -/
theorem readRecord?_json {r : Record} (hr : ∀ v ∈ r.values, v.isReal = false) (rest : List Char) :
    readRecord? ((Record.json r).toList ++ rest) = some (r, rest) := by
  have hentry : ∀ e ∈ r.entries, ReadsItem readEntry? '\x7d' (entryText e) e :=
    fun e he => readsItem_entry (hr e.2 (List.mem_map_of_mem he))
  have hlist := readList?_joined (by decide) (by decide) hentry rest
  have hjson : Record.json r = "\x7b" ++ joined "," (r.entries.map entryText) ++ "\x7d" := rfl
  have htext : (Record.json r).toList ++ rest =
      '\x7b' :: ((joined "," (r.entries.map entryText)).toList ++ '\x7d' :: rest) := by
    rw [hjson]
    simp
  rw [htext, readRecord?, hlist, Option.map_some]
  exact congrArg (fun m => some (m, rest)) (OrderedMap.ofList_entries r)

end Json

/-- A record without reals is read back from its text: the same columns in the same order, and
each value in its class. -/
theorem Record.ofJson?_json (r : Record) (h : ∀ v ∈ r.values, v.isReal = false) :
    Record.ofJson? (Record.json r) = some r := by
  have hread := readRecord?_json h []
  rw [List.append_nil] at hread
  have hskip : skipBlank (Record.json r).toList = (Record.json r).toList := by
    rw [Record.json, Record.jsonOf, String.append_assoc, String.toList_append]
    exact skipBlank_solid (by decide) _
  rw [Record.ofJson?, whole?, hskip, hread]
  rfl

/-- A quoted name, a control character, an empty name and the least integer. -/
def awkward : Record :=
  .ofList [("say \"it\"", .text "a\\b\n\x01\u2014"), ("", .integer (.ofInt (-9223372036854775808))), ("none", .null),
    ("empty", .blob []), ("bytes", .blob [0, 255])]

theorem awkward_read_back :
    Record.json awkward = "\x7b\"say \\\"it\\\"\":\"a\\\\b\\n\\u0001\u2014\"," ++
        "\"\":-9223372036854775808,\"none\":null,\"empty\":[],\"bytes\":[0,255]\x7d" ∧
      Record.ofJson? (Record.json awkward) = some awkward :=
  ⟨by decide, Record.ofJson?_json awkward (by decide)⟩

end TableKeeper
