import TableKeeper.Proofs.Text.Digits
import TableKeeper.Sql.Clause
import TableKeeper.Sql.Token

/-!
  TableKeeper.Proofs.Sql.Lexing — how a text divides into tokens.

  1. `Lexes` divides a text by hand: a token may have blanks in front and is read off what
     stands there (`Reads`), and the ending comes last. A text that is divided so is read so
     (`Lexes.tokens_eq`).
  2. Most tokens go on as long as they can, so what follows one matters. It is enough that
     the text is over or goes on with a blank, a comma, a bracket or `=` (`Soft`).
  3. A quoted name keeps every character but the back-tick (`reads_name`), and text in
     single quotes keeps all, because doubling its quotes is undone (`reads_text`). Bytes
     are read back from their digits (`reads_blob`), and so is a number (`value_toString`).
  4. The text that the engine reads ends at the first NUL. The laws are about all of a text;
     one without a NUL is read the same either way (`lex_eq_lexemes`).
-/

namespace TableKeeper.Sql

open Number Text

/-- The tokens of a text, whatever characters it has. -/
def tokens (cs : List Char) : List Token := (lexemes cs).map (·.token)

theorem lex_eq_lexemes {sql : String} (h : ∀ c ∈ sql.toList, c.toNat ≠ 0) : lex sql = lexemes sql.toList := by
  have : sql.toList.takeWhile (·.toNat ≠ 0) = sql.toList := List.takeWhile_eq_self_iff.mpr (by simpa using h)
  simp only [lex, this]

/-- The token `t` is read off `piece` where `rest` follows. -/
structure Reads (piece rest : List Char) (t : Token) : Prop where
  next : Token.next (piece ++ rest) = (t, piece.length)
  solid : Token.blankLength (piece ++ rest) = 0
  dark : (piece ++ rest).head?.all (fun c => !Numeric.isSpace c) = true
  nonempty : piece ≠ []
  proper : t ≠ .illegal ∧ t ≠ .ending

/-- A text divided into tokens: blanks stand only in front of one, and the ending is last. -/
inductive Lexes : List Char → List Token → Prop
  | ending : Lexes [] [.ending]
  | token {piece rest : List Char} {t : Token} {ts : List Token} (blanks : Nat) :
      Reads piece rest t → Lexes rest ts → Lexes (List.replicate blanks ' ' ++ (piece ++ rest)) (t :: ts)

/-! ## A text is read as it is divided -/

theorem gapLength_solid {cs : List Char} (h : Token.blankLength cs = 0) (fuel : Nat) :
    Token.gapLength fuel cs = 0 := by
  cases fuel with
  | zero => rfl
  | succ fuel => simp only [Token.gapLength, h]

theorem gapLength_blanks {cs : List Char} (h : Token.blankLength cs = 0)
    (hd : cs.head?.all (fun c => !Numeric.isSpace c) = true) (blanks fuel : Nat) :
    Token.gapLength (fuel + 1) (List.replicate blanks ' ' ++ cs) = blanks := by
  cases blanks with
  | zero => exact gapLength_solid h _
  | succ n =>
    have hcs : cs.takeWhile Numeric.isSpace = [] := by
      cases cs with
      | nil => rfl
      | cons c cs => exact List.takeWhile_cons_of_neg (by simpa using hd)
    have hspan : (List.replicate n ' ' ++ cs).takeWhile Numeric.isSpace = List.replicate n ' ' := by
      rw [List.takeWhile_append_of_pos fun c hc => by rw [List.eq_of_mem_replicate hc]; rfl, hcs, List.append_nil]
    have hb : Token.blankLength (List.replicate (n + 1) ' ' ++ cs) = n + 1 := by
      show ((List.replicate n ' ' ++ cs).takeWhile Numeric.isSpace).length + 1 = n + 1
      rw [hspan, List.length_replicate]
    have hdrop : (List.replicate (n + 1) ' ' ++ cs).drop (n + 1) = cs := by
      rw [List.drop_append_of_le_length (by simp), List.drop_of_length_le (by simp), List.nil_append]
    simp only [Token.gapLength, hb, hdrop, gapLength_solid h, Nat.add_zero]

theorem lexFrom_step {piece rest : List Char} {t : Token} (hr : Reads piece rest t) (blanks fuel offset : Nat) :
    ∃ (l : Lexeme) (o : Nat), l.token = t ∧ l.gap.length + l.raw.length = blanks + piece.length ∧
      lexFrom (fuel + 2) offset (List.replicate blanks ' ' ++ (piece ++ rest)) = l :: lexFrom (fuel + 1) o rest := by
  have hnot : ¬(t = .illegal ∨ t = .ending) := fun h => h.elim hr.proper.1 hr.proper.2
  have hdrop : (List.replicate blanks ' ' ++ (piece ++ rest)).drop blanks = piece ++ rest := by
    rw [List.drop_append_of_le_length (by simp), List.drop_of_length_le (by simp), List.nil_append]
  rw [lexFrom]
  simp only [gapLength_blanks hr.solid hr.dark, hdrop, hr.next, List.take_left, List.drop_left, if_neg hnot]
  exact ⟨_, _, rfl, by simp, rfl⟩

theorem Lexes.lexFrom_eq {cs : List Char} {ts : List Token} (h : Lexes cs ts) :
    ∀ fuel offset : Nat, cs.length < fuel → (lexFrom fuel offset cs).map (·.token) = ts := by
  induction h with
  | ending =>
    intro fuel offset hf
    obtain ⟨fuel, rfl⟩ := Nat.exists_eq_add_of_lt hf
    simp [lexFrom, gapLength_solid (show Token.blankLength [] = 0 from rfl), Token.next]
  | @token piece rest t ts blanks hr _ ih =>
    intro fuel offset hf
    have hp := List.length_pos_iff.mpr hr.nonempty
    rw [List.length_append, List.length_append, List.length_replicate] at hf
    obtain ⟨fuel, rfl⟩ : ∃ f, fuel = f + 2 := ⟨fuel - 2, by omega⟩
    obtain ⟨l, o, hl, -, hlex⟩ := lexFrom_step hr blanks fuel offset
    rw [hlex, List.map_cons, hl, ih _ _ (by omega)]

/-- What is read up to the ending is all of the text. -/
theorem Lexes.length_read {cs : List Char} {ts : List Token} (h : Lexes cs ts) :
    ∀ fuel offset n : Nat, cs.length < fuel →
      (lexFrom fuel offset cs).dropLast.foldl (fun n l => n + l.gap.length + l.raw.length) n = n + cs.length := by
  induction h with
  | ending =>
    intro fuel offset n hf
    obtain ⟨fuel, rfl⟩ := Nat.exists_eq_add_of_lt hf
    simp [lexFrom, gapLength_solid (show Token.blankLength [] = 0 from rfl), Token.next]
  | @token piece rest t ts blanks hr hrest ih =>
    intro fuel offset n hf
    have hp := List.length_pos_iff.mpr hr.nonempty
    rw [List.length_append, List.length_append, List.length_replicate] at hf
    obtain ⟨fuel, rfl⟩ : ∃ f, fuel = f + 2 := ⟨fuel - 2, by omega⟩
    obtain ⟨l, o, -, hl, hlex⟩ := lexFrom_step hr blanks fuel offset
    have hmore : lexFrom (fuel + 1) o rest ≠ [] := by
      intro hnil
      have htokens := hrest.lexFrom_eq (fuel + 1) o (by omega)
      rw [hnil] at htokens
      cases hrest <;> cases htokens
    rw [hlex, List.dropLast_cons_of_ne_nil hmore, List.foldl_cons, ih _ _ _ (by omega)]
    simp only [List.length_append, List.length_replicate]
    omega

theorem Lexes.tokens_eq {cs : List Char} {ts : List Token} (h : Lexes cs ts) : tokens cs = ts :=
  h.lexFrom_eq _ _ (Nat.lt_succ_self _)

theorem Lexes.space {cs : List Char} {ts : List Token} (h : Lexes cs ts) (hcs : cs ≠ []) : Lexes (' ' :: cs) ts := by
  cases h with
  | ending => exact absurd rfl hcs
  | token blanks hr h => exact .token (blanks + 1) hr h

/-! ## What ends a token -/

/-- The characters that end a token which they are no part of. -/
def softMarks : List Char := [' ', ',', '(', ')', '=']

/-- The text is over, or goes on with a character that ends the token before it. -/
def Soft (cs : List Char) : Prop := ∀ c ∈ cs.head?, c ∈ softMarks

@[simp] theorem soft_nil : Soft [] := by intro c h; cases h

theorem soft_cons {c : Char} (h : c ∈ softMarks) (cs : List Char) : Soft (c :: cs) := by
  intro d hd
  cases hd
  exact h

instance : (cs : List Char) → Decidable (Soft cs)
  | [] => .isTrue soft_nil
  | c :: cs => decidable_of_iff (c ∈ softMarks) ⟨fun h => soft_cons h cs, fun h => h c rfl⟩

theorem Soft.append {a b : List Char} (ha : Soft a) (hb : Soft b) : Soft (a ++ b) := by
  cases a with
  | nil => exact hb
  | cons c a => exact soft_cons (ha c rfl) _

theorem Soft.head?_ne {cs : List Char} (h : Soft cs) {c : Char} (hc : c ∉ softMarks) : cs.head? ≠ some c :=
  fun he => hc (h c he)

theorem eq_false_of_mem_softMarks {p : Char → Bool} (hp : softMarks.any p = false) {c : Char} (hc : c ∈ softMarks) :
    p c = false :=
  Bool.eq_false_iff.mpr (List.any_eq_false.mp hp c hc)

theorem Soft.takeWhile_eq_nil {cs : List Char} (h : Soft cs) {p : Char → Bool} (hp : softMarks.any p = false) :
    cs.takeWhile p = [] := by
  cases cs with
  | nil => rfl
  | cons c cs => simp [eq_false_of_mem_softMarks hp (h c rfl)]

theorem Soft.dropWhile_eq_self {cs : List Char} (h : Soft cs) {p : Char → Bool} (hp : softMarks.any p = false) :
    cs.dropWhile p = cs := by
  cases cs with
  | nil => rfl
  | cons c cs => simp [eq_false_of_mem_softMarks hp (h c rfl)]

/-! ## Names and parameters -/

theorem next_cons {c : Char} (h : c ∉ ['\'', '[', '?']) (rest : List Char) :
    Token.next (c :: rest) =
      if c = '`' ∨ c = '"' then Token.closed (.name c) rest (Token.quoted? c rest)
      else if c.isDigit then Token.numberToken (c :: rest)
      else if c = '.' ∧ rest.head?.any Char.isDigit then Token.numberToken (c :: rest)
      else if (c = 'x' ∨ c = 'X') ∧ rest.head? = some '\'' then Token.bytesToken (rest.drop 1)
      else if c = ':' ∨ c = '@' ∨ c = '$' then Token.namedToken c rest
      else if Token.isNameStart c then Token.wordToken (c :: rest)
      else Token.symbolToken (c :: rest) := by
  unfold Token.next
  split <;> simp_all

/-- A name that back-ticks keep as it is. -/
def Plain (name : String) : Prop := '`' ∉ name.toList

instance (name : String) : Decidable (Plain name) := inferInstanceAs (Decidable (_ ∉ _))

theorem quoted?_cons_of_ne {close c : Char} (h : c ≠ close) (cs : List Char) :
    Token.quoted? close (c :: cs) = (Token.quoted? close cs).map fun (ds, n) => (c :: ds, n + 1) := by
  rw [Token.quoted?.eq_def]
  simp only [h, if_false]

theorem quoted?_of_notMem {close : Char} {cs rest : List Char} (hc : close ∉ cs) (hr : rest.head? ≠ some close) :
    Token.quoted? close (cs ++ close :: rest) = some (cs, cs.length + 1) := by
  induction cs with
  | nil =>
    cases rest with
    | nil => simp [Token.quoted?]
    | cons d rest =>
      have hd : d ≠ close := by simpa using hr
      simp [Token.quoted?, hd]
  | cons c cs ih =>
    simp only [List.mem_cons, not_or] at hc
    rw [List.cons_append, quoted?_cons_of_ne (Ne.symm hc.1), ih hc.2]
    rfl

theorem quoted?_doubleQuotes (cs : List Char) {rest : List Char} (hr : rest.head? ≠ some '\'') :
    Token.quoted? '\'' (doubleQuotes cs ++ '\'' :: rest) = some (cs, (doubleQuotes cs).length + 1) := by
  induction cs with
  | nil => exact quoted?_of_notMem List.not_mem_nil hr
  | cons c cs ih =>
    by_cases hc : c = '\''
    · subst hc
      simp [doubleQuotes, Token.quoted?, ih]
    · simp only [doubleQuotes, hc, if_false, List.cons_append, quoted?_cons_of_ne hc, ih]
      rfl

theorem reads_name {name : String} {rest : List Char} (hn : Plain name) (hr : Soft rest) :
    Reads (quoteName name).toList rest (.name '`' name) := by
  have hcs : (quoteName name).toList ++ rest = '`' :: (name.toList ++ '`' :: rest) := by simp [quoteName]
  have hlen : (quoteName name).toList.length = name.toList.length + 2 := by simp [quoteName]
  refine ⟨?_, ?_, ?_, ?_, by simp⟩
  · rw [hcs, hlen, next_cons (by decide), if_pos (Or.inl rfl), quoted?_of_notMem hn (hr.head?_ne (by decide))]
    simp [Token.closed]
  · rw [hcs]; rfl
  · rw [hcs]; rfl
  · exact List.ne_nil_of_length_pos (by omega)

theorem reads_parameter {rest : List Char} (hr : Soft rest) : Reads ['?'] rest (.parameter none) := by
  refine ⟨?_, rfl, rfl, by simp, by simp⟩
  show Token.parameterToken rest = _
  simp [Token.parameterToken, hr.takeWhile_eq_nil (p := Char.isDigit) (by decide)]

/-! ## Literals -/

theorem reads_text (s : String) {rest : List Char} (hr : Soft rest) :
    Reads ('\'' :: (doubleQuotes s.toList ++ ['\''])) rest (.text s) := by
  have hcs : '\'' :: (doubleQuotes s.toList ++ ['\'']) ++ rest =
    '\'' :: (doubleQuotes s.toList ++ '\'' :: rest) := by simp
  refine ⟨?_, by rw [hcs]; rfl, by rw [hcs]; rfl, by simp, by simp⟩
  rw [hcs]
  show Token.closed .text _ (Token.quoted? '\'' _) = _
  rw [quoted?_doubleQuotes _ (hr.head?_ne (by decide))]
  simp [Token.closed]

theorem bytesToken_hex (bytes : List UInt8) (rest : List Char) :
    Token.bytesToken (bytes.flatMap hexByte ++ '\'' :: rest) = (.blob bytes, 2 * bytes.length + 3) := by
  have hall : ∀ c ∈ bytes.flatMap hexByte, isHexDigit c = true := fun c hc => by
    obtain ⟨b, -, hb⟩ := List.mem_flatMap.mp hc
    exact isHexDigit_of_mem_hexByte hb
  have hq : isHexDigit '\'' = false := by decide
  have ht : (bytes.flatMap hexByte ++ '\'' :: rest).takeWhile isHexDigit = bytes.flatMap hexByte := by
    rw [List.takeWhile_append_of_pos hall, List.takeWhile_cons_of_neg (by simp [hq]), List.append_nil]
  have hd : (bytes.flatMap hexByte ++ '\'' :: rest).dropWhile isHexDigit = '\'' :: rest := by
    rw [List.dropWhile_append_of_pos hall, List.dropWhile_cons_of_neg (by simp [hq])]
  simp only [Token.bytesToken, ht, hd, length_flatMap_hexByte, bytesOfHex_hexByte, Nat.mul_mod_right, if_true]

theorem reads_blob (bytes : List UInt8) (rest : List Char) :
    Reads ('X' :: '\'' :: (bytes.flatMap hexByte ++ ['\''])) rest (.blob bytes) := by
  refine ⟨?_, rfl, rfl, by simp, by simp⟩
  rw [List.cons_append, List.cons_append, List.append_assoc]
  show Token.bytesToken (bytes.flatMap hexByte ++ '\'' :: rest) = _
  rw [bytesToken_hex]
  simp only [List.length_cons, List.length_append, length_flatMap_hexByte, List.length_nil]

/-! ## Words -/

/-- A character that begins a word and no other token. -/
def beginsWord (c : Char) : Bool :=
  Token.isNameStart c && !(['\'', '[', '?', '`', '"', '.', ':', '@', '$', 'x', 'X', '-', '/'].contains c)
    && !c.isDigit && !Numeric.isSpace c && !Token.isSqlBlank c && c.toNat != 0xfeff

/-- A word that begins so. -/
def isWord (w : String) : Bool := w.toList.all Token.isNamePart && w.toList.head?.any beginsWord

theorem beginsWord_cases {c : Char} (h : beginsWord c = true) :
    c ∉ ['\'', '[', '?', '`', '"', '.', ':', '@', '$', 'x', 'X', '-', '/'] ∧ c.isDigit = false ∧
      Token.isNameStart c = true ∧ Numeric.isSpace c = false ∧ Token.isSqlBlank c = false ∧ c.toNat ≠ 0xfeff := by
  simp only [beginsWord, Bool.and_eq_true, Bool.not_eq_true', List.contains_eq_mem, decide_eq_false_iff_not,
    bne_iff_ne] at h
  obtain ⟨⟨⟨⟨⟨hs, hne⟩, hd⟩, hsp⟩, hb⟩, hf⟩ := h
  exact ⟨hne, hd, hs, hsp, hb, hf⟩

theorem blankLength_word {c : Char} (h : beginsWord c = true) (cs : List Char) : Token.blankLength (c :: cs) = 0 := by
  obtain ⟨hne, -, -, -, hb, hf⟩ := beginsWord_cases h
  simp only [List.mem_cons, not_or] at hne
  unfold Token.blankLength
  split
  · simp_all
  · simp_all
  · simp_all
  · rfl

theorem reads_word {w : String} {rest : List Char} (hw : isWord w = true)
    (hr : rest.takeWhile Token.isNamePart = []) :
    Reads w.toList rest (.word w) := by
  obtain ⟨c, cs, hcs⟩ : ∃ c cs, w.toList = c :: cs := by
    cases h : w.toList with
    | nil => simp [isWord, h] at hw
    | cons c cs => exact ⟨c, cs, rfl⟩
  simp only [isWord, hcs, List.head?_cons, Option.any_some, Bool.and_eq_true] at hw
  obtain ⟨hall, hc⟩ := hw
  obtain ⟨hne, hd, hs, hsp, -, -⟩ := beginsWord_cases hc
  have ht : (c :: cs ++ rest).takeWhile Token.isNamePart = c :: cs := by
    rw [List.takeWhile_append_of_pos (by simpa using hall), hr, List.append_nil]
  rw [hcs]
  refine ⟨?_, blankLength_word hc _, by simp [hsp], by simp, by simp⟩
  simp only [List.mem_cons, not_or] at hne
  rw [List.cons_append, next_cons (by simp [hne])]
  simp only [hne, hd, hs, false_or, false_and, if_false, if_true, Bool.false_eq_true]
  rw [Token.wordToken, ← List.cons_append, ht, ← hcs, String.ofList_toList]

/-! ## Numerals -/

/-- The token of a numeral. -/
def numeral (n : Nat) : Token := Token.decimalToken (toString n).toList

theorem numberSpan_digits {ds rest : List Char} (hne : ds ≠ []) (hd : ∀ c ∈ ds, c.isDigit = true)
    (hr : Soft rest) :
    Token.numberSpan (ds ++ rest) = ds := by
  obtain ⟨d, ds, rfl⟩ := List.exists_cons_of_ne_nil hne
  have hin : ∀ c ∈ d :: ds, (c.isDigit || c == '_') = true := fun c hc => by simp [hd c hc]
  have hspan : Token.spanDigits (d :: ds ++ rest) = (d :: ds, rest) := by
    simp only [Token.spanDigits, List.cons_append, List.head?_cons, Option.any_some, hd d List.mem_cons_self, if_true]
    rw [← List.cons_append, List.takeWhile_append_of_pos hin, List.dropWhile_append_of_pos hin,
      hr.takeWhile_eq_nil (by decide), hr.dropWhile_eq_self (by decide), List.append_nil]
  have hfraction : Token.spanFraction rest = ([], rest) := by
    cases rest with
    | nil => rfl
    | cons c rest =>
      have hc : c ≠ '.' := fun he => absurd (he ▸ hr c rfl) (by decide)
      unfold Token.spanFraction
      split
      · simp_all
      · rfl
  have hexponent : Token.spanExponent rest = [] := by
    cases rest with
    | nil => rfl
    | cons c rest =>
      have hc : ¬(c = 'e' ∨ c = 'E') := fun he => absurd (hr c rfl) (by rcases he with rfl | rfl <;> decide)
      simp only [Token.spanExponent, if_neg hc]
  simp only [Token.numberSpan, hspan, hfraction, hexponent, List.append_nil]

theorem wellDivided_of_all {ds : List Char} (isDigit : Char → Bool) (hu : isDigit '_' = false)
    (hd : ∀ c ∈ ds, isDigit c = true) : Token.wellDivided isDigit ds = true := by
  have hne : ∀ c ∈ ds, c ≠ '_' := fun c hc he => by have := hd c hc; rw [he, hu] at this; cases this
  induction ds with
  | nil => rfl
  | cons c ds ih =>
    cases ds with
    | nil => simpa [Token.wellDivided] using hne c List.mem_cons_self
    | cons d ds =>
      have hdne : d ≠ '_' := hne d (by simp)
      unfold Token.wellDivided
      split
      · rfl
      · simp_all
      · simp_all
      · rename_i heq
        simp only [List.cons.injEq] at heq
        obtain ⟨-, rfl, rfl⟩ := heq
        exact ih (fun c hc => hd c (List.mem_cons_of_mem _ hc)) (fun c hc => hne c (List.mem_cons_of_mem _ hc))


theorem unsignedNumber_digits {ds rest : List Char} (hne : ds ≠ []) (hd : ∀ c ∈ ds, c.isDigit = true)
    (hr : Soft rest) : Token.unsignedNumber (ds ++ rest) = (Token.decimalToken ds, ds.length) := by
  simp only [Token.unsignedNumber, numberSpan_digits hne hd hr]
  split
  · rename_i x d tail heq
    -- The second character is a digit, or a mark that ends the first.
    have hx : ¬(x = 'x' ∨ x = 'X') := by
      obtain ⟨e, ds, rfl⟩ := List.exists_cons_of_ne_nil hne
      simp only [List.cons_append, List.cons.injEq] at heq
      obtain ⟨-, heq⟩ := heq
      cases ds with
      | nil =>
        have hx : x ∈ softMarks := hr x (by rw [List.nil_append] at heq; rw [heq]; rfl)
        rintro (rfl | rfl) <;> exact absurd hx (by decide)
      | cons e' ds =>
        simp only [List.cons_append, List.cons.injEq] at heq
        have hx : x.isDigit = true := hd x (by simp [heq.1])
        rintro (rfl | rfl) <;> exact absurd hx (by decide)
    rw [if_neg fun h => hx h.1]
  · rfl

theorem digit_begins_number {c : Char} (hc : c.isDigit = true) :
    c ∉ ['\'', '[', '?', '`', '"', '-', '/'] ∧ Numeric.isSpace c = false ∧ Token.isSqlBlank c = false ∧
      c.toNat ≠ 0xfeff := by
  have hall : ∀ m : Fin 10, Char.ofNat (48 + m) ∉ ['\'', '[', '?', '`', '"', '-', '/'] ∧
      Numeric.isSpace (Char.ofNat (48 + m)) = false ∧ Token.isSqlBlank (Char.ofNat (48 + m)) = false ∧
      (Char.ofNat (48 + m)).toNat ≠ 0xfeff := by decide
  obtain ⟨hlow, hhigh⟩ := isDigit_range hc
  have hm := hall ⟨c.toNat - 48, by omega⟩
  have he : 48 + (c.toNat - 48) = c.toNat := by omega
  simpa only [he, Char.ofNat_toNat] using hm

theorem blankLength_digit {c : Char} (h : c.isDigit = true) (cs : List Char) :
    Token.blankLength (c :: cs) = 0 := by
  obtain ⟨hne, -, hb, hf⟩ := digit_begins_number h
  simp only [List.mem_cons, not_or] at hne
  unfold Token.blankLength
  split
  · simp_all
  · simp_all
  · simp_all
  · rfl

theorem decimalToken_proper {ds : List Char} (hd : ∀ c ∈ ds, c.isDigit = true) :
    Token.decimalToken ds ≠ .illegal ∧ Token.decimalToken ds ≠ .ending := by
  simp only [Token.decimalToken, wellDivided_of_all Char.isDigit (by decide) hd, Bool.not_true,
    Bool.false_eq_true, if_false]
  split <;> simp

theorem reads_numeral (n : Nat) {rest : List Char} (hr : Soft rest) : Reads (toString n).toList rest (numeral n) := by
  have hd := fun c (h : c ∈ (toString n).toList) => isDigit_of_mem_toString h
  have hne := toString_ne_nil n
  have hnumber := unsignedNumber_digits hne hd hr
  obtain ⟨d, ds, hcs⟩ := List.exists_cons_of_ne_nil hne
  have hdigit : d.isDigit = true := hd d (by rw [hcs]; exact List.mem_cons_self)
  obtain ⟨hb, hsp, -, -⟩ := digit_begins_number hdigit
  simp only [List.mem_cons, not_or] at hb
  refine ⟨?_, ?_, ?_, hne, decimalToken_proper hd⟩
  · rw [hcs, List.cons_append, next_cons (by simp [hb]), ← List.cons_append, ← hcs]
    simp only [hb, hdigit, false_or, if_false, if_true, Token.numberToken, hnumber, List.drop_left,
      hr.takeWhile_eq_nil (p := Token.isNamePart) (by decide)]
    rfl
  · rw [hcs]
    exact blankLength_digit hdigit _
  · rw [hcs]
    simp [hsp]

/-! ## Marks -/

theorem reads_open (rest : List Char) : Reads ['('] rest (.symbol "(") := ⟨rfl, rfl, rfl, by simp, by simp⟩

theorem reads_close (rest : List Char) : Reads [')'] rest (.symbol ")") := ⟨rfl, rfl, rfl, by simp, by simp⟩

theorem reads_comma (rest : List Char) : Reads [','] rest (.symbol ",") := ⟨rfl, rfl, rfl, by simp, by simp⟩

theorem reads_star (rest : List Char) : Reads ['*'] rest (.symbol "*") := ⟨rfl, rfl, rfl, by simp, by simp⟩

theorem reads_equals {c : Char} (hc : c ≠ '=') (rest : List Char) : Reads ['='] (c :: rest) (.symbol "=") := by
  refine ⟨?_, rfl, rfl, by simp, by simp⟩
  show Token.symbolToken ('=' :: c :: rest) = _
  simp [Token.symbolToken, Token.symbols2, Token.symbols1, hc]

theorem reads_dot (rest : List Char) : Reads ['.'] ('`' :: rest) (.symbol ".") := ⟨rfl, rfl, rfl, by simp, by simp⟩

theorem reads_minus (rest : List Char) : Reads ['-'] ('1' :: rest) (.symbol "-") := ⟨rfl, rfl, rfl, by simp, by simp⟩

end TableKeeper.Sql
