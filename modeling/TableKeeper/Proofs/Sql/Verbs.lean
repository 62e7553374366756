import TableKeeper.Proofs.Sql.Statements

/-!
  TableKeeper.Proofs.Sql.Verbs — the first word of a text decides what the text can be.

  1. Whatever follows the first word, a text is read as a statement of this word or not at all:
     a SELECT as a query, an INSERT, an UPDATE and a DELETE as a change (`readStatement_verb`).
     A name that does not survive its back-ticks can break the text, but not change its verb.
  2. The verb is the first token even where the text goes on with a NUL (`lex_verb`).
  3. A command begins with its verb (`Command.hasVerb`).
-/

namespace TableKeeper.Sql

/-- The text begins with a word and a blank. -/
def HasVerb (w sql : String) : Prop := ∃ cs, sql.toList = w.toList ++ ' ' :: cs

theorem HasVerb.append {w sql : String} (h : HasVerb w sql) (rest : String) : HasVerb w (sql ++ rest) := by
  obtain ⟨cs, hcs⟩ := h
  exact ⟨cs ++ rest.toList, by rw [String.toList_append, hcs, List.append_assoc, List.cons_append]⟩

/-! ## The first token -/

theorem lex_verb {w sql : String} (hw : isWord w = true) (hnul : ∀ c ∈ w.toList, c.toNat ≠ 0) (h : HasVerb w sql) :
    ∃ ts, (lex sql).map (·.token) = .word w :: ts := by
  obtain ⟨cs, hcs⟩ := h
  obtain ⟨rest, hrest⟩ : ∃ rest, sql.toList.takeWhile (·.toNat ≠ 0) = w.toList ++ ' ' :: rest := by
    refine ⟨cs.takeWhile (·.toNat ≠ 0), ?_⟩
    rw [hcs, List.takeWhile_append_of_pos fun c hc => by simpa using hnul c hc,
      List.takeWhile_cons_of_pos (by decide)]
  have hreads : Reads w.toList (' ' :: rest) (.word w) := reads_word hw rfl
  obtain ⟨l, o, hl, -, hlex⟩ := lexFrom_step hreads 0 (w.toList.length + rest.length) 0
  have hlength : (w.toList ++ ' ' :: rest).length + 1 = w.toList.length + rest.length + 2 := by
    rw [List.length_append, List.length_cons]
    omega
  rw [List.replicate_zero, List.nil_append, ← hlength] at hlex
  refine ⟨(lexFrom (w.toList.length + rest.length + 1) o (' ' :: rest)).map (·.token), ?_⟩
  rw [lex, hrest, lexemes, hlex, List.map_cons, hl]

namespace Grammar

variable {α β : Type} {n : Nested}

/-- Whatever the reader gives has the property. -/
def Gives (n : Nested) (p : Parse α) (q : α → Prop) : Prop := ∀ c a c', (p.run n).run c = (.ok a, c') → q a

theorem gives_pure {q : α → Prop} {a : α} (h : q a) : Gives n (pure a) q := by
  intro c b c' hrun
  cases hrun
  exact h

/-- What is given in the end is given by the last reader. -/
theorem gives_bind {p : Parse α} {f : α → Parse β} {q : β → Prop} (h : ∀ a, Gives n (f a) q) : Gives n (p >>= f) q := by
  intro c b c' hrun
  rw [run_bind] at hrun
  cases hp : (p.run n).run c with
  | mk r c'' =>
    rw [hp] at hrun
    cases r with
    | error e => cases hrun
    | ok a => exact h a c'' b c' hrun

/-- A reader goes on from where another has come to. -/
theorem run_takes {p : Parse α} {f : α → Parse β} {u v : View} {a : α} {c : Cursor} (hp : Takes n p u v (· = a))
    (hc : Sees c u) : ∃ c', Sees c' v ∧ ((p >>= f).run n).run c = ((f a).run n).run c' := by
  obtain ⟨_, c', hrun, hc', rfl⟩ := hp c hc
  exact ⟨c', hc', by rw [run_bind, hrun]⟩

variable {t : Token} {ts : List Token} {w : String} {r : Parse Parsed} {q : Parsed → Prop}

theorem parsed_gives (ht : keywordOf t = some w) (hw : w ≠ "WITH") (hr : queryOrChange? [] w = some r)
    (hq : Gives n r q) {c : Cursor} (hc : Sees c ⟨t :: ts, 0⟩) {p : Parsed} {c' : Cursor}
    (h : (parsed.run n).run c = (.ok p, c')) : q p := by
  have hwith : keywordOf t ≠ some "WITH" := by simpa [ht] using hw
  obtain ⟨c₁, hc₁, h₁⟩ := run_takes (f := fun begun => _) (takes_isKeyword "WITH") hc
  obtain ⟨c₂, hc₂, h₂⟩ := run_takes (f := fun named => _) (leaves_namedQueries hwith) hc₁
  obtain ⟨c₃, hc₃, h₃⟩ := run_takes (f := fun k => _) takes_keywordHere hc₂
  rw [parsed, h₁, h₂, h₃] at h
  simp only [ht, hr] at h
  exact hq c₃ p c' h

theorem statement_gives (ht : keywordOf t = some w) (hw : w ≠ "WITH") (hr : queryOrChange? [] w = some r)
    (hq : Gives n r q) (hno : ∀ d, ¬q (.createTable d)) {c : Cursor} (hc : Sees c ⟨t :: ts, 0⟩) {p : Parsed}
    {c' : Cursor} (h : (statement.run n).run c = (.ok p, c')) : q p := by
  rw [statement, run_bind] at h
  cases hparsed : (parsed.run n).run c with
  | mk result c₁ =>
    rw [hparsed] at h
    cases result with
    | error e => cases h
    | ok p₁ =>
      have hp₁ : q p₁ := parsed_gives ht hw hr hq hc hparsed
      have hsame : Gives n (do
          finish
          return p₁) q := gives_bind fun _ => gives_pure hp₁
      cases p₁ with
      | createTable d => exact absurd hp₁ (hno d)
      | _ => exact hsame c₁ p c' h

/-! ## Statements by their verbs -/

/-- What a text with the verb can be read as. -/
def ofVerb (w : String) : Parsed → Prop
  | .select _ => w = "SELECT"
  | .insert _ => w = "INSERT"
  | .update _ => w = "UPDATE"
  | .delete _ => w = "DELETE"
  | _ => False

/-- The verbs of queries and changes. -/
def verbs : List String := ["SELECT", "INSERT", "UPDATE", "DELETE"]

theorem queryOrChange_gives (hw : w ∈ verbs) : ∃ r, queryOrChange? [] w = some r ∧ ∀ n, Gives n r (ofVerb w) := by
  simp only [verbs, List.mem_cons, List.not_mem_nil, or_false] at hw
  rcases hw with rfl | rfl | rfl | rfl
  · exact ⟨_, rfl, fun n => gives_bind fun q => gives_pure rfl⟩
  · exact ⟨_, rfl, fun n => gives_bind fun _ => gives_bind fun _ => gives_bind fun i => gives_pure rfl⟩
  · exact ⟨_, rfl, fun n => gives_bind fun _ => gives_bind fun u => gives_pure rfl⟩
  · exact ⟨_, rfl, fun n => gives_bind fun _ => gives_bind fun d => gives_pure rfl⟩

end Grammar

open Grammar

/-- A text is read as what its verb says, if it is read at all. -/
theorem readStatement_verb {w sql : String} (hw : w ∈ verbs) (h : HasVerb w sql) :
    (∃ f, readStatement (lex sql) = .error f) ∨ ∃ r, readStatement (lex sql) = .ok (some r) ∧ ofVerb w r.parsed := by
  have hword : isWord w = true ∧ (w.toList.all fun c => c.toNat ≠ 0) = true ∧ keywordOf (.word w) = some w ∧ w ≠ "WITH" := by
    simp only [verbs, List.mem_cons, List.not_mem_nil, or_false] at hw
    rcases hw with rfl | rfl | rfl | rfl <;> decide
  obtain ⟨hisWord, hnul, hkeyword, hwith⟩ := hword
  obtain ⟨ts, hts⟩ := lex_verb hisWord (by simpa using hnul) h
  obtain ⟨n, c, -, hc, hread⟩ := readStatement_eq hts (by simp) (by simp) .engine
  obtain ⟨r, hr, hgives⟩ := queryOrChange_gives hw
  rw [hread]
  cases hrun : (statement.run n).run c with
  | mk result c' =>
    cases result with
    | error f => exact .inl ⟨f, rfl⟩
    | ok p => exact .inr ⟨_, rfl, statement_gives hkeyword hwith hr (hgives n) (fun d => by simp [ofVerb]) hc hrun⟩

/-! ## The verbs of commands -/

def Command.verb : Command → String
  | .select _ _ _ | .selectById _ | .count _ _ => "SELECT"
  | .delete _ _ => "DELETE"
  | .insert _ _ | .upsert _ _ => "INSERT"
  | .update _ _ => "UPDATE"

theorem Command.verb_mem (c : Command) : c.verb ∈ verbs := by cases c <;> simp [verb, verbs]

theorem insertText_verb (table : String) (columns : List String) : HasVerb "INSERT" (insertText table columns) := by
  have hverb : HasVerb "INSERT" "INSERT INTO " := ⟨"INTO ".toList, rfl⟩
  exact hverb.append _ |>.append _ |>.append _ |>.append _ |>.append _ |>.append _

/-- A command begins with its verb, whatever its names. -/
theorem Command.hasVerb (c : Command) : HasVerb c.verb c.text := by
  cases c with
  | select table fields tail =>
    have hverb : HasVerb "SELECT" "SELECT " := ⟨[], rfl⟩
    exact hverb.append _ |>.append _ |>.append _ |>.append _
  | selectById table =>
    have hverb : HasVerb "SELECT" "SELECT * FROM " := ⟨"* FROM ".toList, rfl⟩
    exact hverb.append _ |>.append _ |>.append _ |>.append _
  | count table tail =>
    have hverb : HasVerb "SELECT" "SELECT count(*) FROM " := ⟨"count(*) FROM ".toList, rfl⟩
    exact hverb.append _ |>.append _
  | delete table tail =>
    have hverb : HasVerb "DELETE" "DELETE FROM " := ⟨"FROM ".toList, rfl⟩
    exact hverb.append _ |>.append _
  | insert table columns => exact insertText_verb table columns
  | update table columns =>
    have hverb : HasVerb "UPDATE" "UPDATE " := ⟨[], rfl⟩
    exact hverb.append _ |>.append _ |>.append _ |>.append _ |>.append _ |>.append _
  | upsert table columns =>
    exact insertText_verb table columns |>.append _ |>.append _ |>.append _ |>.append _

end TableKeeper.Sql
