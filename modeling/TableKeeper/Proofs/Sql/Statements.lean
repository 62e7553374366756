import TableKeeper.Proofs.Sql.Conditions

/-!
  TableKeeper.Proofs.Sql.Statements — a text with one statement as it is read.

  A query or a change is read from its first word on. Where its reader comes to the end of
  the text with a parameter for each value, the text is that statement and no other
  (`Statement.parsed?_of_takes`).
-/

namespace TableKeeper.Sql

namespace Grammar

variable {n : Nested} {t : Token} {ts : List Token} {k : Nat} {u v : View} {q : Parsed → Prop}

theorem leaves_namedQueries (h : keywordOf t ≠ some "WITH") :
    Takes n namedQueries ⟨t :: ts, k⟩ ⟨t :: ts, k⟩ (· = []) :=
  (leaves_keyword? h).step (.neg (by decide) (.done rfl))

theorem takes_queryOrChange {w : String} {r : Parse Parsed} (ht : keywordOf t = some w) (hw : w ≠ "WITH")
    (hr : queryOrChange? [] w = some r) (h : Takes n r ⟨t :: ts, k⟩ v q) : Takes n parsed ⟨t :: ts, k⟩ v q := by
  have hwith : keywordOf t ≠ some "WITH" := by simpa [ht] using hw
  refine (takes_isKeyword "WITH").step ((leaves_namedQueries hwith).step (takes_keywordHere.step ?_))
  simpa only [ht, hr] using h

theorem takes_finish : Takes n finish ⟨[.ending], k⟩ ⟨[.ending], k⟩ fun _ => True := takes_peek.step (.done trivial)

theorem takes_statement (hp : Takes n parsed u ⟨[.ending], k⟩ q) (hq : ∀ c, ¬q (.createTable c)) :
    Takes n statement u ⟨[.ending], k⟩ q := by
  refine hp.bind fun p h => ?_
  cases p with
  | createTable c => exact absurd h (hq c)
  | _ => exact takes_finish.bind fun _ _ => .done h

theorem breaks_queryOrChange {w : String} {r : Parse Parsed} (ht : keywordOf t = some w) (hw : w ≠ "WITH")
    (hr : queryOrChange? [] w = some r) (h : Breaks n r ⟨t :: ts, k⟩) : Breaks n parsed ⟨t :: ts, k⟩ := by
  have hwith : keywordOf t ≠ some "WITH" := by simpa [ht] using hw
  refine (takes_isKeyword "WITH").stepBreaks ((leaves_namedQueries hwith).stepBreaks (takes_keywordHere.stepBreaks ?_))
  simpa only [ht, hr] using h

/-- A text that begins with a statement is read by the reader of statements. -/
theorem readStatement_eq {ls : List Lexeme} (hls : ls.map (·.token) = t :: ts) (hs : t ≠ .symbol ";")
    (he : t ≠ .ending) (limits : Limits) :
    ∃ (n : Nested) (c : Cursor), n.limits = limits ∧ Sees c ⟨t :: ts, 0⟩ ∧ readStatement ls limits =
      match (statement.run n).run c with
      | (.error f, _) => .error f
      | (.ok p, c) => .ok (some ⟨p, c.parameters, c.rest⟩) := by
  obtain ⟨l, rest, rfl⟩ : ∃ l rest, ls = l :: rest := List.exists_cons_of_ne_nil (by rintro rfl; simp at hls)
  have hl : l.token = t := (List.cons.inj hls).1
  have hskip : skipSemicolons (l :: rest) = l :: rest := by rw [skipSemicolons, if_neg (by rwa [hl])]
  have hover : isOver (l :: rest) = false := by simpa [isOver, hl] using he
  refine ⟨{ select := selectWithin limits (l :: rest).length, limits },
    { rest := l :: rest, size := (l :: rest).length }, rfl, ⟨hls, rfl, Nat.le_refl _⟩, ?_⟩
  simp only [readStatement, hskip, hover]
  rfl

/-- Tokens that a statement takes up to their end are that statement. -/
theorem readStatement_of_takes {ls : List Lexeme} {limits : Limits} (hls : ls.map (·.token) = t :: ts)
    (hs : t ≠ .symbol ";") (he : t ≠ .ending) (hq : ∀ c, ¬q (.createTable c))
    (h : ∀ n : Nested, n.limits = limits → Takes n parsed ⟨t :: ts, 0⟩ ⟨[.ending], k⟩ q) :
    ∃ r, readStatement ls limits = .ok (some r) ∧ r.rest.map (·.token) = [.ending] ∧ r.parameters = k ∧
      q r.parsed := by
  obtain ⟨n, c, hn, hc, hread⟩ := readStatement_eq hls hs he limits
  obtain ⟨p, c, hrun, hc, hp⟩ := takes_statement (h n hn) hq c hc
  exact ⟨⟨p, c.parameters, c.rest⟩, by rw [hread, hrun], hc.tokens, hc.parameters, hp⟩

/-- Tokens that break a statement are none. -/
theorem readStatement_of_breaks {ls : List Lexeme} {limits : Limits} (hls : ls.map (·.token) = t :: ts)
    (hs : t ≠ .symbol ";") (he : t ≠ .ending) (h : ∀ n : Nested, n.limits = limits → Breaks n parsed ⟨t :: ts, 0⟩) :
    ∃ f, readStatement ls limits = .error f := by
  obtain ⟨n, c, hn, hc, hread⟩ := readStatement_eq hls hs he limits
  have hstatement : Breaks n statement ⟨t :: ts, 0⟩ := (h n hn).bind _
  obtain ⟨f, c', hrun⟩ := hstatement c hc
  exact ⟨f, by rw [hread, hrun]⟩

theorem isOver_ending {ls : List Lexeme} (h : ls.map (·.token) = [.ending]) : isOver ls = true := by
  obtain ⟨l, rfl, hl⟩ := List.map_eq_singleton_iff.mp h
  simp [isOver, hl]

end Grammar

open Grammar

/-- A statement is what its tokens are read as. -/
theorem Statement.parsed?_of_takes {s : Statement} {t : Token} {ts : List Token} {q : Parsed → Prop}
    (hs : tokens s.sql.toList = t :: ts) (hb : t ≠ .symbol ";") (he : t ≠ .ending) (hq : ∀ c, ¬q (.createTable c))
    (h : ∀ n, Unbounded n → Takes n parsed ⟨t :: ts, 0⟩ ⟨[.ending], s.params.length⟩ q) :
      ∃ p, s.parsed? = some p ∧ q p := by
  have hls : (lexemes s.sql.toList).map (·.token) = t :: ts := hs
  have htakes : ∀ n : Nested, n.limits = {} → Takes n parsed ⟨t :: ts, 0⟩ ⟨[.ending], s.params.length⟩ q :=
    fun n hn => h n ⟨by rw [hn], by rw [hn]⟩
  obtain ⟨r, hread, hrest, hcount, hr⟩ := readStatement_of_takes hls hb he hq htakes
  refine ⟨r.parsed, ?_, hr⟩
  simp [Statement.parsed?, hread, isOver_ending hrest, hcount]

end TableKeeper.Sql
