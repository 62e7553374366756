import TableKeeper.Proofs.Sql.Spelling
import TableKeeper.Sql.Command

/-!
  TableKeeper.Proofs.Sql.Requests — the statements that a store sends, as requests and as tokens.

  1. A request is what a statement is about, and its slots are the tokens of the statement.
     A value is a parameter in the place of the column that it is for; a key comes last.
  2. Every command is spelled as the slots of its request (`spells_*`), as long as its names
     are plain.
-/

namespace TableKeeper.Sql

open Text Slot

/-! ## The slots of a statement -/

/-- What a statement is about. -/
inductive Request where
  | rows (f : Filter) (o : QueryOptions)
  /-- The row with a key. -/
  | row (key : Value)
  | count (f : Filter)
  | delete (f : Filter)
  | insert (r : Record)
  | update (key : Value) (r : Record)
  | upsert (r : Record)

def projectionSlots : Option (List String) → List Slot
  | none => [mark "*"]
  | some ns => commaSlots (ns.map fun n => [name n])

/-- A column takes a value. -/
def assignmentSlots (e : String × Value) : List Slot := [name e.1, mark "=", parameter e.2]

/-- The row with a key, as a condition. -/
def keySlots (key : Value) : List Slot := [word "WHERE", name Record.idColumn, mark "=", parameter key]

def insertSlots (table : String) (r : Record) : List Slot :=
  [word "INSERT", word "INTO", name table, mark "("] ++ commaSlots (r.entries.map fun e => [name e.1])
    ++ [mark ")", word "VALUES", mark "("] ++ commaSlots (r.entries.map fun e => [parameter e.2]) ++ [mark ")"]

/-- What becomes of a row that already has the key. -/
def conflictSlots (r : Record) : List Slot :=
  if (overwritten r.names).isEmpty then [word "NOTHING"]
  else [word "UPDATE", word "SET"]
    ++ commaSlots ((overwritten r.names).map fun c => [name c, mark "=", word "excluded", mark ".", name c])

def upsertSlots (table : String) (r : Record) : List Slot :=
  insertSlots table r ++ [word "ON", word "CONFLICT", mark "(", name Record.idColumn, mark ")", word "DO"] ++
    conflictSlots r

def Request.slots (b : ListBinding) (table : String) : Request → List Slot
  | .rows f o => [word "SELECT"] ++ projectionSlots o.fields ++ [word "FROM", name table] ++ clauseSlots b f o
  | .row key => [word "SELECT", mark "*", word "FROM", name table] ++ keySlots key
  | .count f =>
    [word "SELECT", word "count", mark "(", mark "*", mark ")", word "FROM", name table] ++ clauseSlots b f {}
  | .delete f => [word "DELETE", word "FROM", name table] ++ clauseSlots b f {}
  | .insert r => insertSlots table r
  | .update key r =>
    [word "UPDATE", name table, word "SET"] ++ commaSlots (r.entries.map assignmentSlots) ++ keySlots key
  | .upsert r => upsertSlots table r

/-- Back-ticks keep every name of the request. -/
def Request.IsPlain : Request → Prop
  | .rows f o => PlainQuery f o
  | .row _ => True
  | .count f => PlainNames f
  | .delete f => PlainNames f
  | .insert r => PlainNames r
  | .update _ r => PlainNames r
  | .upsert r => PlainNames r

/-! ## Values -/

theorem valuesOf_none {α : Type} (slots : α → List Slot) (h : ∀ x, valuesOf (slots x) = []) (xs : List α) :
    valuesOf (commaSlots (xs.map slots)) = [] := by
  rw [valuesOf_commas, List.flatMap_map]
  exact List.flatMap_eq_nil_iff.mpr fun x _ => h x

theorem valuesOf_columns (slots : String × Value → List Slot) (h : ∀ e, valuesOf (slots e) = [e.2]) (r : Record) :
    valuesOf (commaSlots (r.entries.map slots)) = r.values := by
  rw [valuesOf_commas, List.flatMap_map, funext h]
  exact (List.map_eq_flatMap).symm

theorem valuesOf_projection (fields : Option (List String)) : valuesOf (projectionSlots fields) = [] := by
  cases fields with
  | none => rfl
  | some ns => exact valuesOf_none _ (fun _ => rfl) ns

theorem valuesOf_insert (table : String) (r : Record) : valuesOf (insertSlots table r) = r.values := by
  have hnames := valuesOf_none (fun e : String × Value => [name e.1]) (fun _ => rfl) r.entries
  have hvalues := valuesOf_columns (fun e => [parameter e.2]) (fun _ => rfl) r
  simp [insertSlots, Slot.sent?, hnames, hvalues]

theorem valuesOf_upsert (table : String) (r : Record) : valuesOf (upsertSlots table r) = r.values := by
  have hconflict : valuesOf (conflictSlots r) = [] := by
    unfold conflictSlots
    split
    · rfl
    · exact valuesOf_none _ (fun _ => rfl) _
  simp [upsertSlots, Slot.sent?, valuesOf_insert, hconflict]

theorem valuesOf_update (b : ListBinding) (table : String) (key : Value) (r : Record) :
    valuesOf (Request.slots b table (.update key r)) = r.values ++ [key] := by
  have hassignments := valuesOf_columns assignmentSlots (fun _ => rfl) r
  simp [Request.slots, keySlots, Slot.sent?, hassignments]

/-! ## Statements are spelled -/

theorem leads_from : Leads " FROM " [word "FROM"] :=
  leads_spaced (w := "FROM") (by decide) (by decide)

theorem leads_select : Leads "SELECT " [word "SELECT"] := leads_word (w := "SELECT") (by decide)

theorem spells_selecting {table tail projection : String} {fields slots : List Slot} (ht : Plain table)
    (hf : Spells projection fields) (h : Spells tail slots) (hs : Soft tail.toList) :
    Spells ("SELECT " ++ projection ++ " FROM " ++ quoteName table ++ tail)
      ([word "SELECT"] ++ fields ++ [word "FROM", name table] ++ slots) := by
  -- With an empty list of fields there is nothing between the words but two blanks.
  have hfrom := leads_select.closing hf leads_from (by decide) (by decide)
  have htable := Leads.append hfrom (spells_name ht) (by simp [quoteName])
  have htext := Spells.append htable h hs
  exact htext.of_slots (by simp)

theorem spells_select {table tail : String} {fields : Option (List String)} {slots : List Slot} (ht : Plain table)
    (hf : ∀ ns ∈ fields, ∀ n ∈ ns, Plain n) (h : Spells tail slots) (hs : Soft tail.toList) :
    Spells (Command.select table fields tail).text
      ([word "SELECT"] ++ projectionSlots fields ++ [word "FROM", name table] ++ slots) := by
  cases fields with
  | none => exact spells_selecting ht spells_star h hs
  | some ns =>
    have hnames : Spells (quoteNames ns) (projectionSlots (some ns)) :=
      spells_commas fun n hn => ⟨spells_name (hf ns rfl n hn), by simp [quoteName]⟩
    exact spells_selecting ht hnames h hs

theorem spells_count {table tail : String} {slots : List Slot} (ht : Plain table) (h : Spells tail slots)
    (hs : Soft tail.toList) : Spells (Command.count table tail).text
      ([word "SELECT", word "count", mark "(", mark "*", mark ")", word "FROM", name table] ++ slots) := by
  have hopen : Leads ("count" ++ "(") [word "count", mark "("] :=
    Spells.leads (spells_word (by decide)) leads_open (by decide) (by decide)
  have hcount := hopen.closing spells_star spells_close (by decide) (by decide)
  have htext := spells_selecting ht hcount h hs
  have hverb : "SELECT " ++ ("count" ++ "(" ++ "*" ++ ")") ++ " FROM " = "SELECT count(*) FROM " := by decide
  rwa [hverb] at htext

theorem spells_delete {table tail : String} {slots : List Slot} (ht : Plain table) (h : Spells tail slots)
    (hs : Soft tail.toList) :
    Spells (Command.delete table tail).text ([word "DELETE", word "FROM", name table] ++ slots) := by
  have hfrom : Leads "DELETE FROM " [word "DELETE", word "FROM"] :=
    (Spells.leads (spells_word (w := "DELETE") (by decide)) leads_from (by decide) (by decide)).of_text (by decide)
  exact Spells.append (hfrom.append (spells_name ht) (by simp [quoteName])) h hs

theorem plain_id : Plain Record.idColumn := by decide

/-- The row with a key ends a statement. -/
theorem spells_key {a : String} {xs : List Slot} (ha : Spells a xs) (key : Value) :
    Spells (a ++ " WHERE " ++ quoteName Record.idColumn ++ "=?") (xs ++ keySlots key) := by
  have hwhere := Spells.leads ha leads_where (by decide) (by decide)
  have htext := Spells.append (hwhere.append (spells_name plain_id) (by decide)) (spells_equals key) (by decide)
  exact htext.of_slots (by simp [keySlots])

theorem spells_selectById {table : String} (ht : Plain table) (key : Value) :
    Spells (Command.selectById table).text ([word "SELECT", mark "*", word "FROM", name table] ++ keySlots key) := by
  have hfrom : Leads "SELECT * FROM " [word "SELECT", mark "*", word "FROM"] :=
    (leads_select.closing spells_star leads_from (by decide) (by decide)).of_text (by decide)
  exact spells_key (hfrom.append (spells_name ht) (by simp [quoteName])) key

/-! ## Statements that write columns -/

theorem spells_insert {table : String} (ht : Plain table) {r : Record} (hr : PlainNames r) :
    Spells (insertText table r.names) (insertSlots table r) := by
  have hnames : Spells (quoteNames r.names) (commaSlots (r.entries.map fun e => [name e.1])) := by
    rw [quoteNames, OrderedMap.names, List.map_map]
    exact spells_commas fun e he => ⟨spells_name (hr.entry he), by simp [quoteName]⟩
  have hvalues : Spells (placeholdersFor r.names) (commaSlots (r.entries.map fun e => [parameter e.2])) := by
    rw [placeholdersFor, OrderedMap.names, List.map_map]
    exact spells_commas fun e _ => ⟨spells_parameter e.2, by simp⟩
  have hinsert : Leads "INSERT INTO " [word "INSERT", word "INTO"] :=
    ((leads_word (by decide)).append (leads_word (w := "INTO") (by decide)) (by decide)).of_text (by decide)
  have hopen : Leads " (" [mark "("] := (leads_blank.append leads_open (by decide)).of_text (by decide)
  have hbetween : Leads ") VALUES (" [mark ")", word "VALUES", mark "("] := by
    have hvalues := (leads_spaced (w := "VALUES") (by decide) (by decide)).append leads_open (by decide)
    exact (Spells.leads spells_close hvalues (by decide) (by decide)).of_text (by decide)
  have hcolumns := Spells.leads (hinsert.append (spells_name ht) (by simp [quoteName])) hopen (by decide) (by decide)
  have hrow := Leads.closing hcolumns hnames hbetween (by decide) (by decide)
  have htext := Leads.closing hrow hvalues spells_close (by decide) (by decide)
  exact htext.of_slots (by simp [insertSlots])

theorem spells_update {table : String} (ht : Plain table) (key : Value) {r : Record} (hr : PlainNames r) :
    Spells (Command.update table r.names).text
      ([word "UPDATE", name table, word "SET"] ++ commaSlots (r.entries.map assignmentSlots) ++ keySlots key) := by
  have hassignments : Spells (assignments r.names) (commaSlots (r.entries.map assignmentSlots)) := by
    rw [assignments, OrderedMap.names, List.map_map]
    exact spells_commas fun e he =>
      ⟨Spells.append (spells_name (hr.entry he)) (spells_equals e.2) (by decide), quoteName_ne _ _⟩
  have hupdate : Leads "UPDATE " [word "UPDATE"] := leads_word (w := "UPDATE") (by decide)
  have hset : Leads " SET " [word "SET"] := leads_spaced (w := "SET") (by decide) (by decide)
  have hopen := Spells.leads (hupdate.append (spells_name ht) (by simp [quoteName])) hset (by decide) (by decide)
  have hwhere := Leads.closing hopen hassignments leads_where (by decide) (by decide)
  have htext := Spells.append (Leads.append hwhere (spells_name plain_id) (by decide)) (spells_equals key) (by decide)
  exact htext.of_slots (by simp [keySlots])

/-- The column takes the value that was refused. -/
theorem spells_excluded {column : String} (hc : Plain column) :
    Spells (quoteName column ++ "=excluded." ++ quoteName column)
      [name column, mark "=", word "excluded", mark ".", name column] := by
  intro rest ts hs h
  have htext : (quoteName column ++ "=excluded." ++ quoteName column).toList ++ rest =
      (quoteName column).toList ++ (['='] ++
        ("excluded".toList ++ (['.'] ++ ((quoteName column).toList ++ rest)))) := by
    simp
  have hquoted : (quoteName column).toList ++ rest = '`' :: (column.toList ++ '`' :: rest) := by simp [quoteName]
  have hname := Lexes.token 0 (reads_name hc hs) h
  have hdot : Reads ['.'] ((quoteName column).toList ++ rest) (.symbol ".") := hquoted ▸ reads_dot _
  have hword : Reads "excluded".toList (['.'] ++ ((quoteName column).toList ++ rest)) (.word "excluded") :=
    reads_word (by decide) rfl
  have hequals : Reads ['='] ("excluded".toList ++ (['.'] ++ ((quoteName column).toList ++ rest))) (.symbol "=") :=
    reads_equals (c := 'e') (by decide) _
  rw [htext]
  exact .token 0 (reads_name hc (soft_cons (by decide) _)) (.token 0 hequals (.token 0 hword (.token 0 hdot hname)))

theorem spells_conflict {r : Record} (hr : PlainNames r) :
    Spells (conflictAction r.names) ([word "DO"] ++ conflictSlots r) := by
  have hcolumns : ∀ c ∈ overwritten r.names, Plain c := by
    intro c hc
    exact hr c (List.mem_filter.mp hc).1
  unfold conflictAction conflictSlots
  split
  · exact ((leads_word (w := "DO") (by decide)).append (spells_word (w := "NOTHING") (by decide))
      (by decide)).of_text (by decide)
  · have hset : Leads "DO UPDATE SET " [word "DO", word "UPDATE", word "SET"] := by
      have hupdate := (leads_word (w := "DO") (by decide)).append (leads_word (w := "UPDATE") (by decide)) (by decide)
      exact (Leads.append hupdate (leads_word (w := "SET") (by decide)) (by decide)).of_text (by decide)
    rename_i hsome
    obtain ⟨hassignments, hne⟩ := spells_joined leads_comma (by decide) (by decide) (overwritten r.names)
      (fun c hc => And.intro (spells_excluded (hcolumns c hc)) (by simp [quoteName]))
    exact hset.append hassignments (hne (by simpa using hsome))

theorem spells_upsert {table : String} (ht : Plain table) {r : Record} (hr : PlainNames r) :
    Spells (Command.upsert table r.names).text (upsertSlots table r) := by
  have hon : Leads " ON CONFLICT(" [word "ON", word "CONFLICT", mark "("] := by
    have hconflict := Spells.leads (spells_word (w := "CONFLICT") (by decide)) leads_open (by decide) (by decide)
    exact ((leads_spaced (w := "ON") (by decide) (by decide)).append hconflict (by decide)).of_text (by decide)
  have hclose : Leads ") " [mark ")"] := (Spells.leads spells_close leads_blank (by decide) (by decide)).of_text
    (by decide)
  have hopen := Spells.leads (spells_insert ht hr) hon (by decide) (by decide)
  have hkey := Spells.leads (hopen.append (spells_name plain_id) (by decide)) hclose (by decide) (by decide)
  have htext := Leads.append hkey (spells_conflict hr) (by unfold conflictAction; split <;> simp)
  exact htext.of_slots (by simp [upsertSlots])

end TableKeeper.Sql
