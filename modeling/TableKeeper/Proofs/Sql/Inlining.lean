import TableKeeper.Proofs.OrderedMap
import TableKeeper.Proofs.Sql.Spelling

/-!
  TableKeeper.Proofs.Sql.Inlining — the items of inline lists stay in their literals.

  1. The shape of a filter is its fields and what kind of constraint each has: no value is
     part of it.
  2. An inline clause is a template that its shape and the options give, with a hole for
     each list (`tokens_inline`). A hole is filled with one literal for each item, with
     commas between them, and nothing else of the items is in the tokens.
-/

namespace TableKeeper.Sql

open Slot

/-! ## Shapes and templates -/

inductive Kind where
  | equals
  | oneOf
  | «matches»
  deriving DecidableEq

def kindOf : Constraint → Kind
  | .equals _ => .equals
  | .oneOf _ => .oneOf
  | .matches _ => .matches

/-- The fields of a filter and the kinds of their constraints. -/
def shapeOf (f : Filter) : List (String × Kind) := f.entries.map fun e => (e.1, kindOf e.2)

inductive Piece where
  | token (t : Token)
  /-- The hole for the items of a field's list. -/
  | items (field : String)

/-- One literal for each item, with commas between them. -/
def literals (vs : List Value) : List Token := (vs.map literalToken).intersperse (.symbol ",")

def Piece.fill (f : Filter) : Piece → List Token
  | token t => [t]
  | items field =>
    match f.get? field with
    | some (.oneOf vs) => literals vs
    | _ => []

def predicatePieces (e : String × Kind) : List Piece :=
  match e.2 with
  | .equals => [.token (.name '`' e.1), .token (.symbol "="), .token (.parameter none)]
  | .matches => [.token (.name '`' e.1), .token (.word "LIKE"), .token (.parameter none)]
  | .oneOf =>
    [.token (.name '`' e.1), .token (.word "IN"), .token (.symbol "("), .items e.1, .token (.symbol ")")]

def filterPieces (shape : List (String × Kind)) : List Piece :=
  if shape.isEmpty then []
  else .token (.word "WHERE") :: [.token (.word "AND")].intercalate (shape.map predicatePieces)

/-- The tokens of order and page. -/
def optionTokens (o : QueryOptions) : List Token :=
  (orderSlots o ++ (limitSlots o.limit? o.offset? ++ offsetSlots o.offset?)).map Slot.token

def template (shape : List (String × Kind)) (o : QueryOptions) : List Piece :=
  filterPieces shape ++ (optionTokens o).map .token

/-! ## A clause is its filled template -/

theorem literals_eq (vs : List Value) : (commaSlots (vs.map fun v => [.literal v])).map token = literals vs := by
  rw [tokens_commas, literals]
  induction vs with
  | nil => rfl
  | cons v vs ih =>
    cases vs with
    | nil => rfl
    | cons w vs =>
      simp only [List.map_cons, List.intercalate_cons_cons] at ih ⊢
      rw [ih]
      rfl

/-- The pieces of an entry. -/
def piecesOf (e : String × Constraint) : List Piece := predicatePieces (e.1, kindOf e.2)

theorem fill_predicate {f : Filter} {e : String × Constraint} (he : e ∈ f.entries) :
    (piecesOf e).flatMap (Piece.fill f) = (predicateSlots .inline e).map token := by
  have hget := OrderedMap.get?_of_mem he
  obtain ⟨field, c⟩ := e
  cases c with
  | equals v => rfl
  | «matches» p => rfl
  | oneOf vs =>
    have hitems := literals_eq vs
    simp [piecesOf, predicatePieces, kindOf, predicateSlots, Piece.fill, hget, itemSlot, hitems, Slot.token]

theorem fill_joined {α : Type} {fill : Piece → List Token} {slots : α → List Slot} {pieces : α → List Piece}
    {xs : List α} (sep : Slot) (hsep : fill (.token sep.token) = [sep.token])
    (h : ∀ x ∈ xs, (pieces x).flatMap fill = (slots x).map token) :
    ([.token sep.token].intercalate (xs.map pieces)).flatMap fill = ([sep].intercalate (xs.map slots)).map token := by
  induction xs with
  | nil => rfl
  | cons x xs ih =>
    have hx := h x List.mem_cons_self
    cases xs with
    | nil => simpa using hx
    | cons y ys =>
      have htail := ih fun z hz => h z (List.mem_cons_of_mem _ hz)
      simp only [List.map_cons, List.intercalate_cons_cons, List.flatMap_append, List.map_append] at htail ⊢
      rw [hx, htail]
      simp [hsep]

theorem filterPieces_shapeOf {f : Filter} (h : f.entries ≠ []) :
    filterPieces (shapeOf f) =
      .token (.word "WHERE") :: [.token (.word "AND")].intercalate (f.entries.map piecesOf) := by
  have hshape : (shapeOf f).isEmpty = false := by simpa [shapeOf] using h
  rw [filterPieces, hshape, shapeOf, List.map_map]
  rfl

theorem fill_filter (f : Filter) :
    (filterPieces (shapeOf f)).flatMap (Piece.fill f) = (filterSlots .inline f).map token := by
  by_cases hes : f.entries = []
  · simp [filterPieces, shapeOf, filterSlots, listingSlots, hes]
  · have hjoined := fill_joined (word "AND") rfl (fun x hx => fill_predicate (f := f) (e := x) hx)
    have hslots : filterSlots .inline f =
        word "WHERE" :: [word "AND"].intercalate (f.entries.map (predicateSlots .inline)) := by
      simp [filterSlots, listingSlots, hes]
    rw [filterPieces_shapeOf hes, hslots, List.flatMap_cons, List.map_cons, ← hjoined]
    rfl

/-- A whole clause is its template, filled. -/
theorem tokens_inline {f : Filter} {o : QueryOptions} (h : PlainQuery f o) :
    tokens (compile .inline f o).text.toList = (template (shapeOf f) o).flatMap (Piece.fill f) ++ [.ending] := by
  have hoptions : ((optionTokens o).map Piece.token).flatMap (Piece.fill f) = optionTokens o := by
    rw [List.flatMap_map]
    exact List.flatMap_singleton' _
  rw [(spells_clause .inline h).tokens_eq, template, List.flatMap_append, fill_filter, hoptions, clauseSlots,
    List.append_assoc,
    List.map_append, optionTokens]

/-! ## One list in its clause -/

theorem intercalate_around {α : Type} (sep x : List α) (xs ys : List (List α)) :
    sep.intercalate (xs ++ x :: ys) = xs.flatMap (· ++ sep) ++ x ++ ys.flatMap (sep ++ ·) := by
  induction xs with
  | nil =>
    induction ys generalizing x with
    | nil => simp
    | cons y ys ih =>
      have htail := ih y
      simp only [List.nil_append, List.flatMap_nil] at htail ⊢
      rw [List.intercalate_cons_cons, htail, List.flatMap_cons, List.append_assoc, List.append_assoc]
  | cons z xs ih =>
    rw [List.cons_append, List.intercalate_cons_of_ne_nil (by simp), ih, List.flatMap_cons]
    simp only [List.append_assoc]

theorem items_mem_predicatePieces {field : String} {e : String × Kind} (h : .items field ∈ predicatePieces e) :
    e.1 = field := by
  obtain ⟨name, kind⟩ := e
  cases kind <;> simp [predicatePieces] at h
  exact h.symm

theorem items_notMem {field : String} {es : List (String × Constraint)} (join : List Piece → List Piece)
    (hjoin : ∀ ps, .items field ∈ join ps → .items field ∈ ps) (hne : field ∉ es.map (·.1)) :
    .items field ∉ (es.map piecesOf).flatMap join := by
  intro h
  obtain ⟨ps, hps, hmem⟩ := List.mem_flatMap.mp h
  obtain ⟨e, he, rfl⟩ := List.mem_map.mp hps
  exact hne (List.mem_map.mpr ⟨e, he, items_mem_predicatePieces (hjoin _ hmem)⟩)

/-- The template around the list of a field has no other hole for it. -/
theorem template_around {f : Filter} {o : QueryOptions} {field : String} {vs : List Value}
    (he : (field, .oneOf vs) ∈ f.entries) :
    ∃ before after : List Piece, .items field ∉ before ++ after ∧
      template (shapeOf f) o = before ++ predicatePieces (field, .oneOf) ++ after := by
  obtain ⟨es, es', hes⟩ := List.append_of_mem he
  have hnodup := f.distinct
  rw [hes, List.map_append, List.map_cons, List.nodup_append, List.nodup_cons] at hnodup
  obtain ⟨-, ⟨hafter, -⟩, hbefore⟩ := hnodup
  let sep : List Piece := [.token (.word "AND")]
  refine ⟨.token (.word "WHERE") :: (es.map piecesOf).flatMap (· ++ sep),
    (es'.map piecesOf).flatMap (sep ++ ·) ++ (optionTokens o).map .token, ?_, ?_⟩
  · have hfirst : .items field ∉ (es.map piecesOf).flatMap (· ++ sep) := items_notMem (· ++ sep) (by simp [sep])
      fun hm => hbefore field hm field List.mem_cons_self rfl
    have hsecond : .items field ∉ (es'.map piecesOf).flatMap (sep ++ ·) :=
      items_notMem (sep ++ ·) (by simp [sep]) hafter
    simp only [List.mem_append, List.mem_cons, List.mem_map, not_or, reduceCtorEq, false_or, not_exists]
    exact ⟨hfirst, hsecond, by simp⟩
  · rw [template, filterPieces_shapeOf (by simp [hes]), hes, List.map_append, List.map_cons, intercalate_around]
    simp [sep, piecesOf, kindOf]

theorem names_eq_of_shape {f g : Filter} (h : shapeOf g = shapeOf f) : g.names = f.names := by
  have hnames : ∀ f : Filter, f.names = (shapeOf f).map (·.1) := fun f => by simp [OrderedMap.names, shapeOf]
  rw [hnames, hnames, h]

/-- The items of an inline list are one literal each, between the brackets of their list. Around them stand
the same tokens for every filter of the shape, up to the items of its other lists. -/
theorem inline_items_isolated {f : Filter} {o : QueryOptions} (h : PlainQuery f o) (field : String) {vs : List Value}
    (he : f.get? field = some (.oneOf vs)) :
    ∃ before after : List Piece, .items field ∉ before ++ after ∧
      ∀ (g : Filter) (ws : List Value), shapeOf g = shapeOf f → g.get? field = some (.oneOf ws) →
        tokens (compile .inline g o).text.toList =
          before.flatMap (Piece.fill g) ++
            ([.name '`' field, .word "IN", .symbol "("] ++ literals ws ++ [.symbol ")"])
            ++ after.flatMap (Piece.fill g) ++ [.ending] := by
  obtain ⟨before, after, hnot, htemplate⟩ := template_around (o := o) (OrderedMap.get?_eq_some.mp he)
  refine ⟨before, after, hnot, fun g ws hshape hget => ?_⟩
  have hfilter : PlainNames g := fun n hn => h.filter n (names_eq_of_shape hshape ▸ hn)
  rw [tokens_inline ⟨hfilter, h.order, h.fields⟩, hshape, htemplate]
  simp [predicatePieces, Piece.fill, hget]

/-- A list whose items have quotes, marks and bytes. -/
def quoted : Filter := .ofList [("a", .oneOf [.text "it's', ?)`", .null, .blob [255]]), ("b", .equals (.integer 1))]

theorem quoted_items_isolated : PlainQuery quoted {} ∧
    ∃ before after : List Piece, .items "a" ∉ before ++ after ∧
      tokens (compile .inline quoted {}).text.toList = before.flatMap (Piece.fill quoted)
        ++ [.name '`' "a", .word "IN", .symbol "(", .text "it's', ?)`", .symbol ",", .word "NULL", .symbol ",",
          .blob [255], .symbol ")"]
        ++ after.flatMap (Piece.fill quoted) ++ [.ending] := by
  have hplain : PlainQuery quoted {} := ⟨by decide, by decide, by simp⟩
  obtain ⟨before, after, hnot, htokens⟩ := inline_items_isolated hplain "a" rfl
  exact ⟨hplain, before, after, hnot, htokens quoted _ rfl rfl⟩

end TableKeeper.Sql
