import Mathlib.Data.List.Basic
import TableKeeper.Options

/-!
  TableKeeper.Proofs.Pages — the pages of a list of rows.

  1. Options leave a part of the rows (`QueryOptions.page`). What is unset or zero leaves out
     nothing.
  2. The pages of one size, one behind the other, are the rows in front of the next page
     (`flatMap_pageOf`). The page with the number `length / size` is the first that is not
     full, so the pages up to it are all of the rows, and what comes behind it is empty.
-/

namespace TableKeeper

namespace QueryOptions

variable {α : Type}

/-- The rows that a limit and an offset ask for. -/
def page (o : QueryOptions) (rows : List α) : List α :=
  let left := rows.drop ((o.offset.map UInt64.toNat).getD 0)
  match o.limit with
  | none => left
  | some n => if n = 0 then left else left.take n.toNat

/-- The limit and the offset fit 64 bits with a sign. -/
def fits (o : QueryOptions) : Bool := o.limit.all (·.toNat < 2 ^ 63) && o.offset.all (·.toNat < 2 ^ 63)

/-- A number that is unset or zero, and any other. -/
theorem filter_cases (v : Option UInt64) :
    v.filter (· ≠ 0) = none ∧ (v = none ∨ v = some 0) ∨ ∃ n, v.filter (· ≠ 0) = some n ∧ v = some n ∧ n ≠ 0 := by
  cases v with
  | none => exact .inl ⟨rfl, .inl rfl⟩
  | some n =>
    by_cases hn : n = 0
    · exact .inl ⟨by simp [Option.filter, hn], .inr (by rw [hn])⟩
    · exact .inr ⟨n, by simp [Option.filter, hn], rfl, hn⟩

theorem page_eq (o : QueryOptions) (rows : List α) :
    o.page rows = (o.limit?.elim id fun x => List.take x.toNat) (rows.drop ((o.offset?.map UInt64.toNat).getD 0)) := by
  have hskip : (o.offset.map UInt64.toNat).getD 0 = (o.offset?.map UInt64.toNat).getD 0 := by
    unfold offset?
    rcases filter_cases o.offset with ⟨hfilter, h | h⟩ | ⟨n, hfilter, h, -⟩
    · rw [hfilter, h]
    · rw [hfilter, h]
      rfl
    · rw [hfilter, h]
  unfold page limit?
  dsimp only
  rw [hskip]
  rcases filter_cases o.limit with ⟨hfilter, h | h⟩ | ⟨n, hfilter, h, hn⟩
  · rw [hfilter, h]
    rfl
  · rw [hfilter, h]
    rfl
  · rw [hfilter, h]
    exact if_neg hn

theorem map_page {β : Type} (g : α → β) (o : QueryOptions) (rows : List α) :
    (o.page rows).map g = o.page (rows.map g) := by
  rw [page_eq, page_eq, ← List.map_drop]
  cases o.limit? with
  | none => rfl
  | some n => exact List.map_take

theorem fits_eq (o : QueryOptions) :
    o.fits = (o.limit?.all (·.toNat < 2 ^ 63) && o.offset?.all (·.toNat < 2 ^ 63)) := by
  have hall : ∀ v : Option UInt64, v.all (·.toNat < 2 ^ 63) = (v.filter (· ≠ 0)).all (·.toNat < 2 ^ 63) := by
    intro v
    rcases filter_cases v with ⟨hfilter, h | h⟩ | ⟨n, hfilter, h, -⟩
    · rw [hfilter, h]
    · rw [hfilter, h]
      rfl
    · rw [hfilter, h]
  unfold fits limit? offset?
  rw [hall o.limit, hall o.offset]

end QueryOptions

/-! ## Pages of one size -/

section

variable {α : Type} {size i : Nat} {rows : List α}

def pageOf (size : Nat) (rows : List α) (i : Nat) : List α := (rows.drop (i * size)).take size

theorem length_pageOf (size : Nat) (rows : List α) (i : Nat) :
    (pageOf size rows i).length = min size (rows.length - i * size) := by
  rw [pageOf, List.length_take, List.length_drop]

/-- The first pages are the rows in front of the next one. -/
theorem flatMap_pageOf (size : Nat) (rows : List α) (count : Nat) :
    (List.range count).flatMap (pageOf size rows) = rows.take (count * size) := by
  induction count with
  | zero => simp
  | succ count ih =>
    rw [List.range_succ, List.flatMap_append, ih, Nat.succ_mul, List.take_add, List.flatMap_singleton, pageOf]

theorem length_pageOf_of_lt (hi : i < rows.length / size) : (pageOf size rows i).length = size := by
  have hnext : (i + 1) * size ≤ rows.length := Nat.le_trans (Nat.mul_le_mul_right size hi) (Nat.div_mul_le_self _ _)
  rw [Nat.succ_mul] at hnext
  rw [length_pageOf]
  omega

theorem length_pageOf_last (hsize : 0 < size) : (pageOf size rows (rows.length / size)).length < size := by
  have hrest := Nat.mod_lt rows.length hsize
  have hdiv := Nat.div_add_mod' rows.length size
  rw [length_pageOf]
  omega

/-- The pages up to the first that is not full are all of the rows. -/
theorem flatMap_pageOf_all (hsize : 0 < size) :
    (List.range (rows.length / size + 1)).flatMap (pageOf size rows) = rows := by
  have hrest := Nat.mod_lt rows.length hsize
  have hdiv := Nat.div_add_mod' rows.length size
  rw [flatMap_pageOf, Nat.succ_mul, List.take_of_length_le]
  omega

theorem pageOf_eq_nil (hsize : 0 < size) (hi : rows.length / size < i) : pageOf size rows i = [] := by
  have hend : rows.length < i * size := (Nat.div_lt_iff_lt_mul hsize).mp hi
  rw [pageOf, List.drop_eq_nil_of_le (Nat.le_of_lt hend), List.take_nil]

end

/-! ## Their options -/

namespace QueryOptions

variable {α : Type} (o : QueryOptions)

def unpaged : QueryOptions := { o with limit := none, offset := none }

def pageAt (size i : Nat) : QueryOptions :=
  { o with limit := some (.ofNat size), offset := some (.ofNat (i * size)) }

/-- The first page has an offset of zero, which counts as unset. -/
theorem page_pageAt {size i : Nat} (hsize : 0 < size) (hsmall : size < 2 ^ 63) (hi : i * size < 2 ^ 63) (rows : List α) :
    (o.pageAt size i).page rows = pageOf size rows i := by
  have hwords : 2 ^ 63 < UInt64.size := by decide
  have hlimit : (UInt64.ofNat size).toNat = size := UInt64.toNat_ofNat_of_lt' (Nat.lt_trans hsmall hwords)
  have hoffset : (UInt64.ofNat (i * size)).toNat = i * size := UInt64.toNat_ofNat_of_lt' (Nat.lt_trans hi hwords)
  have hnonzero : UInt64.ofNat size ≠ 0 := by
    intro hzero
    rw [hzero] at hlimit
    exact Nat.ne_of_lt hsize hlimit
  simp only [page, pageAt, Option.map_some, Option.getD_some, hlimit, hoffset, if_neg hnonzero, pageOf]

end QueryOptions
end TableKeeper
