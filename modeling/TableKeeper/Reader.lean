import TableKeeper.Error
import TableKeeper.Record

/-!
  TableKeeper.Reader — how a caller consumes rows.

  A reader pulls rows one at a time and decides after each whether to go on; `drain` takes
  all that are left. What it has not pulled it has not seen. It ends with a result or with
  a panic.
-/

namespace TableKeeper

/-- One pull from a row sequence: a row, or the error that stands in its place. -/
abbrev RowItem := Except Error Record

inductive Reader (α : Type) where
  | done (r : Except Error α)
  | panic
  /-- Pulls one item; `none` is the end. -/
  | next (k : Option RowItem → Reader α)
  /-- Pulls up to the end or the first error. -/
  | drain (k : Except Error (List Record) → Reader α)

/-- What came of reading, and how many items were pulled. -/
structure Reading (α : Type) where
  /-- Unset after a panic. -/
  result : Option (Except Error α)
  taken : Nat

namespace Reader

variable {α : Type}

/-- The rows up to the first error, and how many items that took. -/
def drained : List RowItem → Except Error (List Record) × Nat
  | [] => (.ok [], 0)
  | .error e :: _ => (.error e, 1)
  | .ok r :: rest =>
    let (rs, n) := drained rest
    (rs.map (r :: ·), n + 1)

/-- What `drained` leaves behind. -/
def undrained : List RowItem → List RowItem
  | [] => []
  | .error _ :: rest => rest
  | .ok _ :: rest => undrained rest

def run : Reader α → List RowItem → Reading α
  | done r, _ => ⟨some r, 0⟩
  | panic, _ => ⟨none, 0⟩
  | next k, [] => run (k none) []
  | next k, x :: rest =>
    let r := run (k (some x)) rest
    ⟨r.result, r.taken + 1⟩
  | drain k, xs =>
    let (rs, n) := drained xs
    let r := run (k rs) (undrained xs)
    ⟨r.result, r.taken + n⟩

/-! ## Common readers -/

/-- Every row, or the first error. -/
def all : Reader (List Record) := drain done

/-- The first row, if there is one. -/
def first : Reader (Option Record) :=
  next fun
    | none => done (.ok none)
    | some (.ok r) => done (.ok (some r))
    | some (.error e) => done (.error e)

/-- Pulls up to `n` rows into `seen`, stopping at the end, and goes on with them; an error
among them is the result. -/
def upTo (k : List Record → Reader α) : Nat → List Record → Reader α
  | 0, seen => k seen
  | n + 1, seen =>
    next fun
      | none => k seen
      | some (.ok r) => upTo k n (seen ++ [r])
      | some (.error e) => done (.error e)

/-- The first `n` rows. -/
def atMost (n : Nat) : Reader (List Record) := upTo (fun rs => done (.ok rs)) n []

/-- Pulls up to `n` items past any errors, and goes on with the rows and the errors. -/
def lenient (k : List Record → List Error → Reader α) : Nat → List Record → List Error → Reader α
  | 0, rs, es => k rs es
  | n + 1, rs, es =>
    next fun
      | none => k rs es
      | some (.ok r) => lenient k n (rs ++ [r]) es
      | some (.error e) => lenient k n rs (es ++ [e])

end Reader
end TableKeeper
