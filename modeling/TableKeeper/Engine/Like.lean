import TableKeeper.Value

/-!
  TableKeeper.Engine.Like — pattern matching.

  1. A pattern is read into pieces first. In LIKE, `%` is any run of characters and `_` any
     one; the escape character, if there is one, makes the character after it stand for
     itself. In GLOB these are `*` and `?`, and a bracket opens a set.
  2. All else stands for itself, in LIKE with the letters of ASCII in either case.
  3. Both sides are text up to their first NUL. Numbers match by their text and bytes as the
     text they encode. What is no character counts as U+FFFD.
  4. A search behind a run gives up as soon as one of its ends shows that no longer run can
     help (`Verdict.exhausted`), so runs do not multiply.
  5. A pattern of more than fifty thousand bytes is refused.
-/

namespace TableKeeper.Engine

namespace Like

def patternLimit : Nat := 50000

inductive Piece where
  /-- Any run of characters. -/
  | run
  | any
  | exact (c : Nat)
  /-- One character within, or with `inverted` outside, the ranges. -/
  | set (inverted : Bool) (ranges : List (Nat × Nat))
  /-- Nothing matches. -/
  | never
  deriving DecidableEq

inductive Verdict where
  | matched
  | missed
  /-- No longer run in front could make it match. -/
  | exhausted
  deriving DecidableEq

def lower (n : Nat) : Nat := if 65 ≤ n ∧ n ≤ 90 then n + 32 else n

/-- The piece accepts the character. -/
def Piece.accepts (fold : Nat → Nat) (c : Nat) : Piece → Bool
  | run => false
  | any => true
  | exact p => fold p == fold c
  | set inverted ranges => (ranges.any fun r => r.1 ≤ c && c ≤ r.2) != inverted
  | never => false

/-- Tries the places behind each character that is found, from the left. -/
def search (found : Nat → Bool) (rest : List Nat → Verdict) : List Nat → Verdict
  | [] => .exhausted
  | c :: cs =>
    if found c then
      match rest cs with
      | .missed => search found rest cs
      | v => v
    else search found rest cs

mutual

def compare (fold : Nat → Nat) : List Piece → List Nat → Verdict
  | [], cs => if cs.isEmpty then .matched else .missed
  | .run :: ps, cs => afterRun fold ps cs
  | p :: ps, cs =>
    match cs with
    | [] => .missed
    | c :: cs => if p.accepts fold c then compare fold ps cs else .missed

/-- Behind a run. More runs are as good as one, and each `any` takes a character. -/
def afterRun (fold : Nat → Nat) : List Piece → List Nat → Verdict
  | [], _ => .matched
  | .run :: ps, cs => afterRun fold ps cs
  | .any :: ps, cs =>
    match cs with
    | [] => .exhausted
    | _ :: cs => afterRun fold ps cs
  | p :: ps, cs => search (fun c => p.accepts fold c) (compare fold ps) cs

end

/-! ## Reading patterns -/

/-- The pieces of a LIKE pattern. -/
def ofLike (escape : Option Nat) : List Nat → List Piece
  | [] => []
  | c :: cs =>
    if escape = some c then
      match cs with
      | [] => [.never]
      | d :: cs => .exact d :: ofLike escape cs
    else (if c = 37 then .run else if c = 95 then .any else .exact c) :: ofLike escape cs

/-- The ranges of a set up to its closing bracket, and what follows it; none without one.
The last single character may open a range. -/
def setRanges? : Nat → Option Nat → List Nat → Option (List (Nat × Nat) × List Nat)
  | 0, _, _ => none
  | _ + 1, _, [] => none
  | fuel + 1, last, c :: cs =>
    if c = 93 then some ([], cs)
    else
      match c == 45, last, cs with
      | true, some low, high :: rest =>
        if high = 93 then single fuel c cs
        else (setRanges? fuel none rest).map fun (rs, cs) => ((low, high) :: rs, cs)
      | _, _, _ => single fuel c cs
where
  single (fuel c : Nat) (cs : List Nat) : Option (List (Nat × Nat) × List Nat) :=
    (setRanges? fuel (some c) cs).map fun (rs, cs) => ((c, c) :: rs, cs)

/-- A set after its opening bracket. A closing bracket that comes first is in the set. -/
def set? (cs : List Nat) : Option (Piece × List Nat) :=
  let (inverted, cs) := match cs with
    | 94 :: cs => (true, cs)
    | cs => (false, cs)
  match cs with
  | 93 :: cs => (setRanges? (cs.length + 1) none cs).map fun (rs, cs) => (.set inverted ((93, 93) :: rs), cs)
  | cs => (setRanges? (cs.length + 1) none cs).map fun (rs, cs) => (.set inverted rs, cs)

/-- The pieces of a GLOB pattern; each takes at least one character of it. -/
def ofGlob : Nat → List Nat → List Piece
  | 0, _ => []
  | _ + 1, [] => []
  | fuel + 1, c :: cs =>
    if c = 91 then
      match set? cs with
      | some (p, cs) => p :: ofGlob fuel cs
      | none => [.never]
    else (if c = 42 then .run else if c = 63 then .any else .exact c) :: ofGlob fuel cs

/-! ## Characters -/

/-- What is no character becomes U+FFFD. -/
def cleaned (c : Nat) : Nat :=
  if c < 0x80 ∨ (0xd800 ≤ c ∧ c < 0xe000) ∨ c = 0xfffe ∨ c = 0xffff then 0xfffd else c

/-- The bytes of a character that are after its first, gathered in 32 bits. -/
def continuation (c : Nat) : List UInt8 → Nat × List UInt8
  | [] => (c, [])
  | b :: bs => if b.toNat / 64 = 2 then continuation ((c * 64 + b.toNat % 64) % 2 ^ 32) bs else (c, b :: bs)

/-- The value bits of a leading byte. -/
def leadBits (b : Nat) : Nat :=
  if b < 0xe0 then b % 32 else if b < 0xf0 then b % 16 else if b < 0xf8 then b % 8 else if b < 0xfc then b % 4
  else if b < 0xfe then b % 2 else 0

/-- The characters that bytes encode. -/
def decode : Nat → List UInt8 → List Nat
  | 0, _ => []
  | _ + 1, [] => []
  | fuel + 1, b :: bs =>
    if b = 0 then []
    else if b.toNat < 0xc0 then b.toNat :: decode fuel bs
    else
      let (c, rest) := continuation (leadBits b.toNat) bs
      cleaned c :: decode fuel rest

def charsOf (s : String) : List Nat :=
  (s.toList.map fun c => if c.toNat < 0x80 then c.toNat else cleaned c.toNat).takeWhile (· ≠ 0)

def subject (v : Value) : List Nat :=
  match v with
  | .text s => charsOf s
  | .blob bytes => decode bytes.length bytes
  | .real x => charsOf x.stored
  | v => charsOf v.display

def byteSize (v : Value) : Nat :=
  match v with
  | .text s => s.utf8ByteSize
  | .blob bytes => bytes.length
  | _ => 0

/-! ## The two tests -/

/-- The pattern is too long to be tried. -/
def isTooLong (pattern : Value) : Bool := patternLimit < byteSize pattern

def like (escape : Option Nat) (pattern v : Value) : Bool :=
  compare lower (ofLike escape (subject pattern)) (subject v) == .matched

def glob (pattern v : Value) : Bool :=
  let p := subject pattern
  compare id (ofGlob p.length p) (subject v) == .matched

end Like
end TableKeeper.Engine
