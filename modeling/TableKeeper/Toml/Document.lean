import TableKeeper.Toml.Quoted
import TableKeeper.Toml.Scalar

/-!
  TableKeeper.Toml.Document — TOML texts.

  1. A text is lines: a header, the header of a list of tables, or a key with its value. A
     mark of byte order at the start is no part of it.
  2. Values stand below the last header, and each line changes the tables as `Entries` has
     it; one line that cannot refuses the whole text.
  3. Brackets and braces hold items with commas between them, and after the last if one
     likes; line ends and comments may stand between items, and between braces also around
     the `=` of a pair. Eighty levels are the most, of brackets and of the parts of a key.
-/

namespace TableKeeper.Toml

/-! ## Between the values -/

def skipGap (cs : List Char) : List Char := cs.dropWhile isGap

/-- Skips gaps, line ends and comments. -/
def skipLoose? : Bool → List Char → Option (List Char)
  | _, [] => some []
  | _, '\n' :: rest => skipLoose? false rest
  | _, '\r' :: '\n' :: rest => skipLoose? false rest
  | true, c :: rest => if isPlain c then skipLoose? true rest else none
  | false, c :: rest =>
    if isGap c then skipLoose? false rest else if c = '#' then skipLoose? true rest else some (c :: rest)

/-- The line is over, but for a comment. -/
def lineIsOver (cs : List Char) : Bool :=
  match skipGap cs with
  | [] => true
  | c :: rest => c == '#' || endsLine (c :: rest)

/-! ## Keys -/

/-- A dotted key: the tables it leads through and the name at its end. -/
structure Key where
  path : List String
  name : String
  deriving DecidableEq, Repr

def isBare (c : Char) : Bool := c.isAlphanum || c == '_' || c == '-'

def readName? (cs : List Char) : Option (String × List Char) :=
  let bare := cs.takeWhile isBare
  if bare.isEmpty then (readShort? cs).map fun (s, rest) => (.ofList s, rest)
  else some (.ofList bare, cs.dropWhile isBare)

/-- Every step of a key takes at least one character, so the length of the text bounds it. -/
def readKeyWithin? : Nat → List Char → Option (Key × List Char)
  | 0, _ => none
  | fuel + 1, cs => do
    let (name, rest) ← readName? cs
    match skipGap rest with
    | '.' :: rest =>
      let (k, rest) ← readKeyWithin? fuel (skipGap rest)
      return (⟨name :: k.path, k.name⟩, rest)
    | rest => return (⟨[], name⟩, rest)

def maxDepth : Nat := 80

/-- A key and what follows the gap behind it. -/
def readKey? (cs : List Char) : Option (Key × List Char) := do
  let (k, rest) ← readKeyWithin? (cs.length + 1) (skipGap cs)
  if k.path.length < maxDepth then some (k, rest) else none

/-! ## Values -/

/-- Items up to the closing bracket, the opening one taken off already. -/
def readItems? {α : Type} (item? : List Char → Option (α × List Char)) (close : Char) :
    Nat → List Char → Option (List α × List Char)
  | 0, _ => none
  | fuel + 1, cs => do
    let c :: rest ← skipLoose? false cs | none
    if c = close then return ([], rest)
    let (a, rest) ← item? (c :: rest)
    let c :: rest ← skipLoose? false rest | none
    if c = close then return ([a], rest)
    else if c = ',' then
      let (as, rest) ← readItems? item? close fuel rest
      return (a :: as, rest)
    else none

/-- A key, `=` and a value, with what `skip?` takes off around the `=`. -/
def readPair? (skip? : List Char → Option (List Char)) (node? : List Char → Option (Node × List Char))
    (cs : List Char) : Option ((Key × Node) × List Char) := do
  let (k, rest) ← readKey? cs
  let '=' :: rest ← skip? rest | none
  let (v, rest) ← node? (← skip? rest)
  return ((k, v), rest)

/-- The table that keys with values make. -/
def Entries.ofPairs? (kvs : List (Key × Node)) : Option Entries :=
  kvs.foldlM (fun es kv => Entries.assign? kv.1.name kv.2 kv.1.path es) []

/-- A value with at most `depth` levels of brackets, and what follows it. -/
def readNode? : Nat → List Char → Option (Node × List Char)
  | depth + 1, '[' :: rest =>
    (readItems? (readNode? depth) ']' (rest.length + 1) rest).map fun (items, rest) => (.array items, rest)
  | depth + 1, '\x7b' :: rest => do
    let (kvs, rest) ← readItems? (readPair? (skipLoose? false) (readNode? depth)) '\x7d' (rest.length + 1) rest
    return (.table .inline (← Entries.ofPairs? kvs), rest)
  | _, cs =>
    match readString? cs with
    | some (s, rest) => some (.text (.ofList s), rest)
    | none => readScalar? cs

/-! ## Lines -/

inductive Line where
  | value (k : Key) (v : Node)
  | header (k : Key)
  | row (k : Key)

def readLine? : List Char → Option (Line × List Char)
  | '[' :: '[' :: rest => do
    let (k, rest) ← readKey? rest
    let ']' :: ']' :: rest := rest | none
    return (.row k, rest)
  | '[' :: rest => do
    let (k, rest) ← readKey? rest
    let ']' :: rest := rest | none
    return (.header k, rest)
  | cs => (readPair? (some ∘ skipGap) (readNode? maxDepth) cs).map fun ((k, v), rest) => (.value k v, rest)

/-- Every line takes at least one character, so the length of the text bounds their count. -/
def readLines? : Nat → List Char → Option (List Line)
  | 0, _ => none
  | fuel + 1, cs => do
    match ← skipLoose? false cs with
    | [] => return []
    | cs =>
      let (l, rest) ← readLine? cs
      if lineIsOver rest then return l :: (← readLines? fuel rest) else none

/-- The tables so far, and the path of the header that values stand below. -/
structure Draft where
  root : Entries := []
  here : List String := []

namespace Draft

def step? (d : Draft) : Line → Option Draft
  | .value k v => (Entries.within? (Entries.assign? k.name v k.path) d.here d.root).map fun root => { d with root }
  | .header k => (Entries.within? (Entries.openTable? k.name) k.path d.root).map fun root => ⟨root, k.path ++ [k.name]⟩
  | .row k => (Entries.within? (Entries.openRow? k.name) k.path d.root).map fun root => ⟨root, k.path ++ [k.name]⟩

end Draft

def withoutMark : List Char → List Char
  | '\ufeff' :: rest => rest
  | cs => cs

/-- The tables that a TOML text describes. -/
def Entries.ofText? (s : String) : Option Entries := do
  let cs := withoutMark s.toList
  let d ← (← readLines? (cs.length + 1) cs).foldlM Draft.step? {}
  return d.root

end TableKeeper.Toml
