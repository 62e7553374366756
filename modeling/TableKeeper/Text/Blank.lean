/-!
  TableKeeper.Text.Blank — white space and small edits of text.

  The blanks are the characters of Unicode's White_Space property. Trimming takes them off
  both ends and nothing else. Names of modes are compared after folding the ASCII letters;
  no other letter folds to one that occurs in such a name.
-/

namespace TableKeeper.Text

/-- Unicode's White_Space property. -/
def isBlank (c : Char) : Bool :=
  let n := c.toNat
  (9 ≤ n && n ≤ 13) || n == 0x20 || n == 0x85 || n == 0xa0 || n == 0x1680
    || (0x2000 ≤ n && n ≤ 0x200a) || n == 0x2028 || n == 0x2029 || n == 0x202f || n == 0x205f || n == 0x3000

/-- Drops the blanks at both ends. -/
def trimChars (cs : List Char) : List Char :=
  ((cs.dropWhile isBlank).reverse.dropWhile isBlank).reverse

def trim (s : String) : String := .ofList (trimChars s.toList)

/-- Only blanks, or nothing at all. -/
def isBlankText (s : String) : Bool := s.toList.all isBlank

def foldChar (c : Char) : Char := if 'A' ≤ c ∧ c ≤ 'Z' then Char.ofNat (c.toNat + 32) else c

def upperChar (c : Char) : Char := if 'a' ≤ c ∧ c ≤ 'z' then Char.ofNat (c.toNat - 32) else c

/-- Lower case of the ASCII letters. -/
def fold (s : String) : String := .ofList (s.toList.map foldChar)

/-- The text after `lead`, if it starts with `lead`. -/
def after? (lead text : List Char) : Option (List Char) :=
  match lead, text with
  | [], rest => some rest
  | _ :: _, [] => none
  | a :: lead, b :: rest => if a = b then after? lead rest else none

/-- `part` occurs in the text. -/
def occurs (part : List Char) : List Char → Bool
  | [] => part.isEmpty
  | c :: rest => part.isPrefixOf (c :: rest) || occurs part rest

/-- The parts before and after the last `c`, if there is one. -/
def splitLast? (c : Char) : List Char → Option (List Char × List Char)
  | [] => none
  | x :: rest =>
    match splitLast? c rest with
    | some (before, behind) => some (x :: before, behind)
    | none => if x = c then some ([], rest) else none

/-- `xs` with `sep` between neighbours. -/
def joined (sep : String) : List String → String
  | [] => ""
  | [x] => x
  | x :: rest => x ++ sep ++ joined sep rest

/-- How many bytes the text takes. -/
def byteLength (cs : List Char) : Nat := cs.foldl (fun n c => n + c.utf8Size) 0

/-- The first `n` bytes of the text and the rest; none when that would divide a character. -/
def splitBytes? : Nat → List Char → Option (List Char × List Char)
  | 0, cs => some ([], cs)
  | _ + 1, [] => none
  | n + 1, c :: cs =>
    if n + 1 < c.utf8Size then none
    else (splitBytes? (n + 1 - c.utf8Size) cs).map fun (before, after) => (c :: before, after)
termination_by _ cs => cs.length

end TableKeeper.Text
