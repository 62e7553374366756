import TableKeeper.Json.Quoted

/-!
  TableKeeper.Toml.Quoted — TOML strings.

  1. Between double quotes a backslash escapes; between single quotes nothing does.
  2. A string between three quotes may hold line ends, which stay as they are written, and
     up to two quotes at its end. A line end right after the opening quotes is dropped, and
     a backslash at the end of a line drops all white space up to the next character.
  3. No control character but the tab stands raw in a string.
-/

namespace TableKeeper.Toml

open Text (hexValue?)

/-- White space within a line. -/
def isGap (c : Char) : Bool := c == ' ' || c == '\t'

/-- May stand for itself in a string or a comment. -/
def isPlain (c : Char) : Bool := c == '\t' || (32 ≤ c.toNat && c.toNat != 127)

def simpleEscape? : Char → Option Char
  | '"' => some '"'
  | '\\' => some '\\'
  | 'b' => some (Char.ofNat 8)
  | 'e' => some (Char.ofNat 27)
  | 'f' => some (Char.ofNat 12)
  | 'n' => some '\n'
  | 'r' => some '\r'
  | 't' => some '\t'
  | _ => none

/-- The character that hexadecimal digits name, if they name one. -/
def codePoint? (ds : List Char) : Option Char := do
  let n ← ds.foldlM (fun n d => (hexValue? d).map (n * 16 + ·)) 0
  if n.isValidChar then some (Char.ofNat n) else none

/-- Nothing but gaps before the end of the line. -/
def endsLine : List Char → Bool
  | '\n' :: _ => true
  | '\r' :: '\n' :: _ => true
  | c :: rest => isGap c && endsLine rest
  | [] => false

/-- Puts a character in front of what was read. -/
def withChar (c : Char) : Option (List Char × List Char) → Option (List Char × List Char) :=
  Option.map fun r => (c :: r.1, r.2)

/-- The rest of a string between double quotes: its characters and what follows the closing
quotes. `long` strings have three, and `folding` is on after a backslash at a line's end. -/
def readEscaped? (long : Bool) : Bool → List Char → Option (List Char × List Char)
  | _, [] => none
  | _, '\\' :: 'x' :: a :: b :: rest => do
    let c ← codePoint? [a, b]
    withChar c (readEscaped? long false rest)
  | _, '\\' :: 'u' :: a :: b :: c :: d :: rest => do
    let c ← codePoint? [a, b, c, d]
    withChar c (readEscaped? long false rest)
  | _, '\\' :: 'U' :: a :: b :: c :: d :: e :: f :: g :: h :: rest => do
    let c ← codePoint? [a, b, c, d, e, f, g, h]
    withChar c (readEscaped? long false rest)
  | _, '\\' :: c :: rest =>
    match simpleEscape? c with
    | some c => withChar c (readEscaped? long false rest)
    | none => if long && endsLine (c :: rest) then readEscaped? long true (c :: rest) else none
  | _, '"' :: '"' :: '"' :: rest =>
    if !long then some ([], '"' :: '"' :: rest)
    else match rest with
      | '"' :: '"' :: rest => some (['"', '"'], rest)
      | '"' :: rest => some (['"'], rest)
      | rest => some ([], rest)
  | _, '"' :: rest => if long then withChar '"' (readEscaped? long false rest) else some ([], rest)
  | folding, '\n' :: rest =>
    if !long then none
    else if folding then readEscaped? long true rest
    else withChar '\n' (readEscaped? long false rest)
  | folding, '\r' :: '\n' :: rest =>
    if !long then none
    else if folding then readEscaped? long true rest
    else withChar '\r' (withChar '\n' (readEscaped? long false rest))
  | folding, c :: rest =>
    if folding && isGap c then readEscaped? long true rest
    else if isPlain c && c != '\\' then withChar c (readEscaped? long false rest)
    else none

/-- The rest of a string between single quotes. -/
def readLiteral? (long : Bool) : List Char → Option (List Char × List Char)
  | [] => none
  | '\'' :: '\'' :: '\'' :: rest =>
    if !long then some ([], '\'' :: '\'' :: rest)
    else match rest with
      | '\'' :: '\'' :: rest => some (['\'', '\''], rest)
      | '\'' :: rest => some (['\''], rest)
      | rest => some ([], rest)
  | '\'' :: rest => if long then withChar '\'' (readLiteral? long rest) else some ([], rest)
  | '\n' :: rest => if long then withChar '\n' (readLiteral? long rest) else none
  | '\r' :: '\n' :: rest =>
    if long then withChar '\r' (withChar '\n' (readLiteral? long rest)) else none
  | c :: rest => if isPlain c then withChar c (readLiteral? long rest) else none

/-- The text without a line end at its start. -/
def dropLineEnd : List Char → List Char
  | '\n' :: rest => rest
  | '\r' :: '\n' :: rest => rest
  | cs => cs

/-- A string on one line, and what follows it. -/
def readShort? : List Char → Option (List Char × List Char)
  | '"' :: rest => readEscaped? false false rest
  | '\'' :: rest => readLiteral? false rest
  | _ => none

/-- A string of either length, and what follows it. -/
def readString? : List Char → Option (List Char × List Char)
  | '"' :: '"' :: '"' :: rest => readEscaped? true false (dropLineEnd rest)
  | '\'' :: '\'' :: '\'' :: rest => readLiteral? true (dropLineEnd rest)
  | cs => readShort? cs

end TableKeeper.Toml
