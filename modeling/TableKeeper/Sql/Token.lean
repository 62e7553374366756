import TableKeeper.Number.Numeric
import TableKeeper.Value

/-!
  TableKeeper.Sql.Token — SQL text as tokens.

  1. Blanks and comments divide tokens. A back-tick, a double quote or a bracket opens a
     quoted name, a single quote opens text; a doubled closing quote stands for itself.
     `X'..'` is bytes. The digits of a number may be divided by single underscores.
  2. `?` is a parameter, `?n` a numbered one, and a name behind `:`, `@` or `$` a named one.
  3. What is no token, an unclosed quote among them, is one `illegal` lexeme, and nothing is
     read after it. All other text ends with an `ending`, at its first NUL at the latest.
  4. Each lexeme keeps its own text, the text skipped before it, and the count of bytes
     before it, which error messages give as the place.
-/

namespace TableKeeper.Sql

open Number Text

inductive Token where
  /-- An unquoted word: a keyword or a name. -/
  | word (s : String)
  /-- A quoted name and its opening quote. -/
  | name (quote : Char) (s : String)
  | text (s : String)
  | blob (bytes : List UInt8)
  | number (n : Numeric)
  /-- The digits of `2 ^ 63`, which are an integer only behind a minus. -/
  | lowest
  /-- `?`, with its number if it has one. -/
  | parameter (n : Option Nat)
  /-- A named parameter, with its mark. -/
  | named (s : String)
  | symbol (s : String)
  | illegal
  | ending
  deriving DecidableEq

structure Lexeme where
  token : Token
  raw : List Char
  gap : List Char
  offset : Nat

namespace Token

/-! ## Character classes -/

def isSqlBlank (c : Char) : Bool := c == ' ' || c == '\t' || c == '\n' || c == '\r' || c.toNat == 12

def isNameStart (c : Char) : Bool :=
  ('a' ≤ c && c ≤ 'z') || ('A' ≤ c && c ≤ 'Z') || c == '_' || 0x80 ≤ c.toNat

def isNamePart (c : Char) : Bool := isNameStart c || c.isDigit || c == '$'

/-! ## Quotes -/

/-- What a quote holds and how many characters it takes up to its closing mark; none when
it is never closed. -/
def quoted? (close : Char) : List Char → Option (List Char × Nat)
  | [] => none
  | c :: rest =>
    if c = close then
      match rest with
      | d :: rest' =>
        if d = close then (quoted? close rest').map fun (cs, n) => (close :: cs, n + 2) else some ([], 1)
      | [] => some ([], 1)
    else (quoted? close rest).map fun (cs, n) => (c :: cs, n + 1)

/-- A bracketed name has no escape. -/
def bracketed? : List Char → Option (List Char × Nat)
  | [] => none
  | c :: rest => if c = ']' then some ([], 1) else (bracketed? rest).map fun (cs, n) => (c :: cs, n + 1)

/-- A quoted token, or all the text when the quote is not closed. -/
def closed (make : String → Token) (rest : List Char) : Option (List Char × Nat) → Token × Nat
  | some (cs, n) => (make (.ofList cs), n + 1)
  | none => (.illegal, rest.length + 1)

/-- Bytes, of which the text begins after `X'`: pairs of hexadecimal digits. -/
def bytesToken (cs : List Char) : Token × Nat :=
  let ds := cs.takeWhile isHexDigit
  match cs.dropWhile isHexDigit with
  | '\'' :: _ => (if ds.length % 2 = 0 then .blob (bytesOfHex ds) else .illegal, ds.length + 3)
  | rest => (.illegal, ds.length + (rest.takeWhile (· ≠ '\'')).length + 3)

/-! ## Numbers -/

/-- Digits, with underscores between them. -/
def spanDigits (cs : List Char) : List Char × List Char :=
  let inNumber (c : Char) : Bool := c.isDigit || c == '_'
  if cs.head?.any Char.isDigit then (cs.takeWhile inNumber, cs.dropWhile inNumber) else ([], cs)

def spanFraction : List Char → List Char × List Char
  | '.' :: rest =>
    let (ds, rest) := spanDigits rest
    ('.' :: ds, rest)
  | cs => ([], cs)

def spanSign : List Char → List Char × List Char
  | '+' :: rest => (['+'], rest)
  | '-' :: rest => (['-'], rest)
  | cs => ([], cs)

/-- An exponent has digits, or it is none. -/
def spanExponent : List Char → List Char
  | e :: rest =>
    if e = 'e' ∨ e = 'E' then
      let (sign, rest) := spanSign rest
      let ds := (spanDigits rest).1
      if ds.isEmpty then [] else e :: sign ++ ds
    else []
  | [] => []

/-- Digits, a point and an exponent. -/
def numberSpan (cs : List Char) : List Char :=
  let (whole, rest) := spanDigits cs
  let (fraction, rest) := spanFraction rest
  whole ++ fraction ++ spanExponent rest

/-- Every underscore stands between two digits. -/
def wellDivided (isDigit : Char → Bool) : List Char → Bool
  | [] => true
  | [c] => c != '_'
  | c :: '_' :: rest => isDigit c && rest.head?.any isDigit && wellDivided isDigit rest
  | _ :: d :: rest => wellDivided isDigit (d :: rest)

def undivided (cs : List Char) : List Char := cs.filter (· ≠ '_')

def decimalToken (span : List Char) : Token :=
  let ds := undivided span
  if !wellDivided Char.isDigit span then .illegal
  else if ds.all Char.isDigit ∧ decimalValue ds = 2 ^ 63 then .lowest
  else .number ((Numeric.ofText? (.ofList ds)).getD (.integer 0))

/-- Hexadecimal digits are 64 bits, the top one the sign. -/
def hexToken (span : List Char) : Token :=
  if wellDivided isHexDigit span then .number (.integer (.ofInt (hexNumber (undivided span) : Nat))) else .illegal

def unsignedNumber (cs : List Char) : Token × Nat :=
  let decimal : Token × Nat := (decimalToken (numberSpan cs), (numberSpan cs).length)
  match cs with
  | '0' :: x :: d :: rest =>
    if (x = 'x' ∨ x = 'X') ∧ isHexDigit d then
      let ds := (d :: rest).takeWhile fun c => isHexDigit c || c == '_'
      (hexToken ds, ds.length + 2)
    else decimal
  | _ => decimal

/-- A number must not run on into a name. -/
def numberToken (cs : List Char) : Token × Nat :=
  let (token, n) := unsignedNumber cs
  match ((cs.drop n).takeWhile isNamePart).length with
  | 0 => (token, n)
  | m + 1 => (.illegal, n + m + 1)

/-! ## Other tokens -/

/-- A parameter behind `?`. -/
def parameterToken (rest : List Char) : Token × Nat :=
  let ds := rest.takeWhile Char.isDigit
  (.parameter (if ds.isEmpty then none else some (decimalValue ds)), ds.length + 1)

/-- A named parameter: a mark and a name. -/
def namedToken (mark : Char) (rest : List Char) : Token × Nat :=
  let cs := rest.takeWhile isNamePart
  (if cs.isEmpty then .illegal else .named (.ofList (mark :: cs)), cs.length + 1)

def wordToken (cs : List Char) : Token × Nat :=
  let w := cs.takeWhile isNamePart
  (.word (.ofList w), w.length)

def symbols2 : List (List Char) :=
  [['=', '='], ['<', '='], ['<', '>'], ['<', '<'], ['>', '='], ['>', '>'], ['!', '='], ['|', '|'], ['-', '>']]

def symbols1 : List Char := ['(', ')', ';', ',', '.', '+', '-', '*', '/', '%', '=', '<', '>', '|', '&', '~']

def symbolToken (cs : List Char) : Token × Nat :=
  if symbols2.contains (cs.take 2) then (.symbol (.ofList (cs.take 2)), 2)
  else if cs.head?.any symbols1.contains then (.symbol (.ofList (cs.take 1)), 1)
  else (.illegal, 1)

/-- The token at the start of a text that starts with neither blank nor comment, and how
many characters it takes. -/
def next : List Char → Token × Nat
  | [] => (.ending, 0)
  | '\'' :: rest => closed .text rest (quoted? '\'' rest)
  | '[' :: rest => closed (.name '[') rest (bracketed? rest)
  | '?' :: rest => parameterToken rest
  | c :: rest =>
    if c = '`' ∨ c = '"' then closed (.name c) rest (quoted? c rest)
    else if c.isDigit then numberToken (c :: rest)
    else if c = '.' ∧ rest.head?.any Char.isDigit then numberToken (c :: rest)
    else if (c = 'x' ∨ c = 'X') ∧ rest.head? = some '\'' then bytesToken (rest.drop 1)
    else if c = ':' ∨ c = '@' ∨ c = '$' then namedToken c rest
    else if isNameStart c then wordToken (c :: rest)
    else symbolToken (c :: rest)

/-! ## Skipping -/

/-- The length of a comment after its `/*`. -/
def blockLength : List Char → Nat
  | [] => 0
  | '*' :: '/' :: _ => 2
  | _ :: rest => blockLength rest + 1

/-- The length of the run of blanks or of the comment in front. A vertical tab is a blank
only behind another. -/
def blankLength : List Char → Nat
  | '-' :: '-' :: rest => (rest.takeWhile (· ≠ '\n')).length + 2
  | '/' :: '*' :: c :: rest => blockLength (c :: rest) + 2
  | c :: rest =>
    if c.toNat = 0xfeff then 1 else if isSqlBlank c then (rest.takeWhile Numeric.isSpace).length + 1 else 0
  | [] => 0

/-- The length of all that is skipped in front of a token. -/
def gapLength : Nat → List Char → Nat
  | 0, _ => 0
  | fuel + 1, cs =>
    match blankLength cs with
    | 0 => 0
    | n + 1 => n + 1 + gapLength fuel (cs.drop (n + 1))

end Token

/-- Each step takes at least one character, so the length of the text bounds the steps. -/
def lexFrom : Nat → Nat → List Char → List Lexeme
  | 0, offset, _ => [⟨.ending, [], [], offset⟩]
  | fuel + 1, offset, cs =>
    let n := Token.gapLength fuel cs
    let gap := cs.take n
    let start := cs.drop n
    let offset := offset + byteLength gap
    let (token, m) := Token.next start
    let raw := start.take m
    let lexeme := ⟨token, raw, gap, offset⟩
    if token = .illegal ∨ token = .ending then [lexeme]
    else lexeme :: lexFrom fuel (offset + byteLength raw) (start.drop m)

/-- The lexemes of a text. The last is the ending or an illegal one. -/
def lexemes (cs : List Char) : List Lexeme := lexFrom (cs.length + 1) 0 cs

/-- The lexemes of a text up to its first NUL. -/
def lex (sql : String) : List Lexeme := lexemes (sql.toList.takeWhile (·.toNat ≠ 0))

end TableKeeper.Sql
