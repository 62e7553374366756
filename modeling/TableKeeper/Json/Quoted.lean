import TableKeeper.Text.Blank
import TableKeeper.Text.Digits

/-!
  TableKeeper.Json.Quoted — JSON strings.

  1. Written: the quote, the backslash and the control characters below U+0020 are escaped,
     with a letter where JSON has one and four hexadecimal digits otherwise; all else stands
     for itself.
  2. Read: every escape of JSON is accepted, a surrogate pair is one character, and a
     surrogate on its own or a raw control character is refused.
-/

namespace TableKeeper.Json

open Text

/-! ## Writing -/

def escapeChar (c : Char) : List Char :=
  match c with
  | '"' => ['\\', '"']
  | '\\' => ['\\', '\\']
  | '\n' => ['\\', 'n']
  | '\r' => ['\\', 'r']
  | '\t' => ['\\', 't']
  | c =>
    if c.toNat = 8 then ['\\', 'b']
    else if c.toNat = 12 then ['\\', 'f']
    else if c.toNat < 32 then ['\\', 'u', '0', '0', hexDigit (c.toNat / 16), hexDigit (c.toNat % 16)]
    else [c]

def quoteChars (cs : List Char) : List Char := '"' :: cs.flatMap escapeChar ++ ['"']

def quote (s : String) : String := .ofList (quoteChars s.toList)

/-! ## Reading -/

def hexValues? : List Char → Option Nat
  | [a, b, c, d] =>
    match hexValue? a, hexValue? b, hexValue? c, hexValue? d with
    | some a, some b, some c, some d => some (((a * 16 + b) * 16 + c) * 16 + d)
    | _, _, _, _ => none
  | _ => none

def isHighSurrogate (n : Nat) : Bool := 0xd800 ≤ n && n ≤ 0xdbff

def isLowSurrogate (n : Nat) : Bool := 0xdc00 ≤ n && n ≤ 0xdfff

/-- The character after a backslash, for the escapes of one letter. -/
def simpleEscape? : Char → Option Char
  | '"' => some '"'
  | '\\' => some '\\'
  | '/' => some '/'
  | 'b' => some (Char.ofNat 8)
  | 'f' => some (Char.ofNat 12)
  | 'n' => some '\n'
  | 'r' => some '\r'
  | 't' => some '\t'
  | _ => none

/-- The rest of a string after its opening quote: its characters and what follows the
closing quote. -/
def unquote? : List Char → Option (List Char × List Char)
  | [] => none
  | '"' :: rest => some ([], rest)
  | '\\' :: 'u' :: a :: b :: c :: d :: '\\' :: 'u' :: e :: f :: g :: h :: rest =>
    match hexValues? [a, b, c, d] with
    | none => none
    | some n =>
      if isHighSurrogate n then
        match hexValues? [e, f, g, h] with
        | none => none
        | some m =>
          if isLowSurrogate m then
            (unquote? rest).map fun (cs, rest) =>
              (Char.ofNat (0x10000 + (n - 0xd800) * 1024 + (m - 0xdc00)) :: cs, rest)
          else none
      else if isLowSurrogate n then none
      else (unquote? ('\\' :: 'u' :: e :: f :: g :: h :: rest)).map fun (cs, rest) => (Char.ofNat n :: cs, rest)
  | '\\' :: 'u' :: a :: b :: c :: d :: rest =>
    match hexValues? [a, b, c, d] with
    | none => none
    | some n =>
      if isHighSurrogate n || isLowSurrogate n then none
      else (unquote? rest).map fun (cs, rest) => (Char.ofNat n :: cs, rest)
  | '\\' :: c :: rest =>
    match simpleEscape? c with
    | none => none
    | some c => (unquote? rest).map fun (cs, rest) => (c :: cs, rest)
  | '\\' :: [] => none
  | c :: rest => if c.toNat < 32 then none else (unquote? rest).map fun (cs, rest) => (c :: cs, rest)

def isJsonBlank (c : Char) : Bool := c == ' ' || c == '\n' || c == '\t' || c == '\r'

def skipBlank (cs : List Char) : List Char := cs.dropWhile isJsonBlank

end TableKeeper.Json
