import TableKeeper.Json.Numeral
import TableKeeper.Json.Quoted
import TableKeeper.Record

/-!
  TableKeeper.Json.Document — values and records as JSON text.

  1. Null, integers, reals and text are JSON's own; bytes are an array of their values, and
     a real that is not finite is `null`.
  2. Reading takes a number without fraction or exponent as an integer if it fits, and an
     array only as bytes; there are no booleans, and no value is an object.
  3. A record is an object in column order. A repeated key keeps its first place and its
     last value.
  4. The whole text is one document: only blanks may surround it.
-/

namespace TableKeeper

open Json Text

/-! ## Writing -/

namespace Value

def json : Value → String
  | null => "null"
  | integer n => toString n.toInt
  | real x => x.json
  | text s => quote s
  | blob bytes => "[" ++ joined "," (bytes.map fun b => toString b.toNat) ++ "]"

end Value

namespace Record

def jsonOf (entries : List (String × Value)) : String :=
  "\x7b" ++ joined "," (entries.map fun e => quote e.1 ++ ":" ++ e.2.json) ++ "\x7d"

def json (r : Record) : String := jsonOf r.entries

end Record

/-! ## Reading -/

namespace Json

/-- Reads one item and then, after each comma, another, up to the closing bracket. Every
item takes at least one character, so the length of the text bounds the count. -/
def readItems? {α : Type} (item? : List Char → Option (α × List Char)) (close : Char) :
    Nat → List Char → Option (List α × List Char)
  | 0, _ => none
  | fuel + 1, cs =>
    match item? (skipBlank cs) with
    | none => none
    | some (a, rest) =>
      match skipBlank rest with
      | ',' :: rest => (readItems? item? close fuel rest).map fun (as, rest) => (a :: as, rest)
      | c :: rest => if c = close then some ([a], rest) else none
      | [] => none

/-- The items between brackets, the opening one taken off already. -/
def readList? {α : Type} (item? : List Char → Option (α × List Char)) (close : Char) (cs : List Char) :
    Option (List α × List Char) :=
  match skipBlank cs with
  | [] => none
  | c :: rest => if c = close then some ([], rest) else readItems? item? close (rest.length + 2) (c :: rest)

def readByte? (cs : List Char) : Option (UInt8 × List Char) :=
  match readNumeral? cs with
  | some (.integer n, rest) =>
    if 0 ≤ n.toInt ∧ n.toInt < 256 then some (.ofNat n.toInt.toNat, rest) else none
  | _ => none

def readValue? : List Char → Option (Value × List Char)
  | 'n' :: 'u' :: 'l' :: 'l' :: rest => some (.null, rest)
  | '"' :: rest => (unquote? rest).map fun (s, rest) => (.text (.ofList s), rest)
  | '[' :: rest => (readList? readByte? ']' rest).map fun (bytes, rest) => (.blob bytes, rest)
  | cs =>
    (readNumeral? cs).map fun (n, rest) =>
      (match n with | .integer n => .integer n | .real x => .real x, rest)

def readEntry? : List Char → Option ((String × Value) × List Char)
  | '"' :: rest => do
    let (name, rest) ← unquote? rest
    match skipBlank rest with
    | ':' :: rest =>
      let (v, rest) ← readValue? (skipBlank rest)
      return ((.ofList name, v), rest)
    | _ => none
  | _ => none

def readRecord? : List Char → Option (Record × List Char)
  | '\x7b' :: rest => (readList? readEntry? '\x7d' rest).map fun (es, rest) => (.ofList es, rest)
  | _ => none

/-- Nothing but blanks around one item. -/
def whole? {α : Type} (item? : List Char → Option (α × List Char)) (s : String) : Option α :=
  match item? (skipBlank s.toList) with
  | some (a, rest) => if (skipBlank rest).isEmpty then some a else none
  | none => none

end Json

def Value.ofJson? (s : String) : Option Value := whole? readValue? s

def Record.ofJson? (s : String) : Option Record := whole? readRecord? s

/-- The JSON string of exactly a binding's name. -/
def jsonOfName (name : String) : String := quote name

end TableKeeper
