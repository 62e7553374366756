/-!
  TableKeeper.Text.Utf8 — bytes as text, whatever they are.

  Each well-formed sequence is its character. Of an ill-formed one, the longest part that
  could still have become well-formed is one U+FFFD, and so is a byte that begins nothing.
-/

namespace TableKeeper.Text

def replacement : Char := Char.ofNat 0xfffd

/-- The bounds of the second byte behind a leading byte, and how many bytes follow in all. -/
def followers? (lead : Nat) : Option (Nat × Nat × Nat) :=
  if 0xc2 ≤ lead ∧ lead ≤ 0xdf then some (0x80, 0xbf, 1)
  else if lead = 0xe0 then some (0xa0, 0xbf, 2)
  else if lead = 0xed then some (0x80, 0x9f, 2)
  else if 0xe1 ≤ lead ∧ lead ≤ 0xef then some (0x80, 0xbf, 2)
  else if lead = 0xf0 then some (0x90, 0xbf, 3)
  else if 0xf1 ≤ lead ∧ lead ≤ 0xf3 then some (0x80, 0xbf, 3)
  else if lead = 0xf4 then some (0x80, 0x8f, 3)
  else none

/-- The value bits of a leading byte that `n` bytes follow. -/
def leadValue (lead n : Nat) : Nat := lead % (64 >>> n)

/-- Reads the bytes that follow a leading one, the first of them within bounds. -/
def following : Nat → Nat → Nat → Nat → List UInt8 → Char × List UInt8
  | 0, _, _, value, bs => (Char.ofNat value, bs)
  | _ + 1, _, _, _, [] => (replacement, [])
  | n + 1, low, high, value, b :: bs =>
    if low ≤ b.toNat ∧ b.toNat ≤ high then following n 0x80 0xbf (value * 64 + b.toNat % 64) bs
    else (replacement, b :: bs)

/-- The first character of bytes, and the bytes after it. -/
def firstChar (b : UInt8) (bs : List UInt8) : Char × List UInt8 :=
  if b.toNat < 0x80 then (Char.ofNat b.toNat, bs)
  else
    match followers? b.toNat with
    | some (low, high, n) => following n low high (leadValue b.toNat n) bs
    | none => (replacement, bs)

/-- Every character takes at least one byte, so the count of bytes bounds the steps. -/
def charsOf : Nat → List UInt8 → List Char
  | 0, _ => []
  | _ + 1, [] => []
  | fuel + 1, b :: bs =>
    let (c, rest) := firstChar b bs
    c :: charsOf fuel rest

def ofBytes (bs : List UInt8) : String := .ofList (charsOf bs.length bs)

/-- The bytes of a text. -/
def toBytes (s : String) : List UInt8 := s.toUTF8.toList

end TableKeeper.Text
