import TableKeeper.Text.Blank

/-!
  TableKeeper.Engine.Collation — which texts are the same, and which comes first.

  Texts compare by their characters: as they are, with the letters of ASCII in one case, or
  without the spaces at their ends.
-/

namespace TableKeeper.Engine

open Text

inductive Collation where
  | binary
  | nocase
  | rtrim
  deriving DecidableEq, Repr

/-- The characters of a name with the letters of ASCII in upper case. -/
def foldName (s : String) : List Char := s.toList.map upperChar

/-- Names are the same when they differ only in the case of ASCII letters. -/
def sameName (a b : String) : Bool := foldName a == foldName b

def compareLists {α : Type} (cmp : α → α → Ordering) : List α → List α → Ordering
  | [], [] => .eq
  | [], _ :: _ => .lt
  | _ :: _, [] => .gt
  | a :: as, b :: bs => match cmp a b with
    | .eq => compareLists cmp as bs
    | o => o

namespace Collation

def ofName? (name : String) : Option Collation :=
  if sameName name "BINARY" then some binary
  else if sameName name "NOCASE" then some nocase
  else if sameName name "RTRIM" then some rtrim
  else none

/-- The characters that two texts are compared by. -/
def key : Collation → List Char → List Char
  | binary, cs => cs
  | nocase, cs => cs.map foldChar
  | rtrim, cs => (cs.reverse.dropWhile (· == ' ')).reverse

def compare (c : Collation) (s t : String) : Ordering :=
  compareLists (fun a b => Ord.compare a.toNat b.toNat) (c.key s.toList) (c.key t.toList)

end Collation
end TableKeeper.Engine
