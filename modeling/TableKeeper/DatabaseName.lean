import TableKeeper.Text.Blank
import TableKeeper.Text.Digits

/-!
  TableKeeper.DatabaseName — what the text given to open a database names.

  1. `:memory:` is a private database in memory, the empty text a private one in a temporary
     file, and any other text the path of a file.
  2. A text that starts with `file:` is a URI instead: an authority that is empty or
     `localhost`, a path, parameters after `?`, and a fragment after `#`, which is ignored.
     `%` and two hexadecimal digits stand for a byte; what follows a zero byte is dropped up
     to the end of its part.
  3. `mode` says whether the file may be made (`rwc`), must be there (`rw`), is only read
     (`ro`), or is a database in memory; no later `mode` may allow more than an earlier one
     did. `cache=shared` gives a database in memory to all who use its name.
  4. `vfs` names one of the ways to reach files, of which one keeps them in memory and shares
     those whose path starts with a slash. Two others have nothing that connections could
     share a write-ahead log by, nor has a file with `nolock`. A file with `immutable` is only
     read. One with `modeof` takes its permissions from another file, which must exist. Other
     parameters mean nothing.
-/

namespace TableKeeper

open Text

inductive Access where
  | create
  | existing
  | readOnly
  deriving DecidableEq, Repr

inductive Storage where
  | memory
  /-- In memory, shared by its name. -/
  | shared (name : String)
  | temporary
  | file (path : String)
  deriving DecidableEq, Repr

structure DatabaseName where
  storage : Storage
  access : Access := .create
  /-- It is never written, even if it was made. -/
  immutable : Bool := false
  /-- It may keep a write-ahead log. -/
  canLog : Bool := true
  /-- A file that must exist. -/
  permissionsOf : Option String := none
  deriving DecidableEq, Repr

namespace DatabaseName

inductive Fault where
  | authority (name : String)
  | noAccessMode (name : String)
  | accessNotAllowed (name : String)
  | noCacheMode (name : String)
  | noFileSystem (name : String)
  deriving DecidableEq, Repr

def Fault.message : Fault → String
  | authority name => "invalid uri authority: " ++ name
  | noAccessMode name => "no such access mode: " ++ name
  | accessNotAllowed name => "access mode not allowed: " ++ name
  | noCacheMode name => "no such cache mode: " ++ name
  | noFileSystem name => "no such vfs: " ++ name

/-! ## Parts of a URI -/

/-- The bytes of a part of a URI. -/
def bytesOf : List Char → List UInt8
  | '%' :: a :: b :: rest =>
    if isHexDigit a && isHexDigit b then
      let byte := hexNumber [a, b]
      if byte = 0 then [] else .ofNat byte :: bytesOf rest
    else 37 :: bytesOf (a :: b :: rest)
  | c :: rest => String.utf8EncodeChar c ++ bytesOf rest
  | [] => []

/-- A part of a URI as text; bytes that are no text leave it as it stands. -/
def decoded (part : List Char) : String :=
  (String.fromUTF8? ⟨(bytesOf part).toArray⟩).getD (.ofList part)

/-- The text before the first `c`, and what follows it. -/
def splitAt (c : Char) (cs : List Char) : List Char × List Char :=
  (cs.takeWhile (· ≠ c), (cs.dropWhile (· ≠ c)).drop 1)

/-- The text between `&`s. -/
def fields : List Char → List (List Char)
  | [] => [[]]
  | c :: rest =>
    if c = '&' then [] :: fields rest
    else match fields rest with
      | [] => [[c]]
      | f :: more => (c :: f) :: more

/-- The parameters that have a name. -/
def parameters (query : List Char) : List (String × String) :=
  (fields query).filterMap fun f =>
    let (name, value) := splitAt '=' f
    if decoded name = "" then none else some (decoded name, decoded value)

/-- Takes off the authority. -/
def withoutAuthority (cs : List Char) : Except Fault (List Char) :=
  match cs with
  | '/' :: '/' :: rest =>
    let name : String := .ofList (rest.takeWhile (· ≠ '/'))
    if name = "" ∨ name = "localhost" then .ok (rest.dropWhile (· ≠ '/')) else .error (.authority name)
  | cs => .ok cs

/-! ## Parameters -/

/-- What the parameters have asked for. -/
structure Wanted where
  /-- Unset is in memory. -/
  access : Option Access := some .create
  isShared : Bool := false
  fileSystem : String := "unix"

/-- How much an access allows. -/
def rank : Option Access → Nat
  | some .readOnly => 1
  | some .existing => 2
  | some .create => 6
  | none => 128

def accessOf? : String → Option (Option Access)
  | "ro" => some (some .readOnly)
  | "rw" => some (some .existing)
  | "rwc" => some (some .create)
  | "memory" => some none
  | _ => none

def want (w : Wanted) (p : String × String) : Except Fault Wanted :=
  let (name, value) := p
  if name = "vfs" then .ok { w with fileSystem := value }
  else if name = "cache" then
    if value = "shared" then .ok { w with isShared := true }
    else if value = "private" then .ok { w with isShared := false }
    else .error (.noCacheMode value)
  else if name = "mode" then
    match accessOf? value with
    | none => .error (.noAccessMode value)
    | some a => if a.isSome ∧ rank w.access < rank a then .error (.accessNotAllowed value) else .ok { w with access := a }
  else .ok w

/-- The way to keep files in memory. -/
def memorySystem : String := "memdb"

/-- The ways to reach files. -/
def fileSystems : List String := ["unix", "unix-none", "unix-dotfile", "unix-excl", memorySystem]

/-- The ways that cannot share a write-ahead log. -/
def unsharing : List String := ["unix-none", "unix-dotfile"]

/-- The truth that a parameter asks for: a number whose last byte is not zero, or a word. -/
def truth (value : String) : Bool :=
  match value.toList.takeWhile Char.isDigit with
  | [] => ["on", "yes", "true", "extra", "full"].contains (.ofList (value.toList.map Char.toLower))
  | digits =>
    let n := decimalValue digits
    n < 0x80000000 && n % 256 ≠ 0

/-- The value of the first parameter of a name. -/
def parameter? (ps : List (String × String)) (name : String) : Option String := (ps.find? (·.1 == name)).map (·.2)

def storageOf (path : String) (w : Wanted) : Storage :=
  let inMemory := path = ":memory:" ∨ w.access.isNone
  if inMemory ∧ w.isShared ∧ path ≠ "" then .shared path
  else if inMemory then .memory
  else if path = "" then .temporary
  else if w.fileSystem = memorySystem then
    if 1 < path.length ∧ path.toList.head? = some '/' then .shared path else .memory
  else .file path

def ofUri (cs : List Char) : Except Fault DatabaseName := do
  let cs ← withoutAuthority cs
  let (path, query) := splitAt '?' (cs.takeWhile (· ≠ '#'))
  let ps := parameters query
  let w ← ps.foldlM want {}
  if !fileSystems.contains w.fileSystem then throw (.noFileSystem w.fileSystem)
  return {
    storage := storageOf (decoded path) w
    access := w.access.getD .create
    immutable := (parameter? ps "immutable").any truth
    canLog := !(unsharing.contains w.fileSystem || (parameter? ps "nolock").any truth)
    permissionsOf := parameter? ps "modeof" }

def parse (s : String) : Except Fault DatabaseName :=
  match after? "file:".toList s.toList with
  | some rest => ofUri rest
  | none => .ok { storage := storageOf s {} }

end DatabaseName
end TableKeeper
