import TableKeeper.DatabaseName
import TableKeeper.Descriptor
import TableKeeper.Engine.Hold
import TableKeeper.Engine.Schema

/-!
  TableKeeper.Disk — the files that a library call can see.

  1. A file holds bytes or a database; a database remembers whether it keeps a write-ahead
     log, and how often it was written. Directories are listed by their full path.
  2. Ordinary files are reached step by step, and each step must go through a directory.
  3. A database's path is taken apart by name only: `..` takes off the step before it,
     whether or not that exists, but no step may lead through a file. Then its directory
     must exist and it must not be one. A path of more than 504 bytes is refused.
-/

namespace TableKeeper

open Engine

/-- A path from the root, by its steps. -/
abbrev FullPath := List String

/-- A database in a file. -/
structure StoredDatabase where
  database : Database := {}
  wal : Bool := false
  /-- How often it was written. -/
  version : Nat := 0

inductive FileContent where
  | bytes (bs : List UInt8)
  | database (d : StoredDatabase)

structure Disk where
  /-- The directory that relative paths start from. -/
  cwd : FullPath
  dirs : List FullPath
  files : List (FullPath × FileContent)
  /-- A database that another connection holds, and how. -/
  held : Option (FullPath × Hold) := none
  /-- Databases in memory that are reached by a name. -/
  shared : List (String × Database) := []

/-- Why an ordinary file cannot be used. -/
inductive FileFault where
  | notFound
  | exists
  | notADirectory
  | isADirectory
  | nameTooLong
  | nulInPath
  | notText
  deriving DecidableEq, Repr

def FileFault.message : FileFault → String
  | notFound => "No such file or directory (os error 2)"
  | .exists => "File exists (os error 17)"
  | notADirectory => "Not a directory (os error 20)"
  | isADirectory => "Is a directory (os error 21)"
  | nameTooLong => "File name too long (os error 36)"
  | nulInPath => "file name contained an unexpected NUL byte"
  | notText => "stream did not contain valid UTF-8"

namespace Disk

/-- The text between slashes. -/
def splitSteps : List Char → List (List Char)
  | [] => [[]]
  | c :: rest =>
    if c = '/' then [] :: splitSteps rest
    else match splitSteps rest with
      | [] => [[c]]
      | s :: more => (c :: s) :: more

/-- The steps of a path. -/
def steps (p : String) : List String := ((splitSteps p.toList).map String.ofList).filter (· ≠ "")

def start (d : Disk) (p : String) : FullPath := if Path.isAbsolute p then [] else d.cwd

def isDir (d : Disk) (p : FullPath) : Bool := p.isEmpty || d.dirs.contains p

def file? (d : Disk) (p : FullPath) : Option FileContent := (d.files.find? (·.1 == p)).map (·.2)

def putFile (d : Disk) (p : FullPath) (c : FileContent) : Disk :=
  { d with files := d.files.filter (·.1 ≠ p) ++ [(p, c)] }

/-- The text of a full path. -/
def fullText (p : FullPath) : String := p.foldl (fun s step => s ++ "/" ++ step) ""

/-- The longest name that a file can have, in bytes. -/
def nameLimit : Nat := 255

/-! ## Ordinary files -/

/-- Where the steps lead; every step before the last must be a directory that exists, and
no step may be longer than 255 bytes. -/
def walk (d : Disk) : FullPath → List String → Except FileFault FullPath
  | here, [] => .ok here
  | here, s :: rest =>
    if !d.isDir here then
      .error (if (d.file? here).isSome then .notADirectory else .notFound)
    else if s = "." then walk d here rest
    else if s = ".." then walk d here.dropLast rest
    else if nameLimit < s.utf8ByteSize then .error .nameTooLong
    else walk d (here ++ [s]) rest

/-- Where a path leads by the rules for ordinary files. A path has at most 4095 bytes. -/
def reach (d : Disk) (p : String) : Except FileFault FullPath :=
  if p.toList.any (·.toNat = 0) then .error .nulInPath
  else if 4095 < p.utf8ByteSize then .error .nameTooLong
  else d.walk (d.start p) (steps p)

def locate (d : Disk) (p : String) : Except FileFault FullPath :=
  if p = "" then .error .notFound
  else do
    let full ← d.reach p
    if p.toList.getLast? = some '/' ∧ !d.isDir full ∧ (d.file? full).isSome then throw .notADirectory
    return full

def read (d : Disk) (p : String) : Except FileFault (List UInt8) := do
  let full ← d.locate p
  if d.isDir full then throw .isADirectory
  match d.file? full with
  | some (.bytes bs) => return bs
  | some (.database _) => return []
  | none => throw .notFound

def pathExists (d : Disk) (p : String) : Bool :=
  match d.locate p with
  | .ok full => d.isDir full || (d.file? full).isSome
  | .error _ => false

/-- Bytes as text. -/
def textOf (bs : List UInt8) : Except FileFault String :=
  match String.fromUTF8? ⟨bs.toArray⟩ with
  | some s => .ok s
  | none => .error .notText

def readText (d : Disk) (p : String) : Except FileFault String := do textOf (← d.read p)

/-- Makes one directory. -/
def makeDir (d : Disk) (p : String) : Except FileFault Disk := do
  let full ← d.reach p
  if d.isDir full ∨ (d.file? full).isSome then throw .exists
  if !d.isDir full.dropLast then throw .notFound
  return { d with dirs := d.dirs ++ [full] }

def isDirText (d : Disk) (p : String) : Bool :=
  match d.locate p with
  | .ok full => d.isDir full
  | .error _ => false

/-- Takes off slashes and steps `.` from the end of a path. A `.` that is the whole path
stays. -/
def trimEnd : List Char → List Char
  | '/' :: rest => trimEnd rest
  | '.' :: '/' :: rest => trimEnd ('/' :: rest)
  | cs => cs

/-- A path without its last step, if it has one to take off. -/
def parentText? (p : String) : Option String :=
  let backward := trimEnd p.toList.reverse
  if backward.isEmpty then none
  else
    let before := trimEnd (backward.dropWhile (· ≠ '/'))
    some (if !before.isEmpty then .ofList before.reverse else if Path.isAbsolute p then "/" else "")

/-- Makes a directory and those above it; one that exists is fine. What was made stays, also
when the rest cannot be made. The length of the path bounds the steps up. -/
def ensureDirs : Nat → Disk → String → Except FileFault Unit × Disk
  | 0, d, _ => (.ok (), d)
  | fuel + 1, d, p =>
    if p = "" then (.ok (), d)
    else
      match d.makeDir p with
      | .ok d => (.ok (), d)
      | .error .notFound =>
        match parentText? p with
        | none => (.error .notFound, d)
        | some q =>
          match ensureDirs fuel d q with
          | (.error e, d) => (.error e, d)
          | (.ok (), d) =>
            match d.makeDir p with
            | .ok d => (.ok (), d)
            | .error e => (if d.isDirText p then .ok () else .error e, d)
      | .error e => (if d.isDirText p then .ok () else .error e, d)

/-- The disk with a directory and those above it, if all of them can be made. -/
def makeDirs (fuel : Nat) (d : Disk) (p : String) : Except FileFault Disk :=
  let (made, d) := ensureDirs fuel d p
  made.map fun _ => d

/-- Opens a file for appending, making it when it is not there. -/
def openForAppend (d : Disk) (p : String) : Except FileFault (Disk × FullPath) := do
  if p = "" then throw .notFound
  let full ← d.reach p
  if d.isDir full ∨ p.toList.getLast? = some '/' then throw .isADirectory
  match d.file? full with
  | some _ => return (d, full)
  | none => if d.isDir full.dropLast then return (d.putFile full (.bytes []), full) else throw .notFound

/-! ## Databases -/

/-- The path of a database, by name only. -/
def databasePath (d : Disk) (p : String) : FullPath :=
  (steps p).foldl (fun here s => if s = "." then here else if s = ".." then here.dropLast else here ++ [s]) (d.start p)

/-- The longest path of a database, in bytes: its journal's path must fit 512. -/
def databasePathLimit : Nat := 504

/-- Steps by name, none of which may be too long or lead through a file. -/
def databaseSteps? (d : Disk) : FullPath → List String → Option FullPath
  | here, [] => some here
  | here, s :: rest =>
    if s = "." then databaseSteps? d here rest
    else if s = ".." then databaseSteps? d here.dropLast rest
    else if nameLimit < s.utf8ByteSize ∨ (d.file? here).isSome then none
    else databaseSteps? d (here ++ [s]) rest

/-- Where a database's file is, if its path can be one. -/
def locateDatabase? (d : Disk) (p : String) : Option FullPath := do
  let full ← d.databaseSteps? (d.start p) (steps p)
  if databasePathLimit < (fullText full).utf8ByteSize ∨ d.isDir full ∨ !d.isDir full.dropLast then none
  return full

/-- One byte is too little to be anything, and counts as none. -/
def isVacant : FileContent → Bool
  | .bytes bs => bs.length ≤ 1
  | .database _ => false

def stored? (d : Disk) (p : FullPath) : Option StoredDatabase :=
  match d.file? p with
  | some (.database s) => some s
  | _ => none

/-- The place of a database, made when it is not there and may be; none when it cannot be
opened. -/
def openDatabase? (d : Disk) (p : String) (access : Access) : Option (Disk × FullPath) := do
  let full ← d.locateDatabase? p
  match d.file? full with
  | none => if access = .create then some (d.putFile full (.database {}), full) else none
  | some c => some (if isVacant c then d.putFile full (.database {}) else d, full)

/-- A path with something behind its last step. -/
def beside (p : FullPath) (ending : String) : FullPath := p.dropLast ++ (p.getLast?.map (· ++ ending)).toList

/-- A file's journal has a name eight bytes longer, and without it nothing is written. -/
def canKeepJournal (d : Disk) (p : FullPath) : Bool :=
  (p.getLast?.getD "").utf8ByteSize + 8 ≤ nameLimit && !d.isDir (beside p "-journal")

/-- Nothing is read of a file while its log cannot be taken away. -/
def canRead (d : Disk) (p : FullPath) : Bool := !d.isDir (beside p "-wal")

/-! ## Shared databases in memory -/

def sharedDatabase? (d : Disk) (name : String) : Option Database := (d.shared.find? (·.1 == name)).map (·.2)

def putShared (d : Disk) (name : String) (db : Database) : Disk :=
  { d with shared := d.shared.filter (·.1 ≠ name) ++ [(name, db)] }

def dropShared (d : Disk) (name : String) : Disk := { d with shared := d.shared.filter (·.1 ≠ name) }

end Disk
end TableKeeper
