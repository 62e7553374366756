import TableKeeper.Error
import TableKeeper.Text.Blank

/-!
  TableKeeper.Descriptor — the text that names a database and a table.

  1. `[sqlite://|sqlite:]path[#table]`, with blanks around it ignored.
  2. The table is what follows the last `#`; an empty one counts as absent, and a store
     then works on the schema table.
  3. The path `:memory:` names a private database in memory; any other path is resolved
     against a base directory (`resolve`). A user may have no home directory, and then a path
     that starts with `~/` leads nowhere (`locate`).
-/

namespace TableKeeper

open Text

structure Descriptor where
  path : String
  tableName : Option String
  deriving DecidableEq, Repr

namespace Descriptor

def defaultTable : String := "sqlite_master"

def memoryPath : String := ":memory:"

inductive Fault where
  | noPath (descriptor : String)
  deriving DecidableEq, Repr

def Fault.error : Fault → Error
  | noPath descriptor => .invalidInput ("connection descriptor has no path: " ++ descriptor)

/-- Takes off at most one scheme, the longer one first. -/
def withoutScheme (cs : List Char) : List Char :=
  ((after? "sqlite://".toList cs).orElse fun _ => after? "sqlite:".toList cs).getD cs

def nonEmpty? (cs : List Char) : Option String := if cs.isEmpty then none else some (.ofList cs)

def parse (s : String) : Except Fault Descriptor :=
  let rest := withoutScheme (trimChars s.toList)
  let (path, fragment) := (splitLast? '#' rest).getD (rest, [])
  if path.isEmpty then .error (.noPath s) else .ok ⟨.ofList path, nonEmpty? fragment⟩

def memory (table : Option String) : Descriptor := ⟨memoryPath, table.filter (· ≠ "")⟩

def table (d : Descriptor) : String := d.tableName.getD defaultTable

def hasTable (d : Descriptor) : Bool := d.tableName.isSome

def isMemory (d : Descriptor) : Bool := d.path == memoryPath

def display (d : Descriptor) : String :=
  "sqlite://" ++ d.path ++ (match d.tableName with | some t => "#" ++ t | none => "")

end Descriptor

/-! ## Paths -/

namespace Path

def isAbsolute (p : String) : Bool := p.toList.head? == some '/'

/-- `right` below `left`: an absolute `right` stands alone, and otherwise one slash divides
the two unless `left` is empty or ends in one. -/
def join (left right : String) : String :=
  if isAbsolute right then right
  else if left.toList.isEmpty || left.toList.getLast? == some '/' then left ++ right
  else left ++ "/" ++ right

end Path

/-- Where a database lives. -/
inductive Location where
  | memory
  | file (path : String)
  deriving DecidableEq, Repr

namespace Descriptor

/-- What the path says of the home directory: the part behind `~/`. -/
def homeRest? (d : Descriptor) : Option String := (after? ['~', '/'] d.path.toList).map .ofList

/-- A path that starts with `~/` is below the home directory, an absolute one stands as it
is, and any other is below the base directory. -/
def resolve (home base : String) (d : Descriptor) : Location :=
  if d.isMemory then .memory
  else
    match d.homeRest? with
    | some rest => .file (Path.join home rest)
    | none => .file (Path.join base d.path)

/-- A path that is to be below the home directory, where there is none. -/
structure Homeless where
  path : String
  deriving DecidableEq, Repr

def Homeless.error (f : Homeless) : Error := .invalidInput ("cannot expand '" ++ f.path ++ "': no home directory")

/-- Where the database lives for a user who may have no home directory. -/
def locate (home : Option String) (base : String) (d : Descriptor) : Except Homeless Location :=
  match home with
  | some home => .ok (d.resolve home base)
  | none => if d.homeRest?.isSome then .error ⟨d.path⟩ else .ok (d.resolve "" base)

end Descriptor

end TableKeeper
