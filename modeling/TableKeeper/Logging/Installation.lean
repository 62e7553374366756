import TableKeeper.Disk
import TableKeeper.Logging.Line

/-!
  TableKeeper.Logging.Installation — the one log of a process.

  1. A log is installed at most once. A filter that cannot be read is refused first, then a
     second installation, and only then is the log's file opened. How a filter is read, and what
     it is then, is left to the caller (`installBy`).
  2. Opening makes the directories above the file; whatever cannot be made or opened is
     named in the error, and nothing is installed.
  3. What is logged is appended to the file. Without a file it goes to standard error, which
     is not kept here; times are not part of a line.
-/

namespace TableKeeper

structure Installation (φ : Type) where
  filter : φ
  format : LogFormat
  file : Option FullPath

/-- The files and the log of a process. -/
structure Logging (φ : Type) where
  disk : Disk
  installed : Option (Installation φ) := none

abbrev LogState := Logging LogFilter

inductive InstallFault where
  /-- The filter, and what is wrong with it. -/
  | invalidFilter (complaint : String)
  | alreadyInstalled
  | unusable (path : String) (fault : FileFault)
  deriving DecidableEq, Repr

def InstallFault.error : InstallFault → Error
  | invalidFilter complaint => .config ("invalid log filter " ++ complaint)
  | alreadyInstalled => .operationFailed "init_logging" "logging already initialized"
  | unusable path fault => .config (path ++ ": " ++ fault.message)

/-- What came of an installation, and the state after it. -/
structure Installing (φ : Type) where
  result : Except InstallFault Unit
  state : Logging φ

namespace Logging

variable {φ : Type}

/-- The directory above a path, if the path has one of its own. -/
def directoryAbove? (path : String) : Option String := (Disk.parentText? path).filter (· ≠ "")

/-- Makes the directories above a file, as far as they are missing. -/
def withDirectories (d : Disk) (path : String) : Except InstallFault Unit × Disk :=
  match directoryAbove? path with
  | none => (.ok (), d)
  | some parent =>
    let (made, d) := Disk.ensureDirs (parent.length + 1) d parent
    (made.mapError (.unusable parent), d)

/-- Opens a log's file, below directories that are made where they are missing. They stay when
the file cannot be opened. -/
def openLog (d : Disk) (path : String) : Except InstallFault FullPath × Disk :=
  match withDirectories d path with
  | (.error f, d) => (.error f, d)
  | (.ok (), d) =>
    match d.openForAppend path with
    | .error f => (.error (.unusable path f), d)
    | .ok (d, full) => (.ok full, d)

/-- Opens the log's file, if it has one, and then puts the log in place. -/
def place (st : Logging φ) (filter : φ) (s : LogSettings) : Installing φ :=
  match s.file with
  | none => ⟨.ok (), { st with installed := some ⟨filter, s.format, none⟩ }⟩
  | some path =>
    match openLog st.disk path with
    | (.error f, disk) => ⟨.error f, { st with disk }⟩
    | (.ok full, disk) => ⟨.ok (), ⟨disk, some ⟨filter, s.format, some full⟩⟩⟩

/-- Installs a log whose filter is read by `read`, which may have something to say against it. -/
def installBy (read : String → Except String φ) (st : Logging φ) (s : LogSettings) : Installing φ :=
  match read s.filter with
  | .error cause => ⟨.error (.invalidFilter ("'" ++ s.filter ++ "': " ++ cause)), st⟩
  | .ok filter =>
    match st.installed with
    | some _ => ⟨.error .alreadyInstalled, st⟩
    | none => st.place filter s

def install (st : LogState) (s : LogSettings) : Installing LogFilter := st.installBy LogFilter.read s

/-- Appends text to a file. -/
def append (d : Disk) (p : FullPath) (text : String) : Disk :=
  match d.file? p with
  | some (.bytes bs) => d.putFile p (.bytes (bs ++ text.toUTF8.toList))
  | _ => d

/-- Logs what the observers are told. -/
def observe (st : LogState) (notices : List Notice) : LogState :=
  match st.installed with
  | some ⟨filter, format, some file⟩ =>
    { st with disk := append st.disk file (String.join ((filter.lines [] notices).map (·.text format))) }
  | _ => st

end Logging
end TableKeeper
