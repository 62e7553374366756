import TableKeeper.Config.Layer
import TableKeeper.Disk
import TableKeeper.Toml.Document

/-!
  TableKeeper.Config.File — configuration files.

  1. A file is a TOML text whose keys make a layer over the defaults; keys that mean nothing
     here are passed over.
  2. The connection is a table, a list of exactly its two values, or a moment, which sets
     nothing. A binding is its name, or a table whose only key is that name with nothing in
     it.
  3. The default places are tried one after the other: the first file that can be used
     counts, one that cannot is passed over with a warning, and without any the defaults
     stay.
-/

namespace TableKeeper

open Toml

/-! ## From TOML to a layer -/

/-- A key that may be absent but, if present, must read. -/
def Toml.Entries.optional? {α : Type} (es : Entries) (name : String) (read? : Node → Option α) :
    Option (Option α) :=
  match es.get? name with
  | none => some none
  | some v => (read? v).map some

namespace Toml.Node

def text? : Node → Option String
  | text s => some s
  | _ => none

def boolean? : Node → Option Bool
  | boolean b => some b
  | _ => none

/-- A whole number of 64 bits without a sign. -/
def natural? : Node → Option UInt64
  | integer n => if 0 ≤ n ∧ n < 2 ^ 64 then some (.ofNat n.toNat) else none
  | _ => none

/-- A table or a list with nothing in it. -/
def isEmpty : Node → Bool
  | table _ [] => true
  | array [] => true
  | _ => false

def listBinding? : Node → Option ListBinding
  | text s => ListBinding.ofName? s
  | table _ [(name, v)] => if v.isEmpty then ListBinding.ofName? name else none
  | _ => none

/-- The settings of a connection; any of them may be left out of a table. -/
def connection? : Node → Option Layer
  | table _ es => do
    let busyTimeout ← Entries.optional? es "busy_timeout_ms" natural?
    let wal ← Entries.optional? es "wal" boolean?
    return { busyTimeout, wal }
  | array [busyTimeout, wal] => do
    return { busyTimeout := some (← busyTimeout.natural?), wal := some (← wal.boolean?) }
  | moment => some {}
  | _ => none

end Toml.Node

namespace Layer

def ofEntries? (es : Entries) : Option Layer := do
  let database ← es.optional? "database" Node.text?
  let baseDir ← es.optional? "base_dir" Node.text?
  let listBinding ← es.optional? "list_binding" Node.listBinding?
  let connection ← es.optional? "connection" Node.connection?
  return { connection.getD {} with database, baseDir, listBinding }

/-- The layer that a TOML text makes. -/
def ofToml? (text : String) : Option Layer := (Entries.ofText? text).bind ofEntries?

end Layer

/-! ## Files -/

/-- Why a configuration cannot be used. -/
inductive ConfigFault where
  | unreadable (path : String) (fault : FileFault)
  | malformed
  deriving DecidableEq, Repr

def ConfigFault.error : ConfigFault → Error
  | unreadable path fault => .config (path ++ ": " ++ fault.message)
  | malformed => .config "not a TOML text with the settings of a store"

namespace StoreConfig

def ofToml (text : String) : Except ConfigFault StoreConfig :=
  match Layer.ofToml? text with
  | some l => .ok (l.onto {})
  | none => .error .malformed

def load (d : Disk) (path : String) : Except ConfigFault StoreConfig :=
  match d.readText path with
  | .ok text => ofToml text
  | .error f => .error (.unreadable path f)

/-- The first file that can be used, if there is one. -/
def loadFirst (d : Disk) : List String → Option StoreConfig × List Notice
  | [] => (none, [])
  | p :: rest =>
    if !d.pathExists p then loadFirst d rest
    else
      match load d p with
      | .ok c => (some c, [])
      | .error f =>
        let (c, notices) := loadFirst d rest
        (c, .warn .configuration "ignoring unreadable config"
          [("path", .text p), ("error", .text f.error.message)] :: notices)

/-- Below the platform's directory for configurations, and below the home directory. Without a home
directory there is neither. -/
def defaultPlaces (configHome : String) (home : Option String) : List String :=
  match home with
  | none => []
  | some home => [configHome, Path.join home ".config"].map fun dir => Path.join (Path.join dir "litestore") "config.toml"

def loadDefault (d : Disk) (configHome : String) (home : Option String) : StoreConfig × List Notice :=
  let (c, notices) := loadFirst d (defaultPlaces configHome home)
  (c.getD {}, notices)

end StoreConfig
end TableKeeper
