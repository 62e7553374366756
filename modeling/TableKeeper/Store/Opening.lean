import TableKeeper.Client
import TableKeeper.Store.Operations

/-!
  TableKeeper.Store.Opening — from a descriptor or a configuration to a store.

  1. The descriptor is read first, then its path is resolved, which may take a home directory
     that there is not, then the database is opened; the first of these that fails is the error.
  2. A configuration without a database opens nothing.
-/

namespace TableKeeper

/-- A store and the client that it drives. -/
structure OpenStore where
  store : Store
  client : Client

/-- What came of opening a store: none is a panic. -/
structure StoreOpening where
  result : Option (Except Error OpenStore)
  notices : List Notice := []

namespace Store

def refused (e : Error) : StoreOpening := { result := some (.error e) }

def openedWith (table : String) (binding : ListBinding) (o : Client.Opening) : StoreOpening :=
  { result := o.result.map fun r => r.map fun c => ⟨⟨table, binding⟩, c⟩, notices := o.notices }

/-- Opens the database that a descriptor points at. -/
def openAt (disk : Disk) (home : Option String) (base : String) (d : Descriptor) (settings : ConnectionSettings)
    (binding : ListBinding) : StoreOpening :=
  match d.locate home base with
  | .error f => refused f.error
  | .ok .memory => openedWith d.table binding (Client.connectMemory disk settings)
  | .ok (.file path) => openedWith d.table binding (Client.connect disk path settings)

/-- Opens by the text of a descriptor, below a base directory. -/
def openText (disk : Disk) (home : Option String) (base text : String) (settings : ConnectionSettings)
    (binding : ListBinding) : StoreOpening :=
  match Descriptor.parse text with
  | .error f => refused f.error
  | .ok d => openAt disk home base d settings binding

/-- Opens with default settings below the working directory. -/
def connect (disk : Disk) (home : Option String) (text : String) : StoreOpening :=
  openText disk home "." text {} .bound

def openConfigured (disk : Disk) (home : Option String) (c : StoreConfig) : StoreOpening :=
  match c.database with
  | none => refused (.invalidInput "no database configured")
  | some text => openText disk home c.baseDir text c.connection c.listBinding

end Store
end TableKeeper
