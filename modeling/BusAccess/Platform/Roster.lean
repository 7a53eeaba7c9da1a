import BusAccess.Registry

/-!
# Rosters

A roster is a registry together with the backends that it may hold.  A backend is known by its
place in the roster, so it stays the same one when its name changes, and may be on the roster
without being registered.
-/

set_option autoImplicit false

namespace BusAccess

/-- A backend: the name that it reports and how it makes buses. -/
structure Factory (M : Type) where
  /-- The name that the backend reports. -/
  name : String
  /-- How it makes buses. -/
  maker : M
  deriving DecidableEq, Repr

/-- What a backend tells of itself. -/
def Factory.describe (kind : Kind) (name : String) : String :=
  Text.describeRecord "BackendDescriptor"
    [("kind", Text.quoted kind.tag), ("name", Text.quoted name)] true

/-- The known backends of a kind of bus, and the registry of those that are registered. -/
structure Roster (M : Type) where
  /-- Every backend that there is. -/
  factories : List (Factory M) := []
  /-- Those that are registered, by their places among all. -/
  registry : Registry Nat := {}
  deriving DecidableEq, Repr

namespace Roster

variable {M β : Type} {S : Interface}

/-- The name that a backend reports at present. -/
def name (r : Roster M) (i : Nat) : String := (r.factories[i]?).elim "" Factory.name

/-- Puts a new backend on the roster, at the end, without registering it. -/
def enroll (f : Factory M) (r : Roster M) : Roster M := { r with factories := r.factories ++ [f] }

/-- Registers a backend that is on the roster. -/
def registerAt (i : Nat) : Action S (Roster M) Unit := fun r ↦
  (Registry.register r.name i r.registry).bind fun (result, registry) ↦
    .done (result, { r with registry })

/-- Puts a new backend on the roster and registers it. -/
def register (f : Factory M) : Action S (Roster M) Unit := do
  let r ← get
  set (r.enroll f)
  registerAt r.factories.length

/-- Changes the name that a backend reports. -/
def rename (i : Nat) (name : String) (r : Roster M) : Roster M :=
  { r with factories := r.factories.modify i fun f ↦ { f with name } }

/-- Changes what those get who name nothing. -/
def setPreferred (name : Option String) (r : Roster M) : Roster M :=
  { r with registry := { r.registry with preferred := name } }

/-- Makes a bus with a backend of the roster. -/
def createWith (create : Factory M → Program S (Except Error β)) (r : Roster M) (i : Nat) :
    Program S (Except Error β) :=
  match r.factories[i]? with
  | some f => create f
  | none => .done (.error .noDevice)

/-- Makes a bus with whichever backend the registry picks. -/
def createBus (create : Factory M → Program S (Except Error β)) (c : Connect) (r : Roster M) :
    Program S (Except Error β) :=
  Program.interpret (S := Registry.creation Nat β) (r.createWith create)
    (r.registry.createBus r.name c)

end Roster

end BusAccess
