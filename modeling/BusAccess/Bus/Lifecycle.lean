import BusAccess.Program
import BusAccess.Bus.Device

/-!
# The life of a bus

A bus is a backend's private state behind a table of operations.  It is unopened or has devices
open until it is released, and from then on it is gone: the table is taken out, so nothing can
reach the backend any more.

The bus counts the devices that are open on it, without knowing what a device is to the backend.
An operation that opens a device counts one up if it succeeds.  One that closes a device counts
one down whatever the backend says about it, except where the backend did not recognise the
handle.

The three kinds of bus differ in what can be asked of a backend, and share the rest.  What a kind
offers is an `Operations`; what a backend makes of it is a `Table`.

A backend keeps its state in a block of memory of its own, which it asks for when it makes a bus.
Without the block there is no bus, and whatever was set up for it is undone (`Bus.outOfMemory`).
-/

set_option autoImplicit false

namespace BusAccess

open Log (Event)

/-- What an operation does to the number of open devices. -/
inductive Role where
  | opens
  | closes
  | uses
  deriving DecidableEq, Repr

/-- What a kind of bus asks of its backends, beside being released. -/
structure Operations where
  /-- What can be asked. -/
  Call : Type
  /-- What each call is answered with. -/
  Answer : Call → Type
  /-- What a call is to the number of open devices. -/
  role : Call → Role

/-- A backend's operations on its private state `σ`, in surroundings `S`. -/
structure Table (K : Operations) (S : Interface) (σ : Type) where
  /-- Carries out a call. -/
  call : (c : K.Call) → Action S σ (K.Answer c)
  /-- Disconnects from the transport. -/
  release : Action S σ Unit

/-- Where a bus is in its life. -/
inductive BusState where
  | unopened
  | deviceOpen
  | released
  deriving DecidableEq, Repr

/-- The name by which a state is reported. -/
def BusState.name : BusState → String
  | unopened => "Unopened"
  | deviceOpen => "DeviceOpen"
  | released => "Released"

/-- A bus whose backend keeps a state `σ`. -/
structure Bus (σ : Type) where
  /-- The name of the backend that made the bus. -/
  backend : String
  /-- The backend's state, `none` once the bus is released. -/
  core : Option σ
  /-- How many devices are open. -/
  openDevices : Nat := 0
  deriving DecidableEq, Repr

/-- How an outcome changes the number of open devices. -/
def Role.count {α : Type} : Role → Except Error α → Nat → Nat
  | opens, .ok _, n => n + 1
  | closes, .error .invalidHandle, n => n
  | closes, .error .invalidObject, n => n
  | closes, _, n => n - 1
  | _, _, n => n

namespace Bus

variable {K : Operations} {S : Interface} {σ : Type}

/-- A new bus on a backend's state. -/
def new (backend : String) (core : σ) : Bus σ := { backend, core := some core }

/-- There is no memory for what the backend would keep, so there is no bus, and what was set up for
it is undone. -/
def outOfMemory (undo : Program S Unit) : Program S (Except Error (Bus σ)) :=
  .report (.error "object allocation failed") (undo.bind fun _ ↦ .done (.error .noMemory))

/-- Where the bus is in its life. -/
def state (b : Bus σ) : BusState :=
  match b.core with
  | none => .released
  | some _ => if b.openDevices = 0 then .unopened else .deviceOpen

/-- Puts a call to the backend and keeps count.  A released bus has no backend to call. -/
def call (t : Table K S σ) (c : K.Call) : Action S (Bus σ) (K.Answer c) := fun b ↦
  match b.core with
  | none => .done (.error .invalidObject, b)
  | some s => (t.call c s).bind fun (r, s') ↦
    .done (r, { b with core := some s', openDevices := (K.role c).count r b.openDevices })

/-- Takes the bus down.  It is released even if the backend fails to disconnect. -/
def release (t : Table K S σ) : Action S (Bus σ) Unit := fun b ↦
  match b.core with
  | none => .done (.error .invalidObject, b)
  | some s => (t.release s).bind fun (r, _) ↦
    .report (.debug "bus released") (.done (r, { b with core := none, openDevices := 0 }))

/-- Gives the bus up, which releases it unless that is already done. -/
def drop (t : Table K S σ) (b : Bus σ) : Program S Unit :=
  match b.core with
  | none => .done ()
  | some s => (t.release s).bind fun
    | (.ok _, _) => .done ()
    | (.error _, _) => .report (.warn "release on drop failed") (.done ())

end Bus

end BusAccess
