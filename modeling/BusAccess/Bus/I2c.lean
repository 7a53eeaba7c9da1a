import BusAccess.Bus.Lifecycle
import BusAccess.Bus.Params

/-!
# I2C buses

A device on an I2C bus is opened by its address, and read and written in bursts.  A backend need
not be able to change the clock or to stretch it; one that is not lacks the operation.
-/

set_option autoImplicit false

namespace BusAccess.I2c

/-- The default clock, 400 kHz. -/
def defaultFreq : UInt32 := 400000

/-- What is asked of a backend. -/
inductive Call where
  | openAt (address : UInt16)
  /-- Fills a buffer of the given length. -/
  | read (device : DeviceHandle) (length : Nat)
  | write (device : DeviceHandle) (data : Bytes)
  | close (device : DeviceHandle)
  | setFreq (hz : UInt32)
  | setClockStretch (enable : Bool)
  deriving DecidableEq, Repr

/-- What a call is answered with when it succeeds. -/
abbrev Call.Answer : Call → Type
  | openAt _ => DeviceHandle
  | read _ _ => Received
  | write _ _ => Nat
  | close _ => Unit
  | setFreq _ => Unit
  | setClockStretch _ => Unit

/-- What a call does to the number of open devices. -/
def Call.role : Call → Role
  | openAt _ => .opens
  | close _ => .closes
  | _ => .uses

/-- What an I2C bus can do. -/
def operations : Operations := ⟨Call, Call.Answer, Call.role⟩

/-! ## Parameters -/

/-- What to connect to. -/
structure Params where
  /-- The connection string, which selects a backend by its scheme. -/
  uri : Option String := none
  /-- The name of a backend. -/
  backend : Option String := none
  /-- The bus number; each backend has a default of its own. -/
  busnum : Option UInt32 := none
  /-- The clock in hertz. -/
  freq : UInt32 := defaultFreq
  deriving DecidableEq, Repr

namespace Params

/-- What decides which backend is asked. -/
def connect (p : Params) : Connect := ⟨p.uri, p.backend⟩

/-- The parameters by the names they have in documents. -/
def fields (lib : Json.Library := .native) : List (Json.Field Params) :=
  [.of "uri" (lib.option lib.text) uri fun v p ↦ { p with uri := v },
    .of "backend" (lib.option lib.text) backend fun v p ↦ { p with backend := v },
    .of "busnum" (lib.option lib.uint32) busnum fun v p ↦ { p with busnum := v },
    .of "freq" lib.uint32 freq fun v p ↦ { p with freq := v }]

/-- How parameters are written in documents. -/
def codec (lib : Json.Library := .native) : Json.Codec Params := lib.record (fields lib) {}

/-- The parameters with a connection string. -/
def withUri (p : Params) (uri : String) : Params := { p with uri := some uri }

/-- The parameters with the name of a backend. -/
def withBackend (p : Params) (backend : String) : Params := { p with backend := some backend }

/-- The parameters with a bus number. -/
def withBusnum (p : Params) (busnum : UInt32) : Params := { p with busnum := some busnum }

end Params

end BusAccess.I2c
