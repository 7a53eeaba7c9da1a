import BusAccess.Bus.Lifecycle
import BusAccess.Bus.Params

/-!
# SPI buses

A device on an SPI bus is opened by its chip select.  All traffic is an exchange: as many bytes
come in as go out.  Reading sends nothing in particular and writing discards what comes in, so
both are exchanges with one buffer missing.

An exchange with both buffers needs them to be equally long, which is checked before anything
else, also before whether the bus is released.
-/

set_option autoImplicit false

namespace BusAccess.Spi

/-- The default clock, 1 MHz. -/
def defaultSpeed : UInt32 := 1000000

/-- Polarity and phase of the clock. -/
inductive Mode where
  /-- Idle low, sampled on the first edge. -/
  | mode0
  /-- Idle low, sampled on the second edge. -/
  | mode1
  /-- Idle high, sampled on the first edge. -/
  | mode2
  /-- Idle high, sampled on the second edge. -/
  | mode3
  deriving DecidableEq, Repr

namespace Mode

/-- Every mode. -/
def all : List Mode := [mode0, mode1, mode2, mode3]

/-- The name of a mode in documents. -/
def name : Mode → String
  | mode0 => "Mode0"
  | mode1 => "Mode1"
  | mode2 => "Mode2"
  | mode3 => "Mode3"

/-- Polarity in bit 1, phase in bit 0. -/
def bits : Mode → UInt8
  | mode0 => 0
  | mode1 => 1
  | mode2 => 2
  | mode3 => 3

/-- A mode is written as its name. -/
def codec (lib : Json.Library := .native) : Json.Codec Mode := lib.named all name

end Mode

/-! ## Operations -/

/-- What is asked of a backend.  An exchange has at least one of its buffers, and buffers of equal
length if it has both. -/
inductive Call where
  | openAt (chipSelect : UInt32)
  /-- Sends `tx` if there is one, and fills a buffer of length `rx` if there is one. -/
  | transfer (device : DeviceHandle) (tx : Option Bytes) (rx : Option Nat)
  | close (device : DeviceHandle)
  | setSpeed (hz : UInt32)
  | setMode (mode : Mode)
  deriving DecidableEq, Repr

/-- What a call is answered with when it succeeds. -/
abbrev Call.Answer : Call → Type
  | openAt _ => DeviceHandle
  | transfer _ _ _ => Received
  | close _ => Unit
  | setSpeed _ => Unit
  | setMode _ => Unit

/-- What a call does to the number of open devices. -/
def Call.role : Call → Role
  | openAt _ => .opens
  | close _ => .closes
  | _ => .uses

/-- What an SPI bus asks of its backends. -/
def operations : Operations := ⟨Call, Call.Answer, Call.role⟩

section Bus

variable {S : Interface} {σ : Type}

/-- Sends `tx` while as many bytes come in. -/
def transfer (t : Table operations S σ) (device : DeviceHandle) (tx : Bytes) (rx : Nat) :
    Action S (Bus σ) Received :=
  if tx.length = rx then Bus.call t (.transfer device (some tx) (some rx))
  else throw .invalidArgument

/-- Fills a buffer, sending nothing in particular. -/
def read (t : Table operations S σ) (device : DeviceHandle) (length : Nat) :
    Action S (Bus σ) Received :=
  Bus.call t (.transfer device none (some length))

/-- Sends bytes and discards what comes in. -/
def write (t : Table operations S σ) (device : DeviceHandle) (data : Bytes) :
    Action S (Bus σ) Received :=
  Bus.call t (.transfer device (some data) none)

end Bus

/-! ## Parameters -/

/-- What to connect to. -/
structure Params where
  /-- The connection string, which selects a backend by its scheme. -/
  uri : Option String := none
  /-- The name of a backend. -/
  backend : Option String := none
  /-- The bus number; each backend has a default of its own. -/
  busnum : Option UInt32 := none
  /-- The clock in hertz. -/
  speed : UInt32 := defaultSpeed
  /-- The polarity and the phase of the clock. -/
  mode : Mode := .mode0
  deriving DecidableEq, Repr

namespace Params

/-- What decides which backend is asked. -/
def connect (p : Params) : Connect := ⟨p.uri, p.backend⟩

/-- The parameters by the names they have in documents. -/
def fields (lib : Json.Library := .native) : List (Json.Field Params) :=
  [.of "uri" (lib.option lib.text) uri fun v p ↦ { p with uri := v },
    .of "backend" (lib.option lib.text) backend fun v p ↦ { p with backend := v },
    .of "busnum" (lib.option lib.uint32) busnum fun v p ↦ { p with busnum := v },
    .of "speed" lib.uint32 speed fun v p ↦ { p with speed := v },
    .of "mode" (Mode.codec lib) mode fun v p ↦ { p with mode := v }]

/-- How parameters are written in documents. -/
def codec (lib : Json.Library := .native) : Json.Codec Params := lib.record (fields lib) {}

/-- The parameters with a connection string. -/
def withUri (p : Params) (uri : String) : Params := { p with uri := some uri }

/-- The parameters with the name of a backend. -/
def withBackend (p : Params) (backend : String) : Params := { p with backend := some backend }

/-- The parameters with a bus number. -/
def withBusnum (p : Params) (busnum : UInt32) : Params := { p with busnum := some busnum }

end Params

end BusAccess.Spi
