import BusAccess.Bus.Lifecycle
import BusAccess.Bus.Params

/-!
# GPIO controllers

A pin is opened in a mode, and then read or written.  A backend need not be able to choose how
strongly a pin is driven.
-/

set_option autoImplicit false

namespace BusAccess.Gpio

/-- The state of a pin. -/
inductive PinValue where
  | low
  | high
  deriving DecidableEq, Repr

namespace PinValue

/-- Both states. -/
def all : List PinValue := [low, high]

/-- The name of a state in documents. -/
def name : PinValue → String
  | low => "Low"
  | high => "High"

/-- High for `true`. -/
def ofBool (b : Bool) : PinValue := if b then high else low

/-- Whether the pin is high. -/
def toBool : PinValue → Bool
  | low => false
  | high => true

/-- A state is written as its name. -/
def codec (lib : Json.Library := .native) : Json.Codec PinValue := lib.named all name

end PinValue

/-- What a pin is used for. -/
inductive PinMode where
  | input
  | output
  | inputPullUp
  | inputPullDown
  deriving DecidableEq, Repr

namespace PinMode

/-- Every mode. -/
def all : List PinMode := [input, output, inputPullUp, inputPullDown]

/-- The mode of a pin about which nothing is said. -/
def default : PinMode := input

/-- The name of a mode in documents. -/
def name : PinMode → String
  | input => "Input"
  | output => "Output"
  | inputPullUp => "InputPullUp"
  | inputPullDown => "InputPullDown"

/-- Whether the pin can be written. -/
def isOutput : PinMode → Bool
  | output => true
  | _ => false

/-- A mode is written as its name. -/
def codec (lib : Json.Library := .native) : Json.Codec PinMode := lib.named all name

end PinMode

/-- How strongly a pin is driven. -/
inductive DriveStrength where
  | standard
  | low
  | medium
  | high
  deriving DecidableEq, Repr

namespace DriveStrength

/-- Every strength. -/
def all : List DriveStrength := [standard, low, medium, high]

/-- The strength about which nothing is said. -/
def default : DriveStrength := standard

/-- The name of a strength in documents. -/
def name : DriveStrength → String
  | standard => "Default"
  | low => "Low"
  | medium => "Medium"
  | high => "High"

/-- A strength is written as its name. -/
def codec (lib : Json.Library := .native) : Json.Codec DriveStrength := lib.named all name

end DriveStrength

/-! ## Operations -/

/-- What is asked of a backend. -/
inductive Call where
  | openPin (pin : UInt32) (mode : PinMode)
  | read (device : DeviceHandle)
  | write (device : DeviceHandle) (value : PinValue)
  | close (device : DeviceHandle)
  | setDriveStrength (device : DeviceHandle) (drive : DriveStrength)
  deriving DecidableEq, Repr

/-- What a call is answered with when it succeeds. -/
abbrev Call.Answer : Call → Type
  | openPin _ _ => DeviceHandle
  | read _ => PinValue
  | write _ _ => Unit
  | close _ => Unit
  | setDriveStrength _ _ => Unit

/-- What a call does to the number of open devices. -/
def Call.role : Call → Role
  | openPin _ _ => .opens
  | close _ => .closes
  | _ => .uses

/-- What a GPIO controller can do. -/
def operations : Operations := ⟨Call, Call.Answer, Call.role⟩

/-! ## Parameters -/

/-- What to connect to. -/
structure Params where
  /-- The connection string, which selects a backend by its scheme. -/
  uri : Option String := none
  /-- The name of a backend. -/
  backend : Option String := none
  /-- The controller's number, where there are several. -/
  chip : Option UInt32 := none
  deriving DecidableEq, Repr

namespace Params

/-- What decides which backend is asked. -/
def connect (p : Params) : Connect := ⟨p.uri, p.backend⟩

/-- The parameters by the names they have in documents. -/
def fields (lib : Json.Library := .native) : List (Json.Field Params) :=
  [.of "uri" (lib.option lib.text) uri fun v p ↦ { p with uri := v },
    .of "backend" (lib.option lib.text) backend fun v p ↦ { p with backend := v },
    .of "chip" (lib.option lib.uint32) chip fun v p ↦ { p with chip := v }]

/-- How parameters are written in documents. -/
def codec (lib : Json.Library := .native) : Json.Codec Params := lib.record (fields lib) {}

/-- The parameters with a connection string. -/
def withUri (p : Params) (uri : String) : Params := { p with uri := some uri }

/-- The parameters with the name of a backend. -/
def withBackend (p : Params) (backend : String) : Params := { p with backend := some backend }

end Params

end BusAccess.Gpio
