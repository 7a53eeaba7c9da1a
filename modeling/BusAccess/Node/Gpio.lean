import BusAccess.Bus.Gpio
import BusAccess.Node.Kernel
import BusAccess.Node.Location

/-!
# GPIO through attribute files

A pin is claimed by writing its number to `export` and given back by writing it to `unexport`.
Both writes may fail without harm: the pin may be claimed already, or gone.  While it is claimed,
the pin has a directory of its own with its direction and its value.

The files know no pull resistors, so the two modes that ask for one are plain inputs.
-/

set_option autoImplicit false

namespace BusAccess.Node.Gpio

open Log (Event)
open BusAccess.Gpio (PinMode PinValue)

/-- What the backend keeps for a controller. -/
structure Core where
  /-- The directory of pins. -/
  directory : String
  /-- The pins that are open and the modes they were opened with. -/
  pins : List (UInt32 × PinMode) := []
  deriving DecidableEq, Repr

/-- A short text as the bytes of a file. -/
def fileBytes (s : String) : Bytes := s.toUTF8.toList

/-- The directory of a pin. -/
def pinDirectory (directory : String) (pin : UInt32) : String :=
  inDirectory directory ("gpio" ++ toString pin.toNat)

/-- Writes a pin's number to a control file; a failure is reported and ignored. -/
def control (file : String) (pin : UInt32) : Action interface Core Unit := do
  let core ← get
  let path := inDirectory core.directory file
  if !(← ask (.writeFile path (fileBytes (toString pin.toNat)))) then
    Action.report (.debug "sysfs write ignored")

/-- Writes an attribute of a pin. -/
def writeAttribute (pin : UInt32) (file value : String) : Action interface Core Unit := do
  let core ← get
  let path := inDirectory (pinDirectory core.directory pin) file
  if !(← ask (.writeFile path (fileBytes value))) then
    Action.report (.error "sysfs gpio write failed")
    throw .ioError

/-- The open pin that a handle names, with its mode. -/
def pinOf (device : DeviceHandle) : Action interface Core (UInt32 × PinMode) := do
  let core ← get
  Action.demand (device.unsigned?.bind fun pin ↦ core.pins.find? fun p ↦ p.1 == pin) .invalidHandle

/-- The direction of a mode; a mode that asks for more is reported. -/
def direction : PinMode → Action interface Core String
  | .output => pure "out"
  | .input => pure "in"
  | .inputPullUp | .inputPullDown => do
    Action.report (.warn "sysfs gpio has no pull control, using plain input")
    return "in"

/-- Claims a pin and sets its direction. -/
def openPin (pin : UInt32) (mode : PinMode) : Action interface Core DeviceHandle := do
  let device ← Action.demand (DeviceHandle.ofUnsigned? pin) .invalidArgument
  let core ← get
  if core.pins.any fun p ↦ p.1 == pin then throw .busy
  control "export" pin
  let value ← direction mode
  match ← Action.attempt (writeAttribute pin "direction" value) with
  | .ok _ =>
    set { core with pins := core.pins ++ [(pin, mode)] }
    return device
  | .error e =>
    control "unexport" pin
    throw e

/-- The value of a pin, which the first character of its file tells. -/
def read (device : DeviceHandle) : Action interface Core PinValue := do
  let (pin, _) ← pinOf device
  let core ← get
  match ← ask (.readFile (inDirectory (pinDirectory core.directory pin) "value")) with
  | some content => return .ofBool (content.head? == some 0x31)
  | none =>
    Action.report (.debug "gpio read failed")
    throw .ioError

/-- Sets the value of a pin that is an output. -/
def write (device : DeviceHandle) (value : PinValue) : Action interface Core Unit := do
  let (pin, mode) ← pinOf device
  if mode.isOutput then writeAttribute pin "value" (if value.toBool then "1" else "0")
  else throw .invalidArgument

/-- Gives a pin back. -/
def close (device : DeviceHandle) : Action interface Core Unit := do
  let (pin, _) ← pinOf device
  modify fun core ↦ { core with pins := core.pins.filter fun p ↦ p.1 != pin }
  control "unexport" pin

/-- Gives back what is still open. -/
def release : Action interface Core Unit := do
  let core ← get
  set { core with pins := [] }
  let pins ← walk core.pins
  pins.forM fun p ↦ control "unexport" p.1

/-- The operations of the backend.  It cannot choose a drive strength. -/
def table : Table BusAccess.Gpio.operations interface Core where
  call
    | .openPin pin mode => openPin pin mode
    | .read device => read device
    | .write device value => write device value
    | .close device => close device
    | .setDriveStrength _ _ => throw .invalidObject
  release := release

/-- Makes a controller, if the machine shows its pins and there is memory.  All controllers share one
directory, so a bus number only has to be well formed. -/
def create (r : Roots) (params : BusAccess.Gpio.Params) :
    Program interface (Except Error (Bus Core)) :=
  match parse params.uri with
  | .error e => .done (.error e)
  | .ok _ =>
    .ask (.present (inDirectory r.gpio "export")) fun
      | true => withMemory (.done (.ok (.new name { directory := r.gpio })))
      | false => .report (.debug "no sysfs gpio interface") (.done (.error .noDevice))

end BusAccess.Node.Gpio
