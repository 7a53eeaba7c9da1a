import BusAccess.Bus.I2c
import BusAccess.Node.Kernel
import BusAccess.Node.Location

/-!
# I2C through device nodes

Bus `n` is the node `i2c-n`.  Opening a device opens the node once more and sets the address on the
new descriptor, which then is the handle.  The backend keeps the descriptors that are open, and a
handle that is not among them reaches nothing.
-/

set_option autoImplicit false

namespace BusAccess.Node.I2c

open Log (Event)

/-- What the backend keeps for a bus. -/
structure Core where
  /-- The node of the bus. -/
  path : String
  /-- The devices that are open, by their descriptors. -/
  devices : List DeviceHandle := []
  deriving DecidableEq, Repr

/-- The node of a bus. -/
def nodePath (r : Roots) (busnum : UInt32) : String :=
  inDirectory r.dev ("i2c-" ++ toString busnum.toNat)

/-- The largest address of seven bits. -/
def maxAddress : UInt16 := 0x7f

/-- Demands that a device is open. -/
def expectOpen (device : DeviceHandle) : Action interface Core Unit := do
  let core ← get
  if core.devices.contains device then return () else throw .invalidHandle

/-- Opens the device at an address. -/
def openAt (address : UInt16) : Action interface Core DeviceHandle := do
  if maxAddress < address then throw .invalidArgument
  let core ← get
  match ← ask (.openNode core.path) with
  | none =>
    Action.report (.error "can't open i2c device")
    throw .noDevice
  | some fd =>
    if ← ask (.setSlave fd address) then
      set { core with devices := core.devices.insert ⟨fd⟩ }
      return ⟨fd⟩
    else
      Action.report (.error "ioctl I2C_SLAVE failed")
      ask (.close fd)
      throw .ioError

/-- Fills a buffer from a device. -/
def read (device : DeviceHandle) (length : Nat) : Action interface Core Received := do
  expectOpen device
  match ← ask (.read device.raw length) with
  | some received => return received
  | none =>
    Action.report (.debug "i2c read failed")
    throw .ioError

/-- Sends bytes to a device. -/
def write (device : DeviceHandle) (data : Bytes) : Action interface Core Nat := do
  expectOpen device
  match ← ask (.write device.raw data) with
  | some count => return count
  | none =>
    Action.report (.debug "i2c write failed")
    throw .ioError

/-- Closes a device. -/
def close (device : DeviceHandle) : Action interface Core Unit := do
  expectOpen device
  modify fun core ↦ { core with devices := core.devices.erase device }
  ask (.close device.raw)

/-- Closes what is still open. -/
def release : Action interface Core Unit := do
  let core ← get
  set { core with devices := [] }
  let devices ← walk core.devices
  devices.forM fun d ↦ ask (.close d.raw)

/-- The operations of the backend.  It can neither change the clock nor stretch it. -/
def table : Table BusAccess.I2c.operations interface Core where
  call
    | .openAt address => openAt address
    | .read device length => read device length
    | .write device data => write device data
    | .close device => close device
    | .setFreq _ => throw .invalidObject
    | .setClockStretch _ => throw .invalidObject
  release := release

/-- Makes a bus, if its node exists and there is memory. -/
def create (r : Roots) (params : BusAccess.I2c.Params) :
    Program interface (Except Error (Bus Core)) :=
  match chooseBus params.uri params.busnum with
  | .error e => .done (.error e)
  | .ok busnum =>
    let path := nodePath r busnum
    .ask (.present path) fun
      | true =>
        withMemory (.report (.debug "linuxdev i2c bus created") (.done (.ok (.new name { path }))))
      | false => .report (.debug "no i2c device node") (.done (.error .noDevice))

end BusAccess.Node.I2c
