import BusAccess.Bus.Spi
import BusAccess.Node.Kernel
import BusAccess.Node.Location

/-!
# SPI through device nodes

Chip select `c` of bus `b` is the node `spidevb.c`, and a bus is there if some node's name starts
with `spidevb.`.  The bus keeps one mode and one speed, which are set on every device that is opened
and, when they change, on those that are open already.

The new mode or speed is stored first and then set on the devices, in any order, until one refuses.
A device that refuses leaves the bus with the new value and some of the devices with the old one.
-/

set_option autoImplicit false

namespace BusAccess.Node.Spi

open Log (Event)

/-- What the backend keeps for a bus. -/
structure Core where
  /-- The bus, which is the first number in the names of its nodes. -/
  busnum : UInt32
  /-- The directory of the nodes. -/
  directory : String
  /-- The clock in hertz. -/
  speed : UInt32
  /-- The polarity and the phase of the clock. -/
  mode : BusAccess.Spi.Mode
  /-- The devices that are open, by their descriptors in ascending order. -/
  devices : List DeviceHandle := []
  deriving DecidableEq, Repr

/-- How the names of the nodes of a bus start. -/
def nodeStem (busnum : UInt32) : String := "spidev" ++ toString busnum.toNat ++ "."

/-- The node of a device. -/
def nodePath (directory : String) (busnum chipSelect : UInt32) : String :=
  inDirectory directory (nodeStem busnum ++ toString chipSelect.toNat)

/-- Whether a name starts like those of the nodes of a bus. -/
def isNodeOf (busnum : UInt32) (file : String) : Bool :=
  (nodeStem busnum).toList.isPrefixOf file.toList

/-- Puts a handle in its place, unless it is there already. -/
def insertDevice (d : DeviceHandle) : List DeviceHandle → List DeviceHandle
  | [] => [d]
  | e :: es =>
    if d.raw < e.raw then d :: e :: es else if d = e then e :: es else e :: insertDevice d es

/-- Demands that a device is open. -/
def expectOpen (device : DeviceHandle) : Action interface Core Unit := do
  let core ← get
  if core.devices.contains device then return () else throw .invalidHandle

/-- Sets mode and speed on a descriptor. -/
def configure (fd : Descriptor) (speed : UInt32) (mode : BusAccess.Spi.Mode) :
    Action interface Core Unit := do
  if !(← ask (.setMode fd mode.bits)) then
    Action.report (.error "ioctl SPI_IOC_WR_MODE failed")
    throw .ioError
  if !(← ask (.setMaxSpeed fd speed)) then
    Action.report (.error "ioctl SPI_IOC_WR_MAX_SPEED_HZ failed")
    throw .ioError

/-- Opens the device behind a chip select. -/
def openAt (chipSelect : UInt32) : Action interface Core DeviceHandle := do
  let core ← get
  match ← ask (.openNode (nodePath core.directory core.busnum chipSelect)) with
  | none =>
    Action.report (.error "can't open spi device")
    throw .noDevice
  | some fd =>
    match ← Action.attempt (configure fd core.speed core.mode) with
    | .ok _ =>
      set { core with devices := insertDevice ⟨fd⟩ core.devices }
      return ⟨fd⟩
    | .error e =>
      ask (.close fd)
      throw e

/-- The length of an exchange: that of what is sent, or else that of the receive buffer. -/
def exchangeLength (tx : Option Bytes) (rx : Option Nat) : Option Nat :=
  match tx with
  | some data => some data.length
  | none => rx

/-- Exchanges bytes with a device.  An empty exchange does not reach the kernel. -/
def transfer (device : DeviceHandle) (tx : Option Bytes) (rx : Option Nat) :
    Action interface Core Received := do
  expectOpen device
  let core ← get
  let length ← Action.demand (exchangeLength tx rx) .invalidArgument
  if length = 0 then return ⟨0, []⟩
  else if UInt32.size ≤ length then throw .invalidArgument
  else
    match ← ask (.exchange device.raw
        { tx, rx, length := UInt32.ofNat length, speedHz := core.speed }) with
    | some exchanged => return ⟨exchanged.result.toNat, exchanged.rx⟩
    | none =>
      Action.report (.debug "spi transfer failed")
      throw .ioError

/-- Closes a device. -/
def close (device : DeviceHandle) : Action interface Core Unit := do
  expectOpen device
  modify fun core ↦ { core with devices := core.devices.erase device }
  ask (.close device.raw)

/-- Changes the speed. -/
def setSpeed (hz : UInt32) : Action interface Core Unit := do
  if hz = 0 then throw .invalidArgument
  modify fun core ↦ { core with speed := hz }
  let core ← get
  let devices ← walk core.devices
  devices.forM fun d ↦ configure d.raw hz core.mode

/-- Changes the mode. -/
def setMode (mode : BusAccess.Spi.Mode) : Action interface Core Unit := do
  modify fun core ↦ { core with mode := mode }
  let core ← get
  let devices ← walk core.devices
  devices.forM fun d ↦ do
    match ← Action.attempt (configure d.raw core.speed mode) with
    | .ok _ => return ()
    | .error e =>
      Action.report (.warn "failed to apply spi mode to open device")
      throw e

/-- Closes what is still open. -/
def release : Action interface Core Unit := do
  let core ← get
  set { core with devices := [] }
  let devices ← walk core.devices
  devices.forM fun d ↦ ask (.close d.raw)

/-- The operations of the backend. -/
def table : Table BusAccess.Spi.operations interface Core where
  call
    | .openAt chipSelect => openAt chipSelect
    | .transfer device tx rx => transfer device tx rx
    | .close device => close device
    | .setSpeed hz => setSpeed hz
    | .setMode mode => setMode mode
  release := release

/-- Makes a bus, if it has nodes and there is memory. -/
def create (r : Roots) (params : BusAccess.Spi.Params) :
    Program interface (Except Error (Bus Core)) :=
  match chooseBus params.uri params.busnum with
  | .error e => .done (.error e)
  | .ok busnum =>
    .ask (.list r.dev) fun files ↦
      if (files.getD []).any (isNodeOf busnum) then
        let core : Core :=
          { busnum, directory := r.dev, speed := params.speed, mode := params.mode }
        withMemory (.report (.debug "linuxdev spi bus created") (.done (.ok (.new name core))))
      else .report (.debug "no spidev nodes") (.done (.error .noDevice))

end BusAccess.Node.Spi
