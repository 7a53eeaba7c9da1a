import BusAccess.Adapter.Identity
import BusAccess.Bus.I2c

/-!
# I2C through a USB adapter

An MPSSE adapter works the bus step by step: a start condition, bytes with their acknowledges, a
stop condition.  Everything between a start and its stop is a *frame*.  A frame begins with the
address of the device, whose lowest bit says whether bytes are to be read or written, and the
stop is sent whatever happened in the frame.

At the end of a read the adapter stops acknowledging and takes in one more byte, so that the device
lets go of the bus, and then goes back to acknowledging.

The handle of a device is its address as it is written on the wire.  There is no table of open
devices: every even number of eight bits is taken for a handle.
-/

set_option autoImplicit false

namespace BusAccess.Adapter

open Log (Event)

/-! ## What is asked -/

/-- What is asked of the adapter and its library, and of the allocator of the process. -/
inductive Request where
  /-- Opens an adapter with a clock in hertz. -/
  | openAdapter (identity : Identity) (freq : UInt32) (msbFirst : Bool)
  | start
  | stop
  | write (data : Bytes)
  /-- Whether the last byte written was acknowledged. -/
  | getAck
  | read (length : Nat)
  /-- Acknowledge bytes from now on. -/
  | sendAcks
  /-- Stop acknowledging bytes. -/
  | sendNacks
  | setClock (hz : UInt32)
  | close
  /-- A block of memory for what the backend keeps. -/
  | reserve
  deriving DecidableEq, Repr

/-- What a request is answered with. -/
abbrev Request.Reply : Request → Type
  | openAdapter _ _ _ => Except Error Unit
  | start => Except Error Unit
  | stop => Except Error Unit
  | write _ => Except Error Unit
  | getAck => Bool
  | read _ => Except Error Bytes
  | sendAcks => Unit
  | sendNacks => Unit
  | setClock _ => Except Error Unit
  | close => Unit
  | reserve => Bool

/-- What can be asked, and the answers. -/
abbrev interface : Interface := ⟨Request, Request.Reply⟩

/-! ## The bus -/

/-- What the backend keeps for a bus. -/
structure Core where
  /-- The clock in hertz. -/
  clock : UInt32
  deriving DecidableEq, Repr

/-- The reply to a request. -/
abbrev ask (q : Request) : Action interface Core q.Reply := Action.ask (S := interface) q

/-- The largest address of seven bits. -/
def maxAddress : UInt16 := 0x7f

/-- The address on the wire that a handle stands for, with the lowest bit clear. -/
def wireAddress? (device : DeviceHandle) : Option UInt8 :=
  let n := device.raw.toInt
  if 0 ≤ n ∧ n < 256 ∧ n % 2 = 0 then some (UInt8.ofNat n.toNat) else none

/-- Does something between a start and a stop condition. -/
def framed {α : Type} (body : Action interface Core α) : Action interface Core α := do
  Action.require (← ask .start) .backendFailure
  let result ← Action.attempt body
  match ← ask .stop with
  | .ok _ => pure ()
  | .error _ => Action.report (.debug "mpsse stop condition failed")
  Action.ofExcept result

/-- Demands that the last byte written was acknowledged. -/
def expectAck : Action interface Core Unit := do
  if ← ask .getAck then return () else throw .communicationError

/-- Writes an address, which some device has to acknowledge. -/
def sendAddress (address : UInt8) : Action interface Core Unit := do
  Action.require (← ask (.write [address])) .backendFailure
  expectAck

/-- Opens the device at an address, which takes no traffic. -/
def openAt (address : UInt16) : Action interface Core DeviceHandle :=
  if maxAddress < address then throw .invalidArgument
  else pure ⟨Int32.ofNat (2 * address.toNat)⟩

/-- The bytes of a read, with the acknowledges that end it. -/
def readBytes (length : Nat) : Action interface Core Received := do
  let result ← ask (.read length)
  ask .sendNacks
  let _ ← ask (.read 1)
  ask .sendAcks
  let buffer ← Action.require result .communicationError
  return ⟨length, buffer⟩

/-- Fills a buffer from a device. -/
def read (device : DeviceHandle) (length : Nat) : Action interface Core Received := do
  let address ← Action.demand (wireAddress? device) .invalidHandle
  framed do
    sendAddress (address ||| 1)
    readBytes length

/-- The bytes of a write; without any, the address was all. -/
def writeBytes (data : Bytes) : Action interface Core Nat := do
  if data.isEmpty then return 0
  else
    Action.require (← ask (.write data)) .communicationError
    expectAck
    return data.length

/-- Sends bytes to a device. -/
def write (device : DeviceHandle) (data : Bytes) : Action interface Core Nat := do
  let address ← Action.demand (wireAddress? device) .invalidHandle
  framed do
    sendAddress address
    writeBytes data

/-- Closes a device, which takes no traffic either. -/
def close (device : DeviceHandle) : Action interface Core Unit := do
  let _ ← Action.demand (wireAddress? device) .invalidHandle
  return ()

/-- Changes the clock; it stays as it was if the adapter refuses. -/
def setFreq (hz : UInt32) : Action interface Core Unit := do
  if hz = 0 then throw .invalidArgument
  else
    Action.ofExcept (← ask (.setClock hz))
    Action.report (.debug "mpsse clock changed")
    modify fun core ↦ { core with clock := hz }

/-- Closes the adapter. -/
def release : Action interface Core Unit := ask .close

/-- The operations of the backend.  It cannot stretch the clock. -/
def table : Table I2c.operations interface Core where
  call
    | .openAt address => openAt address
    | .read device length => read device length
    | .write device data => write device data
    | .close device => close device
    | .setFreq hz => setFreq hz
    | .setClockStretch _ => throw .invalidObject
  release := release

/-! ## Making a bus -/

/-- Makes a bus.  Without a connection string it is not known which adapter to open.  The adapter is
closed again if there is no memory for the bus. -/
def create (params : I2c.Params) : Program interface (Except Error (Bus Core)) :=
  match params.uri with
  | none =>
    .report (.debug "mpsse needs a connection string naming the adapter")
      (.done (.error .noDevice))
  | some uri =>
    match Identity.parse uri with
    | .error e => .done (.error e)
    | .ok identity =>
      .ask (.openAdapter identity params.freq true) fun
        | .ok _ =>
          .ask .reserve fun
            | true =>
              .report (.info "mpsse adapter opened")
                (.done (.ok (.new name { clock := params.freq })))
            | false => Bus.outOfMemory (.ask .close .done)
        | .error _ => .report (.debug "can't open mpsse adapter") (.done (.error .backendFailure))

end BusAccess.Adapter
