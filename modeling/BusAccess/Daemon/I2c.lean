import BusAccess.Bus.I2c
import BusAccess.Daemon.Location
import BusAccess.Text.Quoted

/-!
# I2C through a pigpio daemon

A daemon on some host has the bus, and its client library is at the other end of `interface`.  The
daemon numbers the devices that are open on a connection.  The backend keeps the numbers it was
given in ascending order, and refuses every handle that is not among them without asking.

A number that does not fit a device handle cannot be used.  The device is closed again at once and
opening it fails.  Devices that are still open when the bus is released are closed in ascending
order, whatever comes of each, and then the connection is stopped.
-/

set_option autoImplicit false

namespace BusAccess.Daemon

open Log (Event)

/-! ## What is asked -/

/-- Names one connection to a daemon. -/
abbrev Link := Nat

/-- What is asked of the client library, and of the allocator of the process. -/
inductive Request where
  /-- Connects to a daemon; what is left out is up to the library. -/
  | connect (host port : Option String)
  | openDevice (link : Link) (bus : UInt32) (address : UInt16) (flags : UInt32)
  | readDevice (link : Link) (handle : UInt32) (length : Nat)
  | writeDevice (link : Link) (handle : UInt32) (data : Bytes)
  | closeDevice (link : Link) (handle : UInt32)
  | stop (link : Link)
  /-- A block of memory for what the backend keeps. -/
  | reserve
  deriving DecidableEq, Repr

/-- What a request is answered with. -/
abbrev Request.Reply : Request → Type
  | connect _ _ => Except Error Link
  | openDevice _ _ _ _ => Except Error UInt32
  | readDevice _ _ _ => Except Error Received
  | writeDevice _ _ _ => Except Error Unit
  | closeDevice _ _ => Except Error Unit
  | stop _ => Unit
  | reserve => Bool

/-- What can be asked, and the answers. -/
abbrev interface : Interface := ⟨Request, Request.Reply⟩

/-! ## The bus -/

/-- The bus number where nobody says another: the pins of the board's header. -/
def defaultBus : UInt32 := 1

/-- What the backend keeps for a bus. -/
structure Core where
  /-- The connection to the daemon. -/
  link : Link
  /-- The bus on the machine of the daemon. -/
  busnum : UInt32
  /-- The devices that are open, in ascending order. -/
  handles : List UInt32 := []
  deriving DecidableEq, Repr

/-- The reply to a request. -/
abbrev ask (q : Request) : Action interface Core q.Reply := Action.ask (S := interface) q

/-- Puts a handle in its place, unless it is there already. -/
def insertHandle (h : UInt32) : List UInt32 → List UInt32
  | [] => [h]
  | g :: gs => if h < g then h :: g :: gs else if h = g then g :: gs else g :: insertHandle h gs

/-- The open device that a handle names. -/
def handleOf (device : DeviceHandle) : Action interface Core UInt32 := do
  let core ← get
  Action.demand (device.unsigned?.filter fun h ↦ core.handles.contains h) .invalidHandle

/-- Closes a device without minding a failure, which is reported under `message`. -/
def closeQuietly (link : Link) (handle : UInt32) (message : String) :
    Action interface Core Unit := do
  match ← ask (.closeDevice link handle) with
  | .ok _ => return ()
  | .error _ => Action.report (.debug message)

/-- Opens the device at an address. -/
def openAt (address : UInt16) : Action interface Core DeviceHandle := do
  let core ← get
  let handle ← Action.ofExcept (← ask (.openDevice core.link core.busnum address 0))
  match DeviceHandle.ofUnsigned? handle with
  | none =>
    Action.report (.warn "pigpio handle out of range")
    closeQuietly core.link handle "closing out-of-range pigpio handle failed"
    throw .backendFailure
  | some device =>
    set { core with handles := insertHandle handle core.handles }
    return device

/-- Fills a buffer from a device. -/
def read (device : DeviceHandle) (length : Nat) : Action interface Core Received := do
  let handle ← handleOf device
  let core ← get
  Action.ofExcept (← ask (.readDevice core.link handle length))

/-- Sends bytes to a device. -/
def write (device : DeviceHandle) (data : Bytes) : Action interface Core Nat := do
  let handle ← handleOf device
  let core ← get
  Action.ofExcept (← ask (.writeDevice core.link handle data))
  return data.length

/-- Closes a device; it is gone even if the daemon fails to close it. -/
def close (device : DeviceHandle) : Action interface Core Unit := do
  let handle ← handleOf device
  let core ← get
  set { core with handles := core.handles.erase handle }
  Action.ofExcept (← ask (.closeDevice core.link handle))

/-- Closes what is still open and stops the connection. -/
def release : Action interface Core Unit := do
  let core ← get
  set { core with handles := [] }
  core.handles.forM fun h ↦ closeQuietly core.link h "closing leftover pigpio handle failed"
  ask (.stop core.link)

/-- The operations of the backend.  It can neither change the clock nor stretch it. -/
def table : Table I2c.operations interface Core where
  call
    | .openAt address => openAt address
    | .read device length => read device length
    | .write device data => write device data
    | .close device => close device
    | .setFreq _ => throw .invalidObject
    | .setClockStretch _ => throw .invalidObject
  release := release

/-! ## Making a bus -/

/-- Where the daemon is if the connection string does not say. -/
structure Source where
  /-- The host that the configuration names. -/
  addr : Option String := none
  /-- The port that the configuration names. -/
  port : Option String := none
  deriving DecidableEq, Repr

/-- A source as it is shown. -/
def Source.describe (s : Source) : String :=
  Text.describeRecord "Pigpiod"
    [("addr", Text.quotedOption s.addr), ("port", Text.quotedOption s.port)] true

/-- Connects to the daemon that a location and a source describe.  The connection is stopped again if
there is no memory for the bus. -/
def connect (s : Source) (location : Location) (params : I2c.Params) :
    Program interface (Except Error (Bus Core)) :=
  let host := location.host <|> s.addr
  let port := location.port <|> s.port
  let busnum := (location.busnum <|> params.busnum).getD defaultBus
  .ask (.connect host port) fun
    | .ok link =>
      .ask .reserve fun
        | true =>
          .report (.info "connected to pigpio daemon") (.done (.ok (.new name { link, busnum })))
        | false => Bus.outOfMemory (.ask (.stop link) .done)
    | .error _ => .report (.debug "pigpio daemon unreachable") (.done (.error .noDevice))

/-- Makes a bus. -/
def create (s : Source) (params : I2c.Params) : Program interface (Except Error (Bus Core)) :=
  match params.uri with
  | none => connect s {} params
  | some uri =>
    match Location.parse uri with
    | .ok location => connect s location params
    | .error .malformed => .done (.error .invalidUri)
    | .error .hostTooLong =>
      .report (.warn "pigpiod host name too long") (.done (.error .invalidUri))

end BusAccess.Daemon
