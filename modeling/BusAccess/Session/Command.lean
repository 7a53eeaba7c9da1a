import BusAccess.Bench.Basic
import BusAccess.Config

/-!
# Commands and answers of a session

A session works a platform on the bench by commands: registering backends, making buses, operating
them by the names under which they are kept, and arranging what the bench will do.

An operation is given for whatever kind the bus turns out to be, so a command on a bus holds what
it means for each of the three kinds, where it means something.
-/

set_option autoImplicit false

namespace BusAccess.Session

open Log (Event)

/-- An operation on a bus that does not count as one of its calls. -/
inductive Common where
  /-- Shows the bus. -/
  | state
  | release
  deriving DecidableEq, Repr

/-- An operation on an I2C bus. -/
inductive I2cOperation where
  | common (c : Common)
  | call (c : I2c.Call)
  deriving DecidableEq, Repr

/-- An operation on an SPI bus. -/
inductive SpiOperation where
  | common (c : Common)
  | call (c : Spi.Call)
  | transfer (device : DeviceHandle) (tx : Bytes) (rx : Nat)
  | read (device : DeviceHandle) (length : Nat)
  | write (device : DeviceHandle) (data : Bytes)
  deriving DecidableEq, Repr

/-- An operation on a GPIO controller. -/
inductive GpioOperation where
  | common (c : Common)
  | call (c : Gpio.Call)
  deriving DecidableEq, Repr

/-- What an operation means for each kind of bus, `none` where the kind has no such operation. -/
structure Operation where
  /-- What it is for I2C. -/
  i2c : Option I2cOperation
  /-- What it is for SPI. -/
  spi : Option SpiOperation
  /-- What it is for GPIO. -/
  gpio : Option GpioOperation
  deriving DecidableEq, Repr

/-- A request for a bus; without parameters, those of the platform are taken. -/
inductive Creation where
  | i2c (params : Option I2c.Params)
  | spi (params : Option Spi.Params)
  | gpio (params : Option Gpio.Params)
  deriving DecidableEq, Repr

/-- A command. -/
inductive Command where
  /-- Registers a scripted backend; a shared one is remembered by its identifier. -/
  | register (kind : Kind) (name : String) (maker : Scripted.Maker) (shared : Bool)
  /-- Registers a remembered backend once more, for the same or another kind of bus. -/
  | reregister (kind : Kind) (id : String)
  /-- Changes the name that a remembered backend reports. -/
  | rename (id name : String)
  /-- Registers a daemon, or the configured one. -/
  | registerDaemon (source : Option Daemon.Source)
  | registerAdapter
  | registerNode (kind : Kind)
  | setPreferred (kind : Kind) (name : Option String)
  | contains (kind : Kind) (name : String)
  /-- Shows a registry. -/
  | registry (kind : Kind)
  /-- Shows the platform's parameters. -/
  | params (kind : Kind)
  /-- Shows what backends tell of themselves. -/
  | describe (source : Daemon.Source)
  /-- Makes a bus, which is kept under a name or given up at once. -/
  | create (creation : Creation) (keep : Option String)
  | script (call : String) (outcomes : List Bench.Outcome)
  | put (path : String) (data : Bytes)
  | remove (path : String)
  | files
  /-- Gives a bus up. -/
  | drop (bus : String)
  | operate (bus : String) (operation : Operation)
  deriving Repr

/-! ## Answers -/

/-- What a command or an operation yields. -/
inductive Payload where
  | nothing
  | flag (value : Bool)
  | count (value : Nat)
  | handle (device : DeviceHandle)
  | received (r : Received)
  | level (value : Gpio.PinValue)
  | text (value : Option String)
  | texts (values : List String)
  | document (value : Json.Value)
  | files (all : List (String × Option Bytes))
  deriving Repr

/-- A registry as a session shows it. -/
structure RegistryView where
  /-- The names of the backends, in order. -/
  names : List String
  /-- The name of the preferred one. -/
  preferred : Option String
  /-- The registry as text. -/
  description : String
  deriving DecidableEq, Repr

/-- The outcome of a command. -/
inductive Answer where
  | done (payload : Payload)
  | failed (error : Error)
  | registry (view : RegistryView)
  /-- A bus as it is shown. -/
  | shown (description : String)
  | noBus
  | noSuchOperation
  deriving Repr

/-- Where a bus is in its life, and how many devices are open on it. -/
structure Status where
  /-- Where the bus is in its life. -/
  state : BusState
  /-- How many devices count as open. -/
  openDevices : Nat
  deriving DecidableEq, Repr

/-- What a session tells about one step: its outcome, the status of the bus that it was about, and
what went on meanwhile. -/
structure Entry where
  /-- What the step was answered with. -/
  answer : Answer
  /-- The bus after the step. -/
  status : Option Status := none
  /-- What was asked of the surroundings. -/
  calls : List Bench.Call := []
  /-- What was reported. -/
  events : List Event := []
  deriving Repr

end BusAccess.Session
