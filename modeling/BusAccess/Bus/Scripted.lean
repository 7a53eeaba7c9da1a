import BusAccess.Bus.Gpio
import BusAccess.Bus.I2c
import BusAccess.Bus.Spi

/-!
# Scripted backends

A backend without a transport, for trying out what is built on buses: every operation is passed on
as it is, and whoever runs the program decides what comes of it.  Several such backends are told
apart by an identifier.

A *minimal* backend lacks the operations that a backend need not have, so these never reach the
script.
-/

set_option autoImplicit false

namespace BusAccess.Scripted

/-- What is passed on, each with the identifier of the backend. -/
inductive Request where
  | create (id : String) (connect : Connect)
  | i2c (id : String) (call : I2c.Call)
  | spi (id : String) (call : Spi.Call)
  | gpio (id : String) (call : Gpio.Call)
  | release (id : String)
  deriving DecidableEq, Repr

/-- What a request is answered with. -/
abbrev Request.Reply : Request → Type
  | create _ _ => Except Error Unit
  | i2c _ call => Except Error call.Answer
  | spi _ call => Except Error call.Answer
  | gpio _ call => Except Error call.Answer
  | release _ => Except Error Unit

/-- What can be passed on to the script, and the answers. -/
abbrev interface : Interface := ⟨Request, Request.Reply⟩

/-- A scripted backend. -/
structure Core where
  /-- What tells it apart from other ones. -/
  id : String
  /-- Whether it lacks what it may lack. -/
  minimal : Bool
  deriving DecidableEq, Repr

/-- The reply of the script to a request. -/
abbrev ask (q : Request) : Action interface Core q.Reply := Action.ask (S := interface) q

/-- Whether an I2C backend need not have an operation. -/
def i2cOptional : I2c.Call → Bool
  | .setFreq _ | .setClockStretch _ => true
  | _ => false

/-- Whether an SPI backend need not have an operation. -/
def spiOptional : Spi.Call → Bool
  | .setSpeed _ | .setMode _ => true
  | _ => false

/-- Whether a GPIO backend need not have an operation. -/
def gpioOptional : Gpio.Call → Bool
  | .setDriveStrength _ _ => true
  | _ => false

/-- Demands that the backend has an operation. -/
def expect (optional : Bool) : Action interface Core String := do
  let core ← get
  if core.minimal && optional then throw .invalidObject else return core.id

/-- Tells the script that the bus is released. -/
def release : Action interface Core Unit := do
  let core ← get
  Action.ofExcept (← ask (.release core.id))

/-- The operations of a scripted I2C backend. -/
def i2cTable : Table I2c.operations interface Core where
  call c := do
    let id ← expect (i2cOptional c)
    Action.ofExcept (← ask (.i2c id c))
  release := release

/-- The operations of a scripted SPI backend. -/
def spiTable : Table Spi.operations interface Core where
  call c := do
    let id ← expect (spiOptional c)
    Action.ofExcept (← ask (.spi id c))
  release := release

/-- The operations of a scripted GPIO backend. -/
def gpioTable : Table Gpio.operations interface Core where
  call c := do
    let id ← expect (gpioOptional c)
    Action.ofExcept (← ask (.gpio id c))
  release := release

/-- How a scripted backend makes buses. -/
structure Maker where
  /-- What tells its buses apart from those of other ones. -/
  id : String
  /-- The failure of every attempt, if there is one. -/
  fail : Option Error
  /-- Whether they lack what they may lack. -/
  minimal : Bool
  deriving DecidableEq, Repr

/-- Makes a bus under the name that the backend has at the time.  The script may fail the attempt,
and otherwise the maker may. -/
def Maker.create (m : Maker) (name : String) (connect : Connect) :
    Program interface (Except Error (Bus Core)) :=
  .ask (.create m.id connect) fun
    | .error e => .done (.error e)
    | .ok _ =>
      match m.fail with
      | some e => .done (.error e)
      | none => .done (.ok (.new name { id := m.id, minimal := m.minimal }))

end BusAccess.Scripted
