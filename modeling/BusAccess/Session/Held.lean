import BusAccess.Platform.Backend
import BusAccess.Session.Command

/-!
# The buses of a session

A session keeps buses of all three kinds side by side.  An operation on such a bus is the operation
that it means for the kind of the bus; one that means nothing there does nothing.

How a bus answers does not depend on the bench: `Held.operate` and `Held.drop` are programs for any
surroundings.
-/

set_option autoImplicit false

namespace BusAccess.Session

/-- A bus of any kind. -/
inductive Held where
  | i2c (bus : Bus I2cCore)
  | spi (bus : Bus SpiCore)
  | gpio (bus : Bus GpioCore)
  deriving DecidableEq, Repr

/-! ## What calls yield -/

/-- A result as an answer. -/
def answerOf {α : Type} (payload : α → Payload) : Except Error α → Answer
  | .ok a => .done (payload a)
  | .error e => .failed e

/-- What a call on an I2C bus yields. -/
def i2cPayload : (c : I2c.Call) → c.Answer → Payload
  | .openAt _, d => .handle d
  | .read _ _, r => .received r
  | .write _ _, n => .count n
  | .close _, _ => .nothing
  | .setFreq _, _ => .nothing
  | .setClockStretch _, _ => .nothing

/-- What a call on an SPI bus yields. -/
def spiPayload : (c : Spi.Call) → c.Answer → Payload
  | .openAt _, d => .handle d
  | .transfer _ _ _, r => .received r
  | .close _, _ => .nothing
  | .setSpeed _, _ => .nothing
  | .setMode _, _ => .nothing

/-- What a call on a GPIO controller yields. -/
def gpioPayload : (c : Gpio.Call) → c.Answer → Payload
  | .openPin _ _, d => .handle d
  | .read _, v => .level v
  | .write _ _, _ => .nothing
  | .close _, _ => .nothing
  | .setDriveStrength _ _, _ => .nothing

/-! ## Operating a bus -/

/-- Runs an action on a bus, and gives the answer and the bus afterwards. -/
def act {S : Interface} {σ α : Type} (x : Action S (Bus σ) α) (payload : α → Payload)
    (held : Bus σ → Held) (bus : Bus σ) : Program S (Answer × Held) := do
  let (result, bus) ← x bus
  return (answerOf payload result, held bus)

namespace Held

/-- The name of the backend that made the bus. -/
def backend : Held → String
  | i2c bus => bus.backend
  | spi bus => bus.backend
  | gpio bus => bus.backend

/-- The status of the bus. -/
def status : Held → Status
  | i2c bus => ⟨bus.state, bus.openDevices⟩
  | spi bus => ⟨bus.state, bus.openDevices⟩
  | gpio bus => ⟨bus.state, bus.openDevices⟩

/-- The bus as it is shown. -/
def describe (h : Held) : String :=
  Text.describeRecord "BusHandle"
    [("backend", Text.quoted h.backend), ("state", h.status.state.name)] false

/-- Gives the bus up. -/
def drop : Held → Program Surroundings.interface Unit
  | i2c bus => bus.drop I2cCore.table
  | spi bus => bus.drop SpiCore.table
  | gpio bus => bus.drop GpioCore.table

/-- Releases the bus. -/
def release : Held → Program Surroundings.interface (Answer × Held)
  | i2c bus => act (Bus.release I2cCore.table) (fun _ ↦ .nothing) i2c bus
  | spi bus => act (Bus.release SpiCore.table) (fun _ ↦ .nothing) spi bus
  | gpio bus => act (Bus.release GpioCore.table) (fun _ ↦ .nothing) gpio bus

/-- What every bus can do beside its calls. -/
def operateCommon (h : Held) : Common → Program Surroundings.interface (Answer × Held)
  | .state => return (.shown h.describe, h)
  | .release => h.release

/-- An operation on an I2C bus. -/
def operateI2c (bus : Bus I2cCore) :
    I2cOperation → Program Surroundings.interface (Answer × Held)
  | .common c => (i2c bus).operateCommon c
  | .call c => act (Bus.call (K := I2c.operations) I2cCore.table c) (i2cPayload c) i2c bus

/-- An operation on an SPI bus. -/
def operateSpi (bus : Bus SpiCore) :
    SpiOperation → Program Surroundings.interface (Answer × Held)
  | .common c => (spi bus).operateCommon c
  | .call c => act (Bus.call (K := Spi.operations) SpiCore.table c) (spiPayload c) spi bus
  | .transfer d tx rx => act (Spi.transfer SpiCore.table d tx rx) .received spi bus
  | .read d length => act (Spi.read SpiCore.table d length) .received spi bus
  | .write d data => act (Spi.write SpiCore.table d data) (fun r ↦ .count r.count) spi bus

/-- An operation on a GPIO controller. -/
def operateGpio (bus : Bus GpioCore) :
    GpioOperation → Program Surroundings.interface (Answer × Held)
  | .common c => (gpio bus).operateCommon c
  | .call c => act (Bus.call (K := Gpio.operations) GpioCore.table c) (gpioPayload c) gpio bus

/-- An operation on a bus of any kind. -/
def operate (op : Operation) (h : Held) : Program Surroundings.interface (Answer × Held) :=
  match h, op with
  | i2c bus, { i2c := some o, .. } => operateI2c bus o
  | spi bus, { spi := some o, .. } => operateSpi bus o
  | gpio bus, { gpio := some o, .. } => operateGpio bus o
  | _, _ => return (.noSuchOperation, h)

end Held

end BusAccess.Session
