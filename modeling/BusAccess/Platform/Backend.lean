import BusAccess.Node.Gpio
import BusAccess.Node.I2c
import BusAccess.Node.Spi
import BusAccess.Platform.Surroundings

/-!
# The backends of each kind

For each kind of bus: what its backends keep (`Core`), how they answer the operations (`table`),
and how they make buses (`Maker`).  Both pass everything on to the backend at hand.
-/

set_option autoImplicit false

namespace BusAccess

/-- A bus of another type of backend. -/
def Bus.map {σ τ : Type} (f : σ → τ) (b : Bus σ) : Bus τ :=
  { backend := b.backend, core := b.core.map f, openDevices := b.openDevices }

/-- A bus that is made in other surroundings, as a bus of a larger type of backend. -/
def Program.madeWithin {S T : Interface} {σ τ : Type}
    (answer : (q : S.Request) → Program T (S.Reply q)) (f : σ → τ)
    (p : Program S (Except Error (Bus σ))) : Program T (Except Error (Bus τ)) :=
  (p.interpret answer).bind fun r ↦ .done (r.map (Bus.map f))

/-! ## I2C -/

/-- What the I2C backends keep. -/
inductive I2cCore where
  | scripted (core : Scripted.Core)
  | daemon (core : Daemon.Core)
  | adapter (core : Adapter.Core)
  | node (core : Node.I2c.Core)
  deriving DecidableEq, Repr

/-- The operations of the I2C backends. -/
def I2cCore.table : Table I2c.operations Surroundings.interface I2cCore where
  call c
    | .scripted s => (Scripted.i2cTable.call c).within Surroundings.script .scripted s
    | .daemon s => (Daemon.table.call c).within Surroundings.daemon .daemon s
    | .adapter s => (Adapter.table.call c).within Surroundings.adapter .adapter s
    | .node s => (Node.I2c.table.call c).within Surroundings.kernel .node s
  release
    | .scripted s => Scripted.i2cTable.release.within Surroundings.script .scripted s
    | .daemon s => Daemon.table.release.within Surroundings.daemon .daemon s
    | .adapter s => Adapter.table.release.within Surroundings.adapter .adapter s
    | .node s => Node.I2c.table.release.within Surroundings.kernel .node s

/-- How I2C buses are made. -/
inductive I2cMaker where
  | scripted (maker : Scripted.Maker)
  | daemon (source : Daemon.Source)
  | adapter
  | node (roots : Node.Roots)
  deriving DecidableEq, Repr

/-- Makes an I2C bus. -/
def I2cMaker.create (name : String) (p : I2c.Params) :
    I2cMaker → Program Surroundings.interface (Except Error (Bus I2cCore))
  | scripted m => (m.create name p.connect).madeWithin Surroundings.script .scripted
  | daemon source => (Daemon.create source p).madeWithin Surroundings.daemon .daemon
  | adapter => (Adapter.create p).madeWithin Surroundings.adapter .adapter
  | node roots => (Node.I2c.create roots p).madeWithin Surroundings.kernel .node

/-! ## SPI -/

/-- What the SPI backends keep. -/
inductive SpiCore where
  | scripted (core : Scripted.Core)
  | node (core : Node.Spi.Core)
  deriving DecidableEq, Repr

/-- The operations of the SPI backends. -/
def SpiCore.table : Table Spi.operations Surroundings.interface SpiCore where
  call c
    | .scripted s => (Scripted.spiTable.call c).within Surroundings.script .scripted s
    | .node s => (Node.Spi.table.call c).within Surroundings.kernel .node s
  release
    | .scripted s => Scripted.spiTable.release.within Surroundings.script .scripted s
    | .node s => Node.Spi.table.release.within Surroundings.kernel .node s

/-- How SPI buses are made. -/
inductive SpiMaker where
  | scripted (maker : Scripted.Maker)
  | node (roots : Node.Roots)
  deriving DecidableEq, Repr

/-- Makes an SPI bus. -/
def SpiMaker.create (name : String) (p : Spi.Params) :
    SpiMaker → Program Surroundings.interface (Except Error (Bus SpiCore))
  | scripted m => (m.create name p.connect).madeWithin Surroundings.script .scripted
  | node roots => (Node.Spi.create roots p).madeWithin Surroundings.kernel .node

/-! ## GPIO -/

/-- What the GPIO backends keep. -/
inductive GpioCore where
  | scripted (core : Scripted.Core)
  | node (core : Node.Gpio.Core)
  deriving DecidableEq, Repr

/-- The operations of the GPIO backends. -/
def GpioCore.table : Table Gpio.operations Surroundings.interface GpioCore where
  call c
    | .scripted s => (Scripted.gpioTable.call c).within Surroundings.script .scripted s
    | .node s => (Node.Gpio.table.call c).within Surroundings.kernel .node s
  release
    | .scripted s => Scripted.gpioTable.release.within Surroundings.script .scripted s
    | .node s => Node.Gpio.table.release.within Surroundings.kernel .node s

/-- How GPIO controllers are made. -/
inductive GpioMaker where
  | scripted (maker : Scripted.Maker)
  | node (roots : Node.Roots)
  deriving DecidableEq, Repr

/-- Makes a GPIO controller. -/
def GpioMaker.create (name : String) (p : Gpio.Params) :
    GpioMaker → Program Surroundings.interface (Except Error (Bus GpioCore))
  | scripted m => (m.create name p.connect).madeWithin Surroundings.script .scripted
  | node roots => (Node.Gpio.create roots p).madeWithin Surroundings.kernel .node

end BusAccess
