import BusAccess.Config
import BusAccess.Platform.Backend
import BusAccess.Platform.Roster

/-!
# Platforms

A platform has a roster of backends for each kind of bus, and the configuration that it was set up
from.  A new platform knows no backends, and all its registries prefer the configured one.

A standard platform has the backends that need no outside help, which are the device nodes of the
machine; the daemon and the adapter need a client library, and are registered by whoever has one.
-/

set_option autoImplicit false

namespace BusAccess

/-- The rosters of all kinds, and the configuration. -/
structure Platform where
  /-- The backends for I2C. -/
  i2c : Roster I2cMaker := {}
  /-- The backends for SPI. -/
  spi : Roster SpiMaker := {}
  /-- The backends for GPIO. -/
  gpio : Roster GpioMaker := {}
  /-- The settings. -/
  config : Config := {}
  deriving DecidableEq, Repr

namespace Platform

variable {S : Interface}

/-- A platform without backends. -/
def new (config : Config) : Platform where
  i2c := Roster.setPreferred config.backend {}
  spi := Roster.setPreferred config.backend {}
  gpio := Roster.setPreferred config.backend {}
  config := config

/-- Works on the I2C roster. -/
def onI2c {α : Type} (x : Action S (Roster I2cMaker) α) : Action S Platform α :=
  x.focus i2c fun r p ↦ { p with i2c := r }

/-- Works on the SPI roster. -/
def onSpi {α : Type} (x : Action S (Roster SpiMaker) α) : Action S Platform α :=
  x.focus spi fun r p ↦ { p with spi := r }

/-- Works on the GPIO roster. -/
def onGpio {α : Type} (x : Action S (Roster GpioMaker) α) : Action S Platform α :=
  x.focus gpio fun r p ↦ { p with gpio := r }

/-- Registers the device nodes under some roots for one kind of bus. -/
def registerNode (roots : Node.Roots) : Kind → Action S Platform Unit
  | .i2c => onI2c (Roster.register ⟨Node.name, .node roots⟩)
  | .spi => onSpi (Roster.register ⟨Node.name, .node roots⟩)
  | .gpio => onGpio (Roster.register ⟨Node.name, .node roots⟩)

/-- Registers a daemon. -/
def registerDaemonAt (source : Daemon.Source) : Action S Platform Unit :=
  onI2c (Roster.register ⟨Daemon.name, .daemon source⟩)

/-- Registers the configured daemon. -/
def registerDaemon : Action S Platform Unit := do
  let p ← get
  registerDaemonAt { addr := p.config.pigpiodAddr, port := p.config.pigpiodPort }

/-- Registers the USB adapters. -/
def registerAdapter : Action S Platform Unit := onI2c (Roster.register ⟨Adapter.name, .adapter⟩)

/-- Registers what needs no outside help. -/
def registerStandard : Action S Platform Unit := do
  registerNode {} .i2c
  registerNode {} .spi
  registerNode {} .gpio
  Action.report (.debug "platform initialized")

/-- A platform with the backends that need no outside help. -/
def standard (config : Config) : Program S (Except Error Platform) :=
  (registerStandard (new config)).bind fun (result, p) ↦ .done (result.map fun _ ↦ p)

/-! ## Buses -/

/-- Makes an I2C bus. -/
def createI2c (params : I2c.Params) (p : Platform) :
    Program Surroundings.interface (Except Error (Bus I2cCore)) :=
  p.i2c.createBus (fun f ↦ f.maker.create f.name params) params.connect

/-- Makes an SPI bus. -/
def createSpi (params : Spi.Params) (p : Platform) :
    Program Surroundings.interface (Except Error (Bus SpiCore)) :=
  p.spi.createBus (fun f ↦ f.maker.create f.name params) params.connect

/-- Makes a GPIO controller. -/
def createGpio (params : Gpio.Params) (p : Platform) :
    Program Surroundings.interface (Except Error (Bus GpioCore)) :=
  p.gpio.createBus (fun f ↦ f.maker.create f.name params) params.connect

end Platform

end BusAccess
