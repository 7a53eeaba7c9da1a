import BusAccess.Bus.Gpio
import BusAccess.Bus.I2c
import BusAccess.Bus.Spi
import BusAccess.Uri.Integer

/-!
# Configuration

The same program can be pointed at another transport without being rebuilt: a configuration is
read from variables, by way of any lookup function.  A variable that holds blanks only counts as
unset.

The three numeric settings are read in the open base, so `0x10`, `020` and `16` are all sixteen.
What follows the number is not looked at.  A value that does not start with an integer, or with
one that is no bus number, is left out with a warning.
-/

set_option autoImplicit false

namespace BusAccess

open Log (Event)

/-- The settings of a platform. -/
structure Config where
  /-- The backend for requests that name none. -/
  backend : Option String := none
  /-- The number of an I2C bus, for requests without one. -/
  i2cBusnum : Option UInt32 := none
  /-- The number of an SPI bus, for requests without one. -/
  spiBusnum : Option UInt32 := none
  /-- The number of a controller, for requests without one. -/
  gpioChip : Option UInt32 := none
  /-- Where the pigpio daemon is, if a connection string does not say. -/
  pigpiodAddr : Option String := none
  /-- The port of the daemon, if a connection string does not say. -/
  pigpiodPort : Option String := none
  /-- Filter directives for the log. -/
  log : Option String := none
  deriving DecidableEq, Repr

namespace Config

/-! ## Variables -/

def backendVariable : String := "MCU_PERIPH_BACKEND"
def i2cBusnumVariable : String := "MCU_PERIPH_I2C_BUSNUM"
def spiBusnumVariable : String := "MCU_PERIPH_SPI_BUSNUM"
def gpioChipVariable : String := "MCU_PERIPH_GPIO_CHIP"
def pigpiodAddrVariable : String := "MCU_PERIPH_PIGPIOD_ADDR"
def pigpiodPortVariable : String := "MCU_PERIPH_PIGPIOD_PORT"
def logVariable : String := "MCU_PERIPH_LOG"

/-- The value of a variable, unless it is blank. -/
def setting (lookup : String → Option String) (key : String) : Option String :=
  (lookup key).filter fun v ↦ !Text.allBlank v

/-- The bus number at the start of a text. -/
def busNumber? (text : String) : Option UInt32 :=
  let found := Uri.readInteger 0 text.toList
  if found.length = 0 then none else Uri.toBusNumber? found.value

/-- The number in a variable, with a warning if the variable is set to something else. -/
def number {S : Interface} (lookup : String → Option String) (key : String) :
    Program S (Option UInt32) :=
  match setting lookup key with
  | none => .done none
  | some text =>
    match busNumber? text with
    | some n => .done (some n)
    | none =>
      .report (.warn "ignoring malformed number" [("key", key), ("value", text)]) (.done none)

/-- Reads the configuration from variables. -/
def ofLookup {S : Interface} (lookup : String → Option String) : Program S Config := do
  let i2cBusnum ← number lookup i2cBusnumVariable
  let spiBusnum ← number lookup spiBusnumVariable
  let gpioChip ← number lookup gpioChipVariable
  return {
    backend := setting lookup backendVariable
    i2cBusnum, spiBusnum, gpioChip
    pigpiodAddr := setting lookup pigpiodAddrVariable
    pigpiodPort := setting lookup pigpiodPortVariable
    log := setting lookup logVariable }

/-! ## Default parameters -/

/-- I2C parameters with the configured bus number, if there is one. -/
def i2cParams {S : Interface} (c : Config) : Program S I2c.Params :=
  let params : I2c.Params := { busnum := c.i2cBusnum }
  if c.i2cBusnum.isSome then
    .report (.info "i2c bus number from configuration") (.done params)
  else .done params

/-- SPI parameters with the configured bus number, if there is one. -/
def spiParams {S : Interface} (c : Config) : Program S Spi.Params :=
  let params : Spi.Params := { busnum := c.spiBusnum }
  if c.spiBusnum.isSome then
    .report (.info "spi bus number from configuration") (.done params)
  else .done params

/-- GPIO parameters with the configured controller, if there is one. -/
def gpioParams (c : Config) : Gpio.Params := { chip := c.gpioChip }

/-! ## Documents -/

/-- The settings by the names they have in documents. -/
def fields (lib : Json.Library := .native) : List (Json.Field Config) :=
  [.of "backend" (lib.option lib.text) backend fun v c ↦ { c with backend := v },
    .of "i2c_busnum" (lib.option lib.uint32) i2cBusnum fun v c ↦ { c with i2cBusnum := v },
    .of "spi_busnum" (lib.option lib.uint32) spiBusnum fun v c ↦ { c with spiBusnum := v },
    .of "gpio_chip" (lib.option lib.uint32) gpioChip fun v c ↦ { c with gpioChip := v },
    .of "pigpiod_addr" (lib.option lib.text) pigpiodAddr fun v c ↦ { c with pigpiodAddr := v },
    .of "pigpiod_port" (lib.option lib.text) pigpiodPort fun v c ↦ { c with pigpiodPort := v },
    .of "log" (lib.option lib.text) log fun v c ↦ { c with log := v }]

/-- How a configuration is written in documents. -/
def codec (lib : Json.Library := .native) : Json.Codec Config := lib.record (fields lib) {}

end Config

end BusAccess
