import BusAccess.Text.Quoted
import BusAccess.Uri.Integer

/-!
# Which bus of the machine

A connection string for a bus of the machine itself is `linuxdev[://][/busnum]`.  There is no host,
so nothing may stand between `://` and the path.  All three kinds of bus share this grammar.

`Roots` says where the kernel shows its devices.
-/

set_option autoImplicit false

namespace BusAccess.Node

open Uri (Scan)

/-- The name of the backends and the scheme of their connection strings. -/
def name : String := "linuxdev"

/-- The grammar of connection strings; what it reads is the bus number. -/
def grammar : Scan Error (Option UInt32) := do
  Scan.demand (← Scan.literal name) .invalidUri
  if ← Scan.literal "://" then
    let host ← Scan.take (.until "/")
    Scan.demand host.isEmpty .invalidUri
  let busnum ← Scan.busNumberPath .invalidUri
  Scan.finish .invalidUri
  return busnum

/-- The bus number in a connection string that may be missing. -/
def parse : Option String → Except Error (Option UInt32)
  | none => .ok none
  | some uri => grammar.parse uri

/-- The bus that a connection string and a number ask for; bus 0 if neither says. -/
def chooseBus (uri : Option String) (busnum : Option UInt32) : Except Error UInt32 :=
  (parse uri).map fun b ↦ (b <|> busnum).getD 0

/-- The directories of device nodes and of pins. -/
structure Roots where
  /-- Where the nodes of I2C and SPI devices are. -/
  dev : String := "/dev"
  /-- Where pins are exported and have their files. -/
  gpio : String := "/sys/class/gpio"
  deriving DecidableEq, Repr

/-- Roots as they are shown. -/
def Roots.describe (r : Roots) : String :=
  Text.describeRecord "LinuxDev"
    [("dev_dir", Text.quoted r.dev), ("gpio_dir", Text.quoted r.gpio)] false

end BusAccess.Node
