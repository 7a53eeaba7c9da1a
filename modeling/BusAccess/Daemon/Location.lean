import BusAccess.Uri.Integer

/-!
# Where a pigpio daemon is

A connection string for the daemon is `pigpiod[://[host][:port]][/busnum]`.  What it leaves out is
left to the configuration.

The host goes into a buffer of 64 bytes.  It is taken for too long if the buffer ends up with fewer
bytes than the host has characters.  The port is at most eight decimal digits, and if there is a
colon there has to be a port.
-/

set_option autoImplicit false

namespace BusAccess.Daemon

open Uri (Scan keep?)

/-- The name of the backend and the scheme of its connection strings. -/
def name : String := "pigpiod"

/-- What a connection string says. -/
structure Location where
  /-- The host, up to a colon or a slash. -/
  host : Option String := none
  /-- The port, as its digits. -/
  port : Option String := none
  /-- The bus on the machine of the daemon. -/
  busnum : Option UInt32 := none
  deriving DecidableEq, Repr

/-- What is wrong with a connection string. -/
inductive Fault where
  | malformed
  | hostTooLong
  deriving DecidableEq, Repr

/-- The size of the buffer for the host, in bytes. -/
def hostCapacity : Nat := 64

/-- The size of the buffer for the port, in bytes. -/
def portCapacity : Nat := 8

namespace Location

/-- The part behind `://` up to the path: the host and the port. -/
def authority : Scan Fault (Option String × Option String) := do
  let host ← Scan.take (.until ":/")
  match keep? hostCapacity host with
  | none => throw .hostTooLong
  | some kept =>
    let host := if host.isEmpty then none else some (String.ofList kept)
    if ← Scan.literal ":" then
      let port ← Scan.take (.among "0123456789")
      match keep? portCapacity port with
      | none => throw .malformed
      | some kept =>
        Scan.demand (!port.isEmpty) .malformed
        return (host, some (String.ofList kept))
    else return (host, none)

/-- The grammar of connection strings. -/
def grammar : Scan Fault Location := do
  Scan.demand (← Scan.literal name) .malformed
  let (host, port) ← if ← Scan.literal "://" then authority else pure (none, none)
  let busnum ← Scan.busNumberPath .malformed
  Scan.finish .malformed
  return { host, port, busnum }

/-- Reads a connection string. -/
def parse (uri : String) : Except Fault Location := grammar.parse uri

end Location

end BusAccess.Daemon
