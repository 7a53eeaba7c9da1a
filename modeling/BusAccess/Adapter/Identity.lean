import BusAccess.Uri.Integer

/-!
# Which adapter

A connection string for a USB adapter is `mpsse://VID:PID[/]`.  The two numbers identify the
adapter; each is written with one to four hexadecimal digits.

The digits of a number go into a buffer of four bytes.  There are too many of them if the buffer
ends up with fewer bytes than there are digits, and the number is read from what is in the buffer.
-/

set_option autoImplicit false

namespace BusAccess.Adapter

open Uri (Scan)

/-- The name of the backend and the scheme of its connection strings. -/
def name : String := "mpsse"

/-- The numbers of a vendor and of one of its products. -/
structure Identity where
  /-- The vendor. -/
  vid : UInt16
  /-- The product. -/
  pid : UInt16
  deriving DecidableEq, Repr

namespace Identity

/-- The size of the buffer for the digits of a number, in bytes. -/
def digitsCapacity : Nat := 4

/-- One number. -/
def number : Scan Error UInt16 := do
  let digits ← Scan.take (.among "0123456789abcdefABCDEF")
  Scan.demand (!digits.isEmpty) .invalidUri
  let kept ← Scan.require (Uri.keep? digitsCapacity digits) .invalidUri
  let n ← Scan.require (Uri.wordOfDigits? UInt16.size 16 kept) .invalidUri
  return UInt16.ofNat n

/-- The grammar of connection strings. -/
def grammar : Scan Error Identity := do
  Scan.demand (← Scan.literal name) .invalidUri
  Scan.demand (← Scan.literal "://") .invalidUri
  let vid ← number
  Scan.demand (← Scan.literal ":") .invalidUri
  let pid ← number
  let _ ← Scan.literal "/"
  Scan.finish .invalidUri
  return { vid, pid }

/-- Reads a connection string. -/
def parse (uri : String) : Except Error Identity := grammar.parse uri

end Identity

end BusAccess.Adapter
