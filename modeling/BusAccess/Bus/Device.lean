import BusAccess.Json.Library

/-!
# Devices on a bus

A bus hands out one `DeviceHandle` for each peer that is open on it.  What the number means is the
business of the backend: a descriptor, a handle of a daemon, an encoded address.  It means nothing
without the bus that issued it.
-/

set_option autoImplicit false

namespace BusAccess

/-- Bytes in the order in which they travel. -/
abbrev Bytes := List UInt8

/-- Names one open peer on a bus. -/
structure DeviceHandle where
  /-- The number that the backend has for it. -/
  raw : Int32
  deriving DecidableEq, Repr

namespace DeviceHandle

instance : Ord DeviceHandle := ⟨fun a b ↦ compare a.raw.toInt b.raw.toInt⟩

/-- The handle with the number of a handle without sign, if it fits into 31 bits. -/
def ofUnsigned? (n : UInt32) : Option DeviceHandle :=
  if n.toNat < 0x80000000 then some ⟨Int32.ofNat n.toNat⟩ else none

/-- The handle's number as one without sign, if it is not negative. -/
def unsigned? (d : DeviceHandle) : Option UInt32 :=
  if 0 ≤ d.raw.toInt then some (UInt32.ofNat d.raw.toInt.toNat) else none

/-- A handle is written as its number. -/
def codec (lib : Json.Library := .native) : Json.Codec DeviceHandle where
  encode d := lib.int32.encode d.raw
  decode? v := (lib.int32.decode? v).map DeviceHandle.mk

end DeviceHandle

/-- What came in: how many bytes the transport counted, and the whole receive buffer. -/
structure Received where
  /-- How many bytes the transport counted. -/
  count : Nat
  /-- The whole buffer. -/
  buffer : Bytes
  deriving DecidableEq, Repr

end BusAccess
