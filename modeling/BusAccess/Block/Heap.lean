import BusAccess.Block.Layout
import BusAccess.Bus.Device
import BusAccess.Program

/-!
# Blocks in memory

A heap is a memory, one byte at each address, and the regions that are handed out in it.  The
header of a block lies in the same memory as everything else: releasing a block reads its size
back from there, clears that many bytes, and gives the region of that size back.

Where a region comes from and what becomes of one that is given back is up to an `Allocator`.  The
one of a heap, `Allocator.native`, hands out regions one behind the other and never twice, and refuses
what is as large as `grantLimit` or does not fit below the end of the addresses.
-/

set_option autoImplicit false

namespace BusAccess.Block

open Log (Event)

/-! ## Memory -/

/-- The byte at each address. -/
abbrev Memory := Nat → UInt8

namespace Memory

/-- The bytes of a memory from an address on. -/
def read (m : Memory) (start length : Nat) : Bytes := (List.range length).map fun i ↦ m (start + i)

/-- Puts bytes at an address. -/
def write (m : Memory) (start : Nat) (bytes : Array UInt8) : Memory := fun a ↦
  if start ≤ a ∧ a < start + bytes.size then bytes.getD (a - start) 0 else m a

/-- Puts the same byte at every address of a region. -/
def fill (m : Memory) (start length : Nat) (byte : UInt8) : Memory := fun a ↦
  if start ≤ a ∧ a < start + length then byte else m a

end Memory

/-- The eight bytes of a word, the least significant first. -/
def wordBytes (w : UInt64) : Array UInt8 :=
  (Array.range 8).map fun i ↦ UInt8.ofNat (w.toNat >>> (8 * i))

/-- The word that bytes spell, the least significant first. -/
def wordOfBytes : Bytes → Nat
  | [] => 0
  | b :: bs => b.toNat + 256 * wordOfBytes bs

namespace Memory

/-- Puts a word at an address. -/
def writeWord (m : Memory) (start : Nat) (w : UInt64) : Memory := m.write start (wordBytes w)

/-- The word at an address. -/
def readWord (m : Memory) (start : Nat) : UInt64 := UInt64.ofNat (wordOfBytes (m.read start 8))

end Memory

/-! ## Regions -/

/-- A region that is handed out. -/
structure Region where
  /-- The first address. -/
  start : Nat
  /-- How many bytes there are. -/
  size : Nat
  deriving DecidableEq, Repr

/-- A block in memory: its layout, and the address of its public region. -/
structure Placed where
  /-- How large its regions are. -/
  layout : Layout
  /-- The address of the public region, behind the header. -/
  pointer : Nat
  deriving DecidableEq, Repr

/-- A memory with the regions that are handed out in it. -/
structure Heap where
  /-- What is at each address. -/
  memory : Memory
  /-- What is handed out. -/
  live : List Region
  /-- Where the next region starts. -/
  next : Nat
  /-- Regions are aligned for pointers, and for pairs of them. -/
  aligned : next % 16 = 0

/-- What hands out the regions of a heap and takes them back. -/
structure Allocator where
  /-- Asked for a size, it says where the region is that it adds to the heap. -/
  grant : Heap → Nat → Option (Nat × Heap)
  /-- It is told where a region starts and how large it is.  The bytes in the region are its own from
  then on, to look at and to overwrite. -/
  reclaim : Heap → Region → Heap

namespace Heap

/-- A heap from which nothing is handed out yet. -/
def empty : Heap := ⟨fun _ ↦ 0, [], 0x7f3a5c000010, by decide⟩

/-- Requests of this size and above are refused. -/
def grantLimit : Nat := 0x2000000000000000

/-- A cleared region of a given size, aligned for pointers. -/
def grant? (h : Heap) (size : Nat) : Option (Nat × Heap) :=
  if size < grantLimit ∧ h.next + size < UInt64.size then
    some (h.next, {
      memory := h.memory.fill h.next size 0
      live := ⟨h.next, size⟩ :: h.live
      next := h.next + (size + 15) / 16 * 16
      aligned := by have := h.aligned; omega })
  else none

/-- Takes a region back. -/
def giveBack (h : Heap) (r : Region) : Heap := { h with live := h.live.erase r }

end Heap

/-- The allocator of a heap. -/
def Allocator.native : Allocator := ⟨Heap.grant?, Heap.giveBack⟩

namespace Heap

/-! ## Blocks -/

/-- The size of a header, as a distance between addresses. -/
def headerSize : Nat := 8

/-- Writes what a new block holds: its header and, if there is a private region, the address of that
in the public one. -/
def inscribe (m : Memory) (base : Nat) (layout : Layout) : Memory :=
  let pointer := base + headerSize
  let m := m.writeWord base layout.payload
  if 0 < layout.privateSize then
    m.writeWord (pointer + layout.offset.toNat)
      (UInt64.ofNat (pointer + layout.publicSize.toNat))
  else m

/-- Allocates a block in a region that an allocator grants. -/
def allocateFrom {S : Interface} (A : Allocator) (size0 offset size1 : UInt64) :
    Action S Heap Placed := do
  let (layout, total) ← Action.ofExcept (Layout.ofSizes size0 offset size1)
  let h ← get
  match A.grant h total.toNat with
  | none =>
    Action.report (.error "object allocation failed")
    throw .noMemory
  | some (base, h) =>
    set { h with memory := inscribe h.memory base layout }
    return ⟨layout, base + headerSize⟩

/-- Allocates a block in a region of the heap. -/
def allocate {S : Interface} (size0 offset size1 : UInt64) : Action S Heap Placed :=
  allocateFrom .native size0 offset size1

/-- Clears what the header says is the payload of a block, and tells how many bytes that is. -/
def scrub (h : Heap) (pointer : Nat) : UInt64 × Heap :=
  let size := h.memory.readWord (pointer - headerSize)
  (size, { h with memory := h.memory.fill pointer size.toNat 0 })

/-- Clears a block and gives its region back to an allocator; there may be no block. -/
def releaseTo (A : Allocator) (h : Heap) : Option Nat → Heap
  | none => h
  | some pointer =>
    let (size, h) := h.scrub pointer
    match totalSize? size with
    | some total => A.reclaim h ⟨pointer - headerSize, total.toNat⟩
    | none => h

/-- Clears and frees a block of the heap; there may be none. -/
def release (h : Heap) (pointer : Option Nat) : Heap := h.releaseTo .native pointer

end Heap

end BusAccess.Block
