import BusAccess.Block.Heap

/-!
# Working with numbered blocks

A sequence of steps on a heap, where blocks go by the order in which they were asked for.  Reading
a payload shows the address of the private region as a distance from the block's pointer, because
addresses themselves mean nothing to a reader.
-/

set_option autoImplicit false

namespace BusAccess.Block

open Log (Event)

/-- One step. -/
inductive Step where
  | allocate (size0 offset size1 : UInt64)
  /-- Puts the same byte everywhere in a payload. -/
  | fill (block : Nat) (byte : UInt8)
  /-- Puts bytes at a distance from the start of a payload. -/
  | poke (block : Nat) (place : Nat) (bytes : Bytes)
  | dump (block : Nat)
  | scrub (block : Nat)
  | release (block : Nat)
  /-- Releases no block. -/
  | releaseNull
  deriving DecidableEq, Repr

/-- A payload as it is shown: its bytes and, if they hold an address inside the block, the place of
the address among them and what it points to, as a distance from the block's pointer. -/
structure Dump where
  /-- All bytes of the payload. -/
  bytes : Bytes
  /-- Where an address is among them, and how far from the pointer it points. -/
  address : Option (Nat × Nat)
  deriving DecidableEq, Repr

/-- What a step answers. -/
inductive Answer where
  | allocated (block : Nat) (aligned : Bool) (events : List Event)
  | refused (error : Error) (events : List Event)
  | done
  | dump (d : Dump)
  | scrubbed (size : UInt64)
  | noBlock
  | outOfRange
  deriving DecidableEq, Repr

/-- A heap and the blocks asked for in it so far; those that failed or are released are `none`. -/
structure Journal where
  /-- The heap that blocks are allocated in. -/
  heap : Heap := .empty
  /-- The blocks in the order in which they were asked for. -/
  blocks : List (Option Placed) := []

namespace Journal

/-- The block of a given number, if it is in use. -/
def placed? (j : Journal) (block : Nat) : Option Placed := (j.blocks[block]?).getD none

/-- Whether `length` bytes at `place` are allowed: inside the payload, and with all or nothing of
the eight bytes that hold an address. -/
def pokeAllowed (l : Layout) (place length : Nat) : Bool :=
  let slot := l.offset.toNat
  let inside := place + length ≤ l.payload.toNat
  let overlaps := place < slot + 8 && slot < place + length
  let covers := place ≤ slot && slot + 8 ≤ place + length
  inside && !(0 < l.privateSize && overlaps && !covers)

/-- The payload of a block as it is shown. -/
def dump (h : Heap) (e : Placed) : Dump :=
  let bytes := h.memory.read e.pointer e.layout.payload.toNat
  let held := (h.memory.readWord (e.pointer + e.layout.offset.toNat)).toNat
  let points := e.pointer ≤ held && held ≤ e.pointer + e.layout.payload.toNat
  ⟨bytes, if 0 < e.layout.privateSize && points then
    some (e.layout.offset.toNat, held - e.pointer) else none⟩

/-- Does something with a block in use. -/
def withBlock (j : Journal) (block : Nat) (f : Placed → Answer × Journal) : Answer × Journal :=
  match j.placed? block with
  | none => (.noBlock, j)
  | some e => f e

/-- The journal with another memory. -/
def setMemory (j : Journal) (m : Memory) : Journal := { j with heap := { j.heap with memory := m } }

/-- One step. -/
def step (j : Journal) : Step → Answer × Journal
  | .allocate size0 offset size1 =>
    let ((result, heap), events) :=
      ((Heap.allocate size0 offset size1 : Action Program.silence Heap Placed) j.heap).outcome
    match result with
    | .ok placed =>
      (.allocated j.blocks.length (placed.pointer % 8 == 0) events,
        ⟨heap, j.blocks ++ [some placed]⟩)
    | .error e => (.refused e events, ⟨heap, j.blocks ++ [none]⟩)
  | .fill block byte => j.withBlock block fun e ↦
    (.done, j.setMemory (j.heap.memory.fill e.pointer e.layout.payload.toNat byte))
  | .poke block place bytes => j.withBlock block fun e ↦
    if pokeAllowed e.layout place bytes.length then
      (.done, j.setMemory (j.heap.memory.write (e.pointer + place) bytes.toArray))
    else (.outOfRange, j)
  | .dump block => j.withBlock block fun e ↦ (.dump (dump j.heap e), j)
  | .scrub block => j.withBlock block fun e ↦
    let (size, heap) := j.heap.scrub e.pointer
    (.scrubbed size, { j with heap })
  | .release block => j.withBlock block fun e ↦
    (.done, ⟨j.heap.release (some e.pointer), j.blocks.set block none⟩)
  | .releaseNull => (.done, { j with heap := j.heap.release none })

/-- Steps one after the other, with their answers. -/
def run (j : Journal) : List Step → List Answer
  | [] => []
  | s :: ss =>
    let (answer, j) := j.step s
    answer :: j.run ss

end Journal

end BusAccess.Block
