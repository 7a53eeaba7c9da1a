import BusAccess.Block.Heap

/-!
# Values in blocks

A value may live in a block of its own.  Giving it up drops the value, clears its bytes and frees
the block, so nothing of it lingers in memory.  A type that has to be aligned more strictly than a
pointer cannot be kept in a block; a value of such a type is dropped at once.

`Content` lists kinds of values to try this with, and `trial` puts one through its life.
-/

set_option autoImplicit false

namespace BusAccess.Block

/-- A value and the pointer of the block that it lives in. -/
structure Boxed (α : Type) where
  /-- Where the value lives. -/
  pointer : Nat
  /-- The value itself. -/
  value : α
  deriving Repr

namespace Boxed

variable {S : Interface} {α : Type}

/-- Moves a value of a type of the given size and alignment into a block. -/
def new (size align : UInt64) (value : α) : Action S Heap (Boxed α) := do
  if wordSize < align then throw .invalidParam
  else
    let placed ← Heap.allocate size 0 0
    return { pointer := placed.pointer, value }

/-- Changes the value in place. -/
def modify (f : α → α) (b : Boxed α) : Boxed α := { b with value := f b.value }

/-- Gives the block up. -/
def drop (b : Boxed α) (h : Heap) : Heap := h.release (some b.pointer)

end Boxed

/-- A value to keep in a block. -/
inductive Content where
  | byte (value : UInt8)
  | word (value : UInt64)
  | bytes (value : Bytes)
  /-- A byte in a structure with an alignment of its own. -/
  | aligned (align : UInt64) (value : UInt8)
  | text (value : String)
  deriving DecidableEq, Repr

namespace Content

/-- The alignment of the value together with a counter of drops, which is a pointer. -/
def align : Content → UInt64
  | aligned a _ => max wordSize a
  | _ => wordSize

/-- The size of the value together with the counter. -/
def size : Content → UInt64
  | byte _ => 16
  | word _ => 16
  | bytes bs => wordSize + UInt64.ofNat bs.length
  | aligned a _ => 2 * max wordSize a
  | text _ => 32

/-- Adds one to the last byte. -/
def bumpLast : Bytes → Bytes
  | [] => []
  | [b] => [b + 1]
  | b :: bs => b :: bumpLast bs

/-- The value after a small change. -/
def changed : Content → Content
  | byte b => byte (b + 1)
  | word w => word (w + 1)
  | bytes bs => bytes (bumpLast bs)
  | aligned a b => aligned a (b + 1)
  | text s => text (s ++ "!")

end Content

/-- What the life of a boxed value shows: the value at first and after a change, and how often it
was dropped while the box was alive and in the end. -/
structure Life where
  /-- The value as it was put in. -/
  before : Content
  /-- The value after a change. -/
  after : Content
  /-- How often it was dropped while the box was alive. -/
  live : Nat
  /-- How often it was dropped in the end. -/
  drops : Nat
  deriving Repr

/-- Puts a value into a block, changes it and gives it up.  If there is no block for it, its only
drop is all there is to tell. -/
def trial (c : Content) (h : Heap) : Except (Error × Nat) Life × Heap :=
  let making : Action Program.silence Heap (Boxed Content) := Boxed.new c.size c.align c
  match (making h).outcome.1 with
  | (.error e, h) => (.error (e, 1), h)
  | (.ok b, h) =>
    let changed := b.modify Content.changed
    (.ok { before := b.value, after := changed.value, live := 0, drops := 1 }, changed.drop h)

end BusAccess.Block
