import BusAccess.Error

/-!
# The layout of a block

A block holds a public region and, behind it, an optional private region:

```text
+--------+----------------+-----------------+
| header | public (size0) | private (size1) |
+--------+----------------+-----------------+
         ^ the block's pointer
```

Every region is rounded up to the size of a pointer.  The header records the size of the two
regions together.  Where there is a private region, its address is written into the public region
at an offset of the caller's choice, which has to leave room for it.

All sizes are 64-bit words.  `Layout.ofSizes` decides whether a layout exists before anything is
computed from it, so that no sum here is ever cut off.
-/

set_option autoImplicit false

namespace BusAccess.Block

/-- The size and alignment of a pointer, and of the header. -/
def wordSize : UInt64 := 8

/-- Rounds `n` up to a multiple of `align`, a power of two; `none` if that exceeds a word. -/
def alignUp? (n align : UInt64) : Option UInt64 :=
  let top := n.toNat + (align - 1).toNat
  if top < UInt64.size then some (UInt64.ofNat top &&& ~~~(align - 1)) else none

/-- The sum of two words, `none` if it exceeds a word. -/
def checkedAdd? (a b : UInt64) : Option UInt64 :=
  if a.toNat + b.toNat < UInt64.size then some (a + b) else none

/-- The largest size that may be asked of an allocator: what rounds up to a multiple of a word
below half of the address space. -/
def maxTotal : UInt64 := 0x7ffffffffffffff8

/-- The size of a whole block with its header, if an allocator may be asked for it. -/
def totalSize? (payload : UInt64) : Option UInt64 :=
  match checkedAdd? wordSize payload with
  | some total => if total ≤ maxTotal then some total else none
  | none => none

/-- The regions of a block. -/
structure Layout where
  /-- The size of the public region. -/
  publicSize : UInt64
  /-- The size of the private region. -/
  privateSize : UInt64
  /-- Where in the public region the address of the private region is written. -/
  offset : UInt64
  deriving DecidableEq, Repr

namespace Layout

/-- The size of both regions, which the header records. -/
def payload (l : Layout) : UInt64 := l.publicSize + l.privateSize

/-- Whether the address of the private region fits at an offset. -/
def slotFits (publicSize offset : UInt64) : Bool :=
  match checkedAdd? offset wordSize with
  | some last => offset % wordSize = 0 && last ≤ publicSize
  | none => false

/-- The layout for two sizes and an offset, with the size of the whole block.  The offset matters
only if there is a private region. -/
def ofSizes (size0 offset size1 : UInt64) : Except Error (Layout × UInt64) :=
  match alignUp? size0 wordSize, alignUp? size1 wordSize with
  | none, _ => .error .noMemory
  | some _, none => .error .noMemory
  | some publicSize, some privateSize =>
    if 0 < privateSize ∧ slotFits publicSize offset = false then .error .invalidParam
    else
      match (checkedAdd? publicSize privateSize).bind totalSize? with
      | none => .error .noMemory
      | some total => .ok (⟨publicSize, privateSize, offset⟩, total)

end Layout

end BusAccess.Block
