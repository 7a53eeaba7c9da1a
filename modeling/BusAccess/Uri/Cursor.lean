import BusAccess.Error

/-!
# Reading connection strings

A connection string looks like `scheme[://[authority]][/path]`, but every backend accepts a shape
of its own.  So there is no common grammar; a backend strings together a few scans on a `Cursor`,
each of which consumes the longest piece of the rest that its `Pattern` allows.  A scan that
consumes nothing is not an error, and the caller can try something else at the same place.

A cursor splits its source in two, the characters passed and the characters left, so it can only
stand between two characters.  Its `position` counts the bytes of the passed part.

A cursor may have no source at all.  Then `Cursor.scan` is refused, where at the end of a source
it merely matches nothing.

`Scan ε` is how the grammars of the backends are written: steps on a cursor that has a source, any
of which may find a fault `ε`.

A scan also reports each character that it looks at, and an integer that has no digits, at the level
of a trace.  These events carry nothing that is not in the result, and they are left out here.
-/

set_option autoImplicit false

namespace BusAccess.Uri

/-- What one scan looks for. -/
inductive Pattern where
  /-- The whole text, in order, or nothing. -/
  | literal (text : String)
  /-- The longest run of characters that are in the set. -/
  | among (set : String)
  /-- The longest run of characters that are not in the set. -/
  | until (set : String)
  deriving DecidableEq, Repr

/-- The piece at the start of `cs` that a pattern takes. -/
def Pattern.matched (p : Pattern) (cs : List Char) : List Char :=
  match p with
  | .literal text => if text.toList.isPrefixOf cs then text.toList else []
  | .among set => cs.takeWhile fun c ↦ set.toList.contains c
  | .until set => cs.takeWhile fun c ↦ !set.toList.contains c

theorem Pattern.matched_isPrefix (p : Pattern) (cs : List Char) : p.matched cs <+: cs := by
  cases p with
  | literal text =>
    simp only [matched]
    split
    · next h => exact List.isPrefixOf_iff_prefix.1 h
    · exact List.nil_prefix
  | among set => exact List.takeWhile_prefix _
  | «until» set => exact List.takeWhile_prefix _

/-- The number of bytes of a text in UTF-8. -/
def byteLength (cs : List Char) : Nat := cs.foldr (fun c n ↦ c.utf8Size + n) 0

@[simp] theorem byteLength_nil : byteLength [] = 0 := rfl

@[simp] theorem byteLength_cons (c : Char) (cs : List Char) :
    byteLength (c :: cs) = c.utf8Size + byteLength cs := rfl

/-! ## Captures -/

/-- A buffer for what a scan consumes.  It stands for a growable string, or for a string in an array
of a fixed size: there the length is counted in bytes of UTF-8, and a character that does not fit
behind the others is refused and leaves the string as it was. -/
structure Capture where
  /-- The size of the array in bytes, `none` for a string that grows. -/
  capacity : Option Nat
  /-- What is in the buffer. -/
  text : List Char := []
  deriving DecidableEq, Repr

namespace Capture

/-- Whether one more character fits. -/
def fits (b : Capture) (c : Char) : Bool :=
  match b.capacity with
  | none => true
  | some n => byteLength b.text + c.utf8Size ≤ n

/-- Appends characters up to the first that does not fit; nothing after it is kept either. -/
def fill (b : Capture) : List Char → Capture
  | [] => b
  | c :: cs => if b.fits c then { b with text := b.text ++ [c] }.fill cs else b

/-- The buffer after a scan that consumed `cs`: nothing of its earlier content stays. -/
def store (b : Capture) (cs : List Char) : Capture := { b with text := [] }.fill cs

end Capture

/-- What a buffer of some size keeps of a piece, if it ends up with at least as many bytes as the
piece has characters. -/
def keep? (capacity : Nat) (piece : List Char) : Option (List Char) :=
  let kept := ((⟨some capacity, []⟩ : Capture).store piece).text
  if byteLength kept < piece.length then none else some kept

/-! ## Flags -/

/-- Modifiers of a scan, as bits. -/
structure Flags where
  /-- All modifiers together. -/
  bits : UInt8 := 0
  deriving DecidableEq, Repr

/-- The flag that leaves the cursor where it was.  The other bits mean nothing. -/
def Flags.preserve : Flags := ⟨0x10⟩

/-- Whether the cursor stays where it is. -/
def Flags.preserves (f : Flags) : Bool := f.bits &&& preserve.bits != 0

/-! ## Cursors -/

/-- A place between two characters of a source, or a cursor without a source. -/
structure Cursor where
  /-- What is already consumed. -/
  passed : List Char := []
  /-- What is left, `none` without a source. -/
  left : Option (List Char)
  deriving DecidableEq, Repr

/-- What a scan found. -/
structure Scanned where
  /-- How many characters were matched. -/
  count : Nat
  /-- The cursor behind the scan. -/
  cursor : Cursor
  /-- What is kept of the match. -/
  capture : Option Capture

namespace Cursor

/-- A cursor at the start of a source. -/
def ofString (source : String) : Cursor := ⟨[], some source.toList⟩

/-- A cursor at the start of a source that may be missing. -/
def ofSource (source : Option String) : Cursor := ⟨[], source.map String.toList⟩

/-- Whether there is a source. -/
def hasSource (c : Cursor) : Bool := c.left.isSome

/-- What is left; nothing without a source. -/
def rest (c : Cursor) : List Char := c.left.getD []

/-- Whether nothing is left. -/
def atEnd (c : Cursor) : Bool := c.rest.isEmpty

/-- How many bytes are consumed. -/
def position (c : Cursor) : Nat := byteLength c.passed

/-- The cursor `n` characters further on. -/
def skip (c : Cursor) (n : Nat) : Cursor :=
  ⟨c.passed ++ c.rest.take n, c.left.map (List.drop n)⟩

/-- The piece that a pattern takes here. -/
def matched (c : Cursor) (p : Pattern) : List Char := p.matched c.rest

/-- The cursor behind the piece that a pattern takes. -/
def advance (c : Cursor) (p : Pattern) : Cursor := c.skip (c.matched p).length

/-- One scan.  Without a source it is refused, and the cursor and the buffer stay as they are. -/
def scan (c : Cursor) (p : Pattern) (flags : Flags) (buffer : Option Capture) :
    Except Error Scanned :=
  match c.left with
  | none => .error .invalidUri
  | some _ =>
    let piece := c.matched p
    .ok {
      count := piece.length
      cursor := if flags.preserves then c else c.skip piece.length
      capture := buffer.map fun b ↦ b.store piece }

end Cursor

/-! ## Grammars -/

/-- A step in reading a connection string; `ε` is what can be wrong with the string. -/
abbrev Scan (ε : Type) : Type → Type := StateT Cursor (Except ε)

namespace Scan

variable {ε α : Type}

/-- Takes what a pattern takes. -/
def take (p : Pattern) : Scan ε (List Char) := fun c ↦ .ok (c.matched p, c.advance p)

/-- Takes a fixed text if it comes next, and tells whether it did. -/
def literal (text : String) : Scan ε Bool := fun c ↦
  .ok (!(c.matched (.literal text)).isEmpty, c.advance (.literal text))

/-- Demands that a test holds. -/
def demand (ok : Bool) (fault : ε) : Scan ε Unit := if ok then pure () else throw fault

/-- Goes on with a value that there has to be. -/
def require (value : Option α) (fault : ε) : Scan ε α :=
  match value with
  | some a => pure a
  | none => throw fault

/-- Demands that nothing is left. -/
def finish (fault : ε) : Scan ε Unit := do
  let c ← get
  demand c.atEnd fault

/-- Reads a whole source. -/
def parse (x : Scan ε α) (source : String) : Except ε α :=
  (x (.ofString source)).map Prod.fst

end Scan

end BusAccess.Uri
