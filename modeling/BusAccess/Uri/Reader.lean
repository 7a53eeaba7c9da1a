import BusAccess.Uri.Integer

/-!
# Reading by offsets

A `Cursor` has its source split in two.  A `Reader` reads the same source as it lies in memory: the
source stays whole, and the place is a number of bytes from its start.  Nothing in the type keeps this
number from pointing into the middle of a character.

Two views of the source meet here.  A scan goes through characters, and counts them and their bytes
(`Progress`); an integer is read from the bytes, one after another, whatever character they are part
of.  Only in the end its digits are cut out of the text, by the offsets where they start and stop.
There is no such cut inside a character: then the reader has no answer at all (`none`), and this is
not one of the errors that a caller could see.

The events of scans and integers, which are at the level of a trace, are left out here as they are for
cursors.
-/

set_option autoImplicit false

namespace BusAccess.Uri

/-! ## Texts as bytes -/

/-- The bytes of a text in UTF-8. -/
def encode (cs : List Char) : List UInt8 := cs.flatMap String.utf8EncodeChar

/-- A text cut in two behind its first `n` bytes.  It cannot be cut inside a character, nor behind
its end. -/
def cut? : Nat → List Char → Option (List Char × List Char)
  | 0, cs => some ([], cs)
  | _ + 1, [] => none
  | n + 1, c :: cs =>
    if c.utf8Size ≤ n + 1 then
      (cut? (n + 1 - c.utf8Size) cs).map fun (front, back) ↦ (c :: front, back)
    else none

/-- The piece of a text between two offsets. -/
def slice? (start stop : Nat) (cs : List Char) : Option (List Char) := do
  let (_, back) ← cut? start cs
  let (piece, _) ← cut? (stop - start) back
  return piece

/-- The bytes of a text, each of them taken for a character. -/
def bytewise (cs : List Char) : List Char := (encode cs).map Char.ofUInt8

/-- The first offset from a given one on where a test fails. -/
def walk (test : Char → Bool) (bytes : List Char) (i : Nat) : Nat :=
  i + ((bytes.drop i).takeWhile test).length

/-! ## Scans in progress -/

/-- Empties a buffer. -/
def Capture.clear (b : Capture) : Capture := { b with text := [] }

/-- Adds a character if it fits, and tells whether it did. -/
def Capture.push (b : Capture) (c : Char) : Bool × Capture :=
  if b.fits c then (true, { b with text := b.text ++ [c] }) else (false, b)

/-- What a scan has come to. -/
structure Progress where
  /-- How many characters are matched. -/
  consumed : Nat := 0
  /-- How many bytes these are. -/
  bytes : Nat := 0
  /-- What is still to come of a fixed text. -/
  expected : List Char := []
  /-- What is kept of the match so far. -/
  capture : Option Capture := none
  /-- Whether the buffer has refused a character. -/
  full : Bool := false
  deriving DecidableEq, Repr

/-- What a pattern expects, if it is a fixed text. -/
def Pattern.expected : Pattern → List Char
  | .literal text => text.toList
  | _ => []

/-- Whether a pattern matches the next character, given what is still to come of a fixed text. -/
def Pattern.accepts (p : Pattern) (expected : List Char) (c : Char) : Bool :=
  match p with
  | .literal _ => expected.head? == some c
  | .among set => set.toList.contains c
  | .until set => !set.toList.contains c

namespace Progress

/-- Nothing has come yet. -/
def start (p : Pattern) (buffer : Option Capture) : Progress :=
  { expected := p.expected, capture := buffer.map Capture.clear }

/-- The buffer after one more character: it is offered the character unless it has refused one. -/
def keep (s : Progress) (c : Char) : Progress :=
  match s.capture with
  | none => s
  | some b =>
    if s.full then s
    else
      let (kept, b) := b.push c
      { s with capture := some b, full := !kept }

/-- One more character is matched. -/
def take (s : Progress) (c : Char) : Progress :=
  { s.keep c with
    consumed := s.consumed + 1, bytes := s.bytes + c.utf8Size, expected := s.expected.tail }

/-- Goes on to the first character that does not match. -/
def run (p : Pattern) : List Char → Progress → Progress
  | [], s => s
  | c :: cs, s => if p.accepts s.expected c then run p cs (s.take c) else s

end Progress

/-! ## Integers in bytes -/

/-- The number that digits spell, if it fits into 64 bits with a sign. -/
def magnitude? (base : Nat) (digits : List Char) : Option Int :=
  if (natOfDigits base digits : Int) ≤ maxInteger then some (natOfDigits base digits) else none

/-- A number with its sign.  One that does not fit is the extreme one on its side. -/
def signed (negative : Bool) : Option Int → Int
  | some v => if negative then -v else v
  | none => if negative then minInteger else maxInteger

/-- Reads an integer from the bytes of a text, if its digits can be cut out of the text. -/
def readBytes? (base : Nat) (cs : List Char) : Option Numeral :=
  let bytes := bytewise cs
  let blanks := walk isNumberBlank bytes 0
  let (negative, sign) := readSign (bytes.drop blanks)
  let (radix, mark) := chooseBase base (bytes.drop (blanks + sign))
  let start := blanks + sign + mark
  let stop := walk (isDigitOf radix) bytes start
  if stop = start then some ⟨0, 0⟩
  else (slice? start stop cs).map fun digits ↦ ⟨stop, signed negative (magnitude? radix digits)⟩

/-! ## Readers -/

/-- A place in a source that may be missing. -/
structure Reader where
  /-- The whole text. -/
  source : Option String
  /-- How many bytes of the source are consumed. -/
  position : Nat := 0
  deriving DecidableEq, Repr

namespace Reader

/-- A reader at the start of a source. -/
def ofSource (source : Option String) : Reader := { source }

/-- Whether there is a source. -/
def hasSource (r : Reader) : Bool := r.source.isSome

/-- What is left, unless the reader is inside a character; nothing without a source. -/
def rest? (r : Reader) : Option (List Char) :=
  match r.source with
  | none => some []
  | some source => (cut? r.position source.toList).map Prod.snd

/-- What is left, as far as calls go by it. -/
def rest (r : Reader) : List Char := r.rest?.getD []

/-- A reader so many bytes further on, unless it is to stay where it is. -/
def advance (r : Reader) (flags : Flags) (n : Nat) : Reader :=
  if flags.preserves then r else { r with position := r.position + n }

/-- One scan: its count, the buffer and the reader after it.  Without a source it is refused before
the buffer is emptied.  A fixed text that did not come to its end counts for nothing. -/
def scan (r : Reader) (p : Pattern) (flags : Flags) (buffer : Option Capture) :
    Except Error Nat × Option Capture × Reader :=
  match r.source with
  | none => (.error .invalidUri, buffer, r)
  | some _ =>
    let s := Progress.run p r.rest (.start p buffer)
    if s.expected.isEmpty then (.ok s.consumed, s.capture, r.advance flags s.bytes)
    else (.ok 0, s.capture.map Capture.clear, r)

/-- Reads an integer.  An impossible base is refused before a missing source. -/
def integer (r : Reader) (base : Nat) (flags : Flags) : Option (Except Error Numeral × Reader) :=
  if !validBase base then some (.error .invalidArgument, r)
  else match r.source with
    | none => some (.error .invalidUri, r)
    | some _ => (readBytes? base r.rest).map fun found ↦ (.ok found, r.advance flags found.length)

/-- What a reader can be asked to do. -/
inductive Call where
  | scan (p : Pattern) (flags : Flags) (buffer : Option Capture)
  | integer (base : Nat) (flags : Flags)
  deriving DecidableEq, Repr

/-- What a call is answered with; a scan hands its buffer back. -/
inductive Answer where
  | scanned (count : Except Error Nat) (buffer : Option Capture)
  | integer (found : Except Error Numeral)

/-- Does what is asked, if there is an answer. -/
def call (r : Reader) : Call → Option (Answer × Reader)
  | .scan p flags buffer =>
    let (count, buffer, r) := r.scan p flags buffer
    some (.scanned count buffer, r)
  | .integer base flags => (r.integer base flags).map fun (found, r) ↦ (.integer found, r)

/-- Does what is asked, one call after another. -/
def calls (r : Reader) : List Call → Option (List Answer × Reader)
  | [] => some ([], r)
  | c :: cs => do
    let (answer, r) ← r.call c
    let (answers, r) ← r.calls cs
    return (answer :: answers, r)

end Reader

end BusAccess.Uri
