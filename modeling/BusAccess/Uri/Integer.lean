import BusAccess.Uri.Cursor

/-!
# Integers in connection strings and settings

`readInteger` reads an integer from the start of a text: blanks, a sign, an optional `0x` where
the base is 16 or left open, and the digits.  Base 0 leaves the base open: 16 after `0x`, 8 after
a leading zero, 10 otherwise.  The value is clamped to 64 bits, and the length says how much of
the text was read; a text without digits has length and value 0.

Only five of the six separators of ASCII are blanks here; the vertical tab is not.

`wordOfDigits?` is for texts that are a number as a whole.  It knows no blanks and no marks, and a
number that is too large is none.
-/

set_option autoImplicit false

namespace BusAccess.Uri

/-- The blanks allowed before a number: space, tab, line feed, form feed, carriage return. -/
def isNumberBlank (c : Char) : Bool :=
  c == ' ' || c == '\t' || c == '\n' || c == '\x0c' || c == '\r'

/-- The value of a letter or digit in bases up to 36. -/
def digitValue (c : Char) : Option Nat :=
  if '0' ≤ c ∧ c ≤ '9' then some (c.toNat - 48)
  else if 'a' ≤ c ∧ c ≤ 'z' then some (c.toNat - 87)
  else if 'A' ≤ c ∧ c ≤ 'Z' then some (c.toNat - 55)
  else none

/-- Whether a character is a digit of the given base. -/
def isDigitOf (base : Nat) (c : Char) : Bool :=
  match digitValue c with
  | some d => d < base
  | none => false

/-- The natural number that digits spell in a base, the first digit weighing most. -/
def natOfDigits (base : Nat) (ds : List Char) : Nat :=
  ds.foldl (fun n c ↦ n * base + (digitValue c).getD 0) 0

/-- The number below `size` that a text spells in a base, with a plus in front or without. -/
def wordOfDigits? (size base : Nat) (cs : List Char) : Option Nat :=
  let digits := if cs.head? = some '+' then cs.tail else cs
  let n := natOfDigits base digits
  if !digits.isEmpty && digits.all (isDigitOf base) && n < size then some n else none

/-- The least value that an integer is clamped to. -/
def minInteger : Int := -0x8000000000000000

/-- The greatest value that an integer is clamped to. -/
def maxInteger : Int := 0x7fffffffffffffff

/-- The value in range that is nearest to `v`. -/
def clamp (v : Int) : Int := max minInteger (min maxInteger v)

/-- An integer at the start of a text: how many characters spell it, and its value. -/
structure Numeral where
  /-- How many characters spell it. -/
  length : Nat
  /-- The value, kept in range. -/
  value : Int
  deriving DecidableEq, Repr

/-- The sign at the start of a text, if any: whether it is negative, and its length. -/
def readSign : List Char → Bool × Nat
  | '-' :: _ => (true, 1)
  | '+' :: _ => (false, 1)
  | _ => (false, 0)

/-- Whether a text starts with `0x` and a hexadecimal digit. -/
def hasHexMark : List Char → Bool
  | '0' :: x :: d :: _ => (x == 'x' || x == 'X') && isDigitOf 16 d
  | _ => false

/-- The base in which the digits of an unsigned text are read, and the length of the mark in
front of them. -/
def chooseBase (base : Nat) (cs : List Char) : Nat × Nat :=
  if (base = 0 ∨ base = 16) ∧ hasHexMark cs then (16, 2)
  else if base = 0 then (if cs.head? = some '0' then 8 else 10, 0)
  else (base, 0)

/-- Reads an integer from the start of a text. -/
def readInteger (base : Nat) (cs : List Char) : Numeral :=
  let blanks := (cs.takeWhile isNumberBlank).length
  let unblanked := cs.drop blanks
  let (negative, sign) := readSign unblanked
  let unsigned := unblanked.drop sign
  let (radix, mark) := chooseBase base unsigned
  let digits := (unsigned.drop mark).takeWhile (isDigitOf radix)
  if digits.isEmpty then ⟨0, 0⟩
  else
    let magnitude : Int := natOfDigits radix digits
    ⟨blanks + sign + mark + digits.length, clamp (if negative then -magnitude else magnitude)⟩

/-- Whether integers can be read in a base: open, or from 2 to 36. -/
def validBase (base : Nat) : Bool := base ≠ 1 && base ≤ 36

namespace Cursor

/-- Reads an integer at a cursor.  An impossible base is refused before a missing source. -/
def scanInteger (c : Cursor) (base : Nat) (flags : Flags) : Except Error (Numeral × Cursor) :=
  if !validBase base then .error .invalidArgument
  else match c.left with
    | none => .error .invalidUri
    | some cs =>
      let found := readInteger base cs
      .ok (found, if flags.preserves then c else c.skip found.length)

end Cursor

/-- Reads an integer in a base, `none` if there is none at this place. -/
def Scan.integer {ε : Type} (base : Nat) : Scan ε (Option Int) := fun c ↦
  let found := readInteger base c.rest
  .ok (if found.length = 0 then none else some found.value, c.skip found.length)

/-- The value of an integer that is a bus number: 32 bits without a sign. -/
def toBusNumber? (v : Int) : Option UInt32 :=
  if 0 ≤ v ∧ v < UInt32.size then some (UInt32.ofNat v.toNat) else none

/-- The path of a connection string: nothing, a slash, or a slash and a bus number. -/
def Scan.busNumberPath {ε : Type} (fault : ε) : Scan ε (Option UInt32) := do
  if ← literal "/" then
    match ← integer 10 with
    | none => return none
    | some v =>
      match toBusNumber? v with
      | some n => return some n
      | none => throw fault
  else return none

end BusAccess.Uri
