import BusAccess.Json.Value

/-!
# Writing documents

A document is written on one line without separators.  In strings only the quote, the backslash
and the control characters are escaped.

`write` is the writer of the library that runs, `Library.native`.  Theorems about documents are about any
lawful library.
-/

set_option autoImplicit false

namespace BusAccess.Json

/-- A hexadecimal digit in lower case. -/
def hexDigit (n : Nat) : Char := if n < 10 then Char.ofNat (48 + n) else Char.ofNat (87 + n)

/-- One character inside a string. -/
def escape (c : Char) : List Char :=
  if c = '"' then ['\\', '"']
  else if c = '\\' then ['\\', '\\']
  else if c.toNat < 0x20 then
    ['\\', 'u', '0', '0', hexDigit (c.toNat / 16), hexDigit (c.toNat % 16)]
  else [c]

/-- A string with its quotes. -/
def writeString (s : String) : String :=
  String.ofList ('"' :: s.toList.flatMap escape ++ ['"'])

mutual

/-- A document as text.  A string without text is written as the empty one. -/
def write : Value → String
  | .null => "null"
  | .boolean true => "true"
  | .boolean false => "false"
  | .integer n => toString n
  | .decimal literal => literal
  | .string text => writeString (text.getD "")
  | .array items => "[" ++ writeItems items ++ "]"
  | .object members => "\x7b" ++ writeMembers members ++ "\x7d"

/-- The items of an array with commas between them. -/
def writeItems : List Value → String
  | [] => ""
  | [v] => write v
  | v :: w :: vs => write v ++ "," ++ writeItems (w :: vs)

/-- The members of an object with commas between them. -/
def writeMembers : List (Option String × Value) → String
  | [] => ""
  | [(name, v)] => writeString (name.getD "") ++ ":" ++ write v
  | (name, v) :: w :: vs =>
    writeString (name.getD "") ++ ":" ++ write v ++ "," ++ writeMembers (w :: vs)

end

end BusAccess.Json
