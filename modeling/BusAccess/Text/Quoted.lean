import BusAccess.Text.Hidden

/-!
# Quoted text

Descriptions for people put texts in double quotes.  The quote, the backslash and the common
controls are escaped by a letter, other hidden characters by their code point in hexadecimal, as
in `\u{7f}`.  Single quotes stand for themselves.
-/

set_option autoImplicit false

namespace BusAccess.Text

/-- The letter that escapes a character, if there is one. -/
def escapeLetter? (c : Char) : Option Char :=
  match c with
  | '\x00' => some '0'
  | '\t' => some 't'
  | '\n' => some 'n'
  | '\r' => some 'r'
  | '"' => some '"'
  | '\\' => some '\\'
  | _ => none

/-- One character between quotes. -/
def quoteChar (c : Char) : List Char :=
  match escapeLetter? c with
  | some letter => ['\\', letter]
  | none =>
    if isHidden c then
      ['\\', 'u', '\x7b'] ++ Nat.toDigits 16 c.toNat ++ ['\x7d']
    else [c]

/-- A text in quotes. -/
def quoted (s : String) : String := String.ofList ('"' :: s.toList.flatMap quoteChar ++ ['"'])

/-- A text that may be missing. -/
def quotedOption : Option String → String
  | none => "None"
  | some s => "Some(" ++ quoted s ++ ")"

/-- A list of texts. -/
def quotedList (ss : List String) : String := "[" ++ ", ".intercalate (ss.map quoted) ++ "]"

/-- A record as its type's name and its fields, each a name and the description of its value.  An
open record does not show all its fields. -/
def describeRecord (type : String) (fields : List (String × String)) (isOpen : Bool) : String :=
  let parts := fields.map fun f ↦ f.1 ++ ": " ++ f.2
  let parts := if isOpen then parts ++ [".."] else parts
  type ++ " \x7b " ++ ", ".intercalate parts ++ " \x7d"

end BusAccess.Text
