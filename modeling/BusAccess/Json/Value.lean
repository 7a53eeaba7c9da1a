/-!
# Documents

The values of the JSON data format.  A document keeps what a decoder may have to look at and a
plain tree of values would lose: the members of an object in their order and with repetitions, and
whether a number is written as an integer.

A string may contain half of a surrogate pair, which no text can hold.  Such a string is well
formed as long as nobody needs its text, so it is kept as a string without text.
-/

set_option autoImplicit false

namespace BusAccess.Json

/-- A document. -/
inductive Value where
  | null
  | boolean (value : Bool)
  /-- A number written without fraction, exponent or a sign on zero. -/
  | integer (value : Int)
  /-- Any other number, as it is written. -/
  | decimal (literal : String)
  /-- A string, `none` if it has no text. -/
  | string (text : Option String)
  | array (items : List Value)
  /-- Names and values in the order they are written. -/
  | object (members : List (Option String × Value))
  deriving Repr

namespace Value

/-- A string with the given text. -/
def ofString (s : String) : Value := string (some s)

/-- A natural number. -/
def ofNat (n : Nat) : Value := integer n

/-- A value that may be missing; `null` says that it is. -/
def ofOption {α : Type} (encode : α → Value) : Option α → Value
  | none => null
  | some a => encode a

/-- An object with the given members. -/
def record (members : List (String × Value)) : Value :=
  object (members.map fun m ↦ (some m.1, m.2))

/-- The first member of a given name. -/
def member? (name : String) : Value → Option Value
  | object members => (members.find? fun m ↦ m.1 == some name).map Prod.snd
  | _ => none

/-- The first member of a given name that is not `null`. -/
def present? (name : String) (v : Value) : Option Value :=
  match v.member? name with
  | none | some null => none
  | some w => some w

/-- The text, if the value is a string with a text. -/
def toString? : Value → Option String
  | string text => text
  | _ => none

/-- The number, if the value is an integer. -/
def toInt? : Value → Option Int
  | integer n => some n
  | _ => none

/-- The truth value, if the value is one. -/
def toBool? : Value → Option Bool
  | boolean b => some b
  | _ => none

/-- The items, if the value is an array. -/
def toList? : Value → Option (List Value)
  | array items => some items
  | _ => none

end Value

end BusAccess.Json
