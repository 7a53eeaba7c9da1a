import BusAccess.Json.Value

/-!
# Reading documents

`read?` accepts exactly the texts of RFC 8259: one value with blanks around it.  The blanks of the
format are space, tab, line feed and carriage return; control characters inside a string have to
be escaped; and a number may not have leading zeros.

The reader goes down into arrays and objects, so it carries a bound on its depth and breadth.
Every step that uses the bound up consumes a character or follows one that did, so a bound of
twice the length of the text is never reached.

`read?` is the reader of the library that runs, `Library.native`.  Theorems about documents are about any
lawful library.
-/

set_option autoImplicit false

namespace BusAccess.Json

/-- Whether a character separates the tokens of a document. -/
def isSpace (c : Char) : Bool := c == ' ' || c == '\t' || c == '\n' || c == '\r'

/-- The text without the separators in front of it. -/
def skipSpace (cs : List Char) : List Char := cs.dropWhile isSpace

/-! ## Strings -/

/-- The value of a hexadecimal digit. -/
def hexValue? (c : Char) : Option Nat :=
  if '0' ≤ c ∧ c ≤ '9' then some (c.toNat - 48)
  else if 'a' ≤ c ∧ c ≤ 'f' then some (c.toNat - 87)
  else if 'A' ≤ c ∧ c ≤ 'F' then some (c.toNat - 55)
  else none

/-- The number that four hexadecimal digits spell, and what follows them. -/
def readUnit? : List Char → Option (Nat × List Char)
  | a :: b :: c :: d :: rest => do
    let a ← hexValue? a
    let b ← hexValue? b
    let c ← hexValue? c
    let d ← hexValue? d
    return (((a * 16 + b) * 16 + c) * 16 + d, rest)
  | _ => none

/-- The character that a one-letter escape stands for. -/
def escaped? : Char → Option Char
  | '"' => some '"'
  | '\\' => some '\\'
  | '/' => some '/'
  | 'b' => some '\x08'
  | 'f' => some '\x0c'
  | 'n' => some '\n'
  | 'r' => some '\r'
  | 't' => some '\t'
  | _ => none

/-- One element of a string: a character, or half of a surrogate pair, which is none. -/
abbrev Element := Option Char

/-- The element that a numeric escape stands for, given what follows the letter `u`: a pair of
escapes may spell one character. -/
def readEscape? (cs : List Char) : Option (Element × List Char) := do
  let (u, rest) ← readUnit? cs
  if 0xd800 ≤ u ∧ u < 0xdc00 then
    match rest with
    | '\\' :: 'u' :: more =>
      match readUnit? more with
      | some (v, rest') =>
        if 0xdc00 ≤ v ∧ v < 0xe000 then
          return (some (Char.ofNat (0x10000 + (u - 0xd800) * 0x400 + (v - 0xdc00))), rest')
        else return (none, rest)
      | none => return (none, rest)
    | _ => return (none, rest)
  else if 0xdc00 ≤ u ∧ u < 0xe000 then return (none, rest)
  else return (some (Char.ofNat u), rest)

/-- The elements of a string up to its closing quote, and what follows it. -/
def readElements? : Nat → List Char → List Element → Option (List Element × List Char)
  | 0, _, _ => none
  | _ + 1, [], _ => none
  | bound + 1, c :: cs, acc =>
    if c = '"' then some (acc.reverse, cs)
    else if c = '\\' then
      match cs with
      | 'u' :: rest => do
        let (e, rest) ← readEscape? rest
        readElements? bound rest (e :: acc)
      | d :: rest => do
        let e ← escaped? d
        readElements? bound rest (some e :: acc)
      | [] => none
    else if c.toNat < 0x20 then none
    else readElements? bound cs (some c :: acc)

/-- The text of a string, `none` if some element is no character. -/
def textOf (es : List Element) : Option String := (es.mapM id).map String.ofList

/-- A string whose opening quote is already read. -/
def readString? (cs : List Char) : Option (Option String × List Char) := do
  let (es, rest) ← readElements? (cs.length + 1) cs []
  return (textOf es, rest)

/-! ## Numbers -/

/-- The value of a run of decimal digits. -/
def natOfDecimals (ds : List Char) : Nat := ds.foldl (fun n c ↦ n * 10 + (c.toNat - 48)) 0

/-- The digits at the start of a text, at least one, and what follows them. -/
def readDigits? (cs : List Char) : Option (List Char × List Char) :=
  let ds := cs.takeWhile Char.isDigit
  if ds.isEmpty then none else some (ds, cs.dropWhile Char.isDigit)

/-- The digits before the point: zero stands alone. -/
def readWhole? (cs : List Char) : Option (List Char × List Char) := do
  let (ds, rest) ← readDigits? cs
  if ds.head? = some '0' ∧ ds.length > 1 then none else return (ds, rest)

/-- A fraction, if there is a point. -/
def readFraction? : List Char → Option (List Char × List Char)
  | '.' :: rest => do
    let (ds, rest) ← readDigits? rest
    return ('.' :: ds, rest)
  | cs => some ([], cs)

/-- An exponent, if there is its letter. -/
def readExponent? : List Char → Option (List Char × List Char)
  | e :: rest =>
    if e = 'e' ∨ e = 'E' then
      match rest with
      | '+' :: more => do
        let (ds, rest) ← readDigits? more
        return (e :: '+' :: ds, rest)
      | '-' :: more => do
        let (ds, rest) ← readDigits? more
        return (e :: '-' :: ds, rest)
      | more => do
        let (ds, rest) ← readDigits? more
        return (e :: ds, rest)
    else some ([], e :: rest)
  | [] => some ([], [])

/-- A number without its sign. -/
def readNumber? (negative : Bool) (cs : List Char) : Option (Value × List Char) := do
  let (whole, rest) ← readWhole? cs
  let (fraction, rest) ← readFraction? rest
  let (exponent, rest) ← readExponent? rest
  let sign := if negative then ['-'] else []
  let n := natOfDecimals whole
  if fraction.isEmpty ∧ exponent.isEmpty ∧ ¬(negative ∧ n = 0) then
    return (.integer (if negative then -n else n), rest)
  else return (.decimal (String.ofList (sign ++ whole ++ fraction ++ exponent)), rest)

/-! ## Values -/

/-- What follows a word, if the text starts with it. -/
def dropWord? (word : String) (cs : List Char) : Option (List Char) :=
  if word.toList.isPrefixOf cs then some (cs.drop word.toList.length) else none

mutual

/-- A value at the start of a text, and what follows it. -/
def readValue? : Nat → List Char → Option (Value × List Char)
  | 0, _ => none
  | bound + 1, cs =>
    match skipSpace cs with
    | [] => none
    | '"' :: rest => do
      let (text, rest) ← readString? rest
      return (.string text, rest)
    | '[' :: rest =>
      match skipSpace rest with
      | ']' :: rest => some (.array [], rest)
      | rest => do
        let (items, rest) ← readItems? bound rest
        return (.array items, rest)
    | '\x7b' :: rest =>
      match skipSpace rest with
      | '\x7d' :: rest => some (.object [], rest)
      | rest => do
        let (members, rest) ← readMembers? bound rest
        return (.object members, rest)
    | '-' :: rest => readNumber? true rest
    | 't' :: rest => (dropWord? "rue" rest).map fun rest ↦ (.boolean true, rest)
    | 'f' :: rest => (dropWord? "alse" rest).map fun rest ↦ (.boolean false, rest)
    | 'n' :: rest => (dropWord? "ull" rest).map fun rest ↦ (.null, rest)
    | rest => readNumber? false rest

/-- One or more items and the closing bracket. -/
def readItems? : Nat → List Char → Option (List Value × List Char)
  | 0, _ => none
  | bound + 1, cs => do
    let (item, rest) ← readValue? bound cs
    match skipSpace rest with
    | ',' :: rest =>
      let (items, rest) ← readItems? bound rest
      return (item :: items, rest)
    | ']' :: rest => return ([item], rest)
    | _ => none

/-- One or more members and the closing brace. -/
def readMembers? : Nat → List Char → Option (List (Option String × Value) × List Char)
  | 0, _ => none
  | bound + 1, cs =>
    match skipSpace cs with
    | '"' :: rest => do
      let (name, rest) ← readString? rest
      match skipSpace rest with
      | ':' :: rest =>
        let (value, rest) ← readValue? bound rest
        match skipSpace rest with
        | ',' :: rest =>
          let (members, rest) ← readMembers? bound rest
          return ((name, value) :: members, rest)
        | '\x7d' :: rest => return ([(name, value)], rest)
        | _ => none
      | _ => none
    | _ => none

end

/-- Reads a document; nothing but separators may follow its value. -/
def read? (text : String) : Option Value := do
  let cs := text.toList
  let (value, rest) ← readValue? (2 * cs.length + 2) cs
  if (skipSpace rest).isEmpty then return value else none

end BusAccess.Json
