import BusAccess.Json.Reader
import BusAccess.Json.Record
import BusAccess.Json.Writer

/-!
# Libraries for documents

A type that can stand in a document only says what it is made of: a record its fields, with their names,
their types and what they are when they are missing; a list of named values the names.  What becomes of
this in a document, and how documents are written as texts, is up to a `Library`.

`Library.native` is the one that runs, and an instance to try theorems on.  Its parts are those of
`Record`, `Reader` and `Writer`.
-/

set_option autoImplicit false

namespace BusAccess.Json

/-- What a library makes of types, and of documents. -/
structure Library where
  /-- Texts. -/
  text : Codec String
  /-- Integers of 32 bits without a sign. -/
  uint32 : Codec UInt32
  /-- Integers of 32 bits with a sign. -/
  int32 : Codec Int32
  /-- Values that may be missing. -/
  option : {α : Type} → Codec α → Codec (Option α)
  /-- One of a list of named values. -/
  named : {α : Type} → List α → (α → String) → Codec α
  /-- A record type with its fields in order.  A field that a document does not give has its value from
  the record of default values. -/
  record : {ρ : Type} → List (Field ρ) → ρ → Codec ρ
  /-- The document that a text spells. -/
  parse? : String → Option Value
  /-- A document as text. -/
  print : Value → String

/-- The library that runs. -/
def Library.native : Library where
  text := .text
  uint32 := .uint32
  int32 := .int32
  option := .option
  named := .named
  record := .record
  parse? := read?
  print := write

end BusAccess.Json
