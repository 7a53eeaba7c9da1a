import BusAccess.Json.Value

/-!
# Values in documents

A `Codec` says how values of a type are written in a document and which documents are read as
such a value.  Reading is strict about kinds: a number with a fraction is no integer, however
small the fraction, and an integer out of range is refused rather than cut off.

A record is written as an object with all its fields.  It is read as an *overlay* on the record of
default values: the members that are given replace their fields, members of other names are
skipped, and a field that is given twice is a mistake.  A record may also be read from an array of
the values of its first fields in order.

This is how the library works that runs, `Library.native`.  Theorems about documents are about any
lawful library.
-/

set_option autoImplicit false

namespace BusAccess.Json

/-- How a type is written in documents and read from them. -/
structure Codec (α : Type) where
  /-- What a value is written as. -/
  encode : α → Value
  /-- The value that a document is read as, if it is one. -/
  decode? : Value → Option α

namespace Codec

variable {α : Type}

/-- Texts. -/
def text : Codec String where
  encode := .ofString
  decode? := Value.toString?

/-- Integers of 32 bits without a sign. -/
def uint32 : Codec UInt32 where
  encode n := .ofNat n.toNat
  decode?
    | .integer n => if 0 ≤ n ∧ n < UInt32.size then some (UInt32.ofNat n.toNat) else none
    | _ => none

/-- Integers of 32 bits with a sign. -/
def int32 : Codec Int32 where
  encode n := .integer n.toInt
  decode?
    | .integer n => if -0x80000000 ≤ n ∧ n < 0x80000000 then some (Int32.ofInt n) else none
    | _ => none

/-- Values that may be missing, where `null` stands for a missing one. -/
def option (c : Codec α) : Codec (Option α) where
  encode := Value.ofOption c.encode
  decode?
    | .null => some none
    | v => (c.decode? v).map some

/-- One of a list of named values: its name, or an object that gives the name a `null`. -/
def named (all : List α) (name : α → String) : Codec α where
  encode a := .ofString (name a)
  decode?
    | .string (some s) => all.find? fun a ↦ name a == s
    | .object [(some s, .null)] => all.find? fun a ↦ name a == s
    | _ => none

end Codec

/-! ## Records -/

/-- A field of a record type. -/
structure Field (ρ : Type) where
  /-- The name that the field has in documents. -/
  name : String
  /-- The field's value in a record. -/
  encode : ρ → Value
  /-- The record with the field as a document says, if it does. -/
  put? : Value → ρ → Option ρ

/-- The field of a given name and type. -/
def Field.of {ρ α : Type} (name : String) (c : Codec α) (get : ρ → α) (set : α → ρ → ρ) :
    Field ρ where
  name := name
  encode r := c.encode (get r)
  put? v r := (c.decode? v).map fun a ↦ set a r

section Record

variable {ρ : Type}

/-- Puts the members of an object into a record; `seen` are the fields already given. -/
def overlay (fields : List (Field ρ)) :
    List (Option String × Value) → List String → ρ → Option ρ
  | [], _, r => some r
  | (none, _) :: _, _, _ => none
  | (some name, v) :: rest, seen, r =>
    match fields.find? fun f ↦ f.name == name with
    | none => overlay fields rest seen r
    | some f =>
      if seen.contains name then none
      else (f.put? v r).bind fun r ↦ overlay fields rest (name :: seen) r

/-- Puts values into the fields of a record in order; there may be fewer values than fields. -/
def overlayInOrder : List (Field ρ) → List Value → ρ → Option ρ
  | _, [], r => some r
  | [], _ :: _, _ => none
  | f :: fields, v :: vs, r => (f.put? v r).bind fun r ↦ overlayInOrder fields vs r

/-- A record type with its fields in order and the record of default values. -/
def Codec.record (fields : List (Field ρ)) (default : ρ) : Codec ρ where
  encode r := .record (fields.map fun f ↦ (f.name, f.encode r))
  decode?
    | .object members => overlay fields members [] default
    | .array items => overlayInOrder fields items default
    | _ => none

end Record

end BusAccess.Json
