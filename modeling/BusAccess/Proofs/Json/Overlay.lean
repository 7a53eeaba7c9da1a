import BusAccess.Bus.Gpio
import BusAccess.Bus.I2c
import BusAccess.Bus.Spi
import BusAccess.Config
import BusAccess.Proofs.Json.Laws
import Mathlib.Data.List.Nodup

/-!
# Partial documents

A configuration file says what differs from the defaults and nothing else.  So a record is read as an
overlay: it starts as the record of default values, and each member of the object replaces one field.
A member of another name is skipped, and a field that comes twice is a mistake, whatever the two say.

Which library does this is left open; it has to be one that is lawful (`Library.Lawful`).  Its laws say
what one more member does.  What an object yields as a whole then depends only on which fields it gives,
not on their order or on what stands between them (`Gives`), and the induction is on the members, from the
end of the object.  What carries it is that after some members the record has exactly the fields of `v`
that were given so far.  For that it has to be known of a record type how its values look that have some
fields of `v` and default values elsewhere, and that putting in one field more makes the next of them
(`Parts`).  The default of a record is its own, and not what the types of the fields have: a frequency
that is left out is not zero.

All fields together give the whole record, so what is written is read back, as a document and as text.
-/

set_option autoImplicit false

namespace BusAccess

namespace Json

variable {ρ α : Type} {lib : Library} {fields : List (Field ρ)} {default v : ρ} {S : List String}
  {members : List (Option String × Value)} {part : List String → ρ → ρ} {level : Nat}

/-! ## Codecs -/

/-- Whether what is written is read back. -/
def Codec.Lawful (c : Codec α) : Prop := ∀ a, c.decode? (c.encode a) = some a

namespace Library.Lawful

theorem text_lawful (hlib : lib.Lawful) : lib.text.Lawful := by
  intro s
  rw [hlib.encode_text, hlib.decode_text]

theorem uint32_lawful (hlib : lib.Lawful) : lib.uint32.Lawful := by
  intro n
  rw [hlib.encode_uint32, hlib.decode_uint32]

/-- A value that may be missing is read back if no value is written as a missing one. -/
theorem option_lawful (hlib : lib.Lawful) {c : Codec α} (hc : c.Lawful)
    (hnull : ∀ a, c.encode a ≠ .null) : (lib.option c).Lawful := by
  rintro (_ | a)
  · rw [hlib.encode_option]
    exact hlib.decode_null c
  · rw [hlib.encode_option]
    show (lib.option c).decode? (c.encode a) = _
    rw [hlib.decode_option c _ (hnull a), hc a, Option.map_some]

theorem option_text_lawful (hlib : lib.Lawful) : (lib.option lib.text).Lawful :=
  hlib.option_lawful hlib.text_lawful fun s ↦ hlib.encode_text s ▸ nofun

theorem option_uint32_lawful (hlib : lib.Lawful) : (lib.option lib.uint32).Lawful :=
  hlib.option_lawful hlib.uint32_lawful fun n ↦ hlib.encode_uint32 n ▸ nofun

/-- Named values are read back if the list of them is complete and no name stands for two. -/
theorem named_lawful (hlib : lib.Lawful) {all : List α} {name : α → String} (hall : ∀ a, a ∈ all)
    (hname : (all.map name).Nodup) : (lib.named all name).Lawful := by
  intro a
  rw [hlib.encode_named a (hall a), hlib.decode_named hname a (hall a)]

theorem plain_text (hlib : lib.Lawful) (s : String) : Plain level (lib.text.encode s) := by
  rw [hlib.encode_text]
  exact .string s

theorem plain_uint32 (hlib : lib.Lawful) (n : UInt32) : Plain level (lib.uint32.encode n) := by
  have hlt : n.toNat < 2 ^ 32 := n.toNat_lt
  rw [hlib.encode_uint32]
  exact .integer (by omega) (by omega)

/-- Values that may be missing are plain if those that are not missing are. -/
theorem plain_option (hlib : lib.Lawful) {c : Codec α} (hc : ∀ a, Plain level (c.encode a))
    (o : Option α) : Plain level ((lib.option c).encode o) := by
  rw [hlib.encode_option]
  cases o with
  | none => exact .null
  | some a => exact hc a

theorem plain_named (hlib : lib.Lawful) {all : List α} {name : α → String} (hall : ∀ a, a ∈ all)
    (a : α) : Plain level ((lib.named all name).encode a) := by
  rw [hlib.encode_named a (hall a)]
  exact .string (name a)

end Library.Lawful

/-! ## Members that give fields -/

/-- Whether the members of an object give some fields of a record, each of them once, in any order and
among members of other names. -/
structure Gives (fields : List (Field ρ)) (S : List String) (v : ρ)
    (members : List (Option String × Value)) : Prop where
  /-- Every member has a name. -/
  named : ∀ m ∈ members, m.1 ≠ none
  /-- Those that are fields are the fields in `S`, with their encodings in `v`. -/
  fields : (members.filter (known fields)).Perm
    ((fields.filter fun f ↦ S.contains f.name).map fun f ↦ (some f.name, f.encode v))

/-- The names that are given are those of the fields in `S`. -/
theorem Gives.given_perm (h : Gives fields S v members) :
    (given fields members).Perm ((fields.filter fun f ↦ S.contains f.name).map Field.name) := by
  refine (h.fields.filterMap Prod.fst).trans (.of_eq ?_)
  rw [List.filterMap_map]
  exact congrFun List.filterMap_eq_map _

/-- The value that is given for a field is that of the record, as names tell fields apart. -/
theorem Gives.value_eq (hnodup : (fields.map Field.name).Nodup) (h : Gives fields S v members)
    {f : Field ρ} {w : Value} (hf : f ∈ fields) (hm : (some f.name, w) ∈ members) :
    w = f.encode v := by
  have hknown : (some f.name, w) ∈ members.filter (known fields) :=
    List.mem_filter.2 ⟨hm, known_iff.2 (List.mem_map_of_mem hf)⟩
  obtain ⟨g, hg, heq⟩ := List.mem_map.1 (h.fields.mem_iff.1 hknown)
  obtain ⟨hname, rfl⟩ := Prod.mk.inj heq
  rw [List.inj_on_of_nodup_map hnodup (List.mem_filter.1 hg).1 hf (Option.some.inj hname)]

/-- What is to be shown of the records that have some fields of `v` and default values elsewhere. -/
structure Parts (fields : List (Field ρ)) (default : ρ) (part : List String → ρ → ρ) : Prop where
  /-- Names tell the fields apart. -/
  nodup : (fields.map Field.name).Nodup
  /-- Without any field, this is the record of default values. -/
  nothing : ∀ v, part [] v = default
  /-- With all fields, this is the record. -/
  everything : ∀ v, part (fields.map Field.name) v = v
  /-- Putting in one field more makes the next of them. -/
  put : ∀ f ∈ fields, ∀ v S, f.put? (f.encode v) (part S v) = some (part (f.name :: S) v)
  /-- It only matters which fields they have. -/
  congr : ∀ v S S', (∀ f ∈ fields, f.name ∈ S ↔ f.name ∈ S') → part S v = part S' v
  /-- The fields survive as text. -/
  plain : ∀ f ∈ fields, ∀ v, Plain 126 (f.encode v)

/-- **Members make a record** that has the fields they give. -/
theorem Parts.decode_of_given {c : Codec ρ} (hc : c.ReadsMembers fields default)
    (hp : Parts fields default part) (hnamed : ∀ m ∈ members, m.1 ≠ none)
    (hvalue : ∀ f ∈ fields, ∀ w, (some f.name, w) ∈ members → w = f.encode v)
    (hnodup : (given fields members).Nodup) :
    c.decode? (.object members) = some (part (given fields members) v) := by
  induction members using List.reverseRecOn with
  | nil =>
    rw [hc.nil]
    exact congrArg some (hp.nothing v).symm
  | append_singleton members m ih =>
    obtain ⟨n, hn⟩ := Option.ne_none_iff_exists'.1 (hnamed m (by simp))
    obtain ⟨_, w⟩ := m
    obtain rfl : _ = some n := hn
    have hnames : ∀ m ∈ members, m.1 ≠ none := fun m hm ↦ hnamed m (List.mem_append_left _ hm)
    have hrest : ∀ f ∈ fields, ∀ w, (some f.name, w) ∈ members → w = f.encode v :=
      fun f hf w hw ↦ hvalue f hf w (List.mem_append_left _ hw)
    rw [given_append] at hnodup ⊢
    by_cases hfield : n ∈ fields.map Field.name
    · obtain ⟨f, hf, rfl⟩ := List.mem_map.1 hfield
      obtain rfl : w = f.encode v := hvalue f hf w (by simp)
      rw [given_cons_of_mem hfield] at hnodup ⊢
      -- As nothing is given twice, the field is not among those that were given before.
      have hnew (w : Value) : (some f.name, w) ∉ members := fun hm ↦
        List.disjoint_of_nodup_append hnodup (mem_given_iff.2 ⟨hfield, w, hm⟩) List.mem_cons_self
      rw [hc.field members f hf _ hnew, ih hnames hrest (List.nodup_append.1 hnodup).1,
        Option.bind_some, hp.put f hf]
      refine congrArg some (hp.congr v _ _ fun g _ ↦ ?_)
      rw [List.mem_append, List.mem_cons, List.mem_cons, or_comm]
      exact or_congr_right (or_iff_left List.not_mem_nil).symm
    · rw [given_cons_of_not_mem hfield] at hnodup ⊢
      have hnil : given fields [] = [] := rfl
      rw [hnil, List.append_nil] at hnodup ⊢
      rw [hc.unknown members n w hfield, ih hnames hrest hnodup]

/-- **An object that gives some fields** is read as the record that has them. -/
theorem Parts.decode_of_gives {c : Codec ρ} (hc : c.ReadsMembers fields default)
    (hp : Parts fields default part) (h : Gives fields S v members) :
    c.decode? (.object members) = some (part S v) := by
  have hnodup : (given fields members).Nodup :=
    h.given_perm.nodup_iff.2 (hp.nodup.sublist (List.filter_sublist.map _))
  rw [hp.decode_of_given hc h.named (fun f hf w ↦ h.value_eq hp.nodup hf) hnodup]
  refine congrArg some (hp.congr v _ _ fun f hf ↦ ?_)
  rw [h.given_perm.mem_iff, List.mem_map]
  constructor
  · rintro ⟨g, hg, hname⟩
    rw [← hname]
    simpa using (List.mem_filter.1 hg).2
  · intro hS
    exact ⟨f, List.mem_filter.2 ⟨hf, by simpa using hS⟩, rfl⟩

/-- A record gives all its fields. -/
theorem gives_encode : Gives fields (fields.map Field.name) v
    (fields.map fun f ↦ (some f.name, f.encode v)) where
  named m hm := by
    obtain ⟨f, -, rfl⟩ := List.mem_map.1 hm
    exact nofun
  fields := by
    rw [List.filter_eq_self.2, List.filter_eq_self.2]
    · intro f hf
      simpa using ⟨f, hf, rfl⟩
    · intro m hm
      obtain ⟨f, hf, rfl⟩ := List.mem_map.1 hm
      exact known_iff.2 (List.mem_map_of_mem hf)

theorem Library.Lawful.encode_record_eq (hlib : lib.Lawful) :
    (lib.record fields default).encode v =
      .object (fields.map fun f ↦ (some f.name, f.encode v)) := by
  rw [hlib.encode_record, Value.record, List.map_map]
  rfl

/-- **A record is read back** from the document that it is written as. -/
theorem Parts.lawful (hlib : lib.Lawful) (hp : Parts fields default part) :
    (lib.record fields default).Lawful := by
  intro v
  rw [hlib.encode_record_eq, hp.decode_of_gives (hlib.decode_record default hp.nodup) gives_encode,
    hp.everything]

/-! ## Fields that are given twice -/

section Repeated

variable {c : Codec ρ}

/-- What cannot be read is not mended by what follows. -/
theorem Codec.ReadsMembers.decode_append_eq_none (hc : c.ReadsMembers fields default)
    (h : c.decode? (.object members) = none) (more : List (Option String × Value)) :
    c.decode? (.object (members ++ more)) = none := by
  induction more using List.reverseRecOn with
  | nil => rwa [List.append_nil]
  | append_singleton more m ih =>
    rw [← List.append_assoc]
    exact hc.failed _ m ih

/-- **A field that is given twice** is a mistake, wherever and with whatever value. -/
theorem Codec.ReadsMembers.decode_repeated (hc : c.ReadsMembers fields default) {n : String}
    (hn : n ∈ fields.map Field.name) (a b : Value) (xs ys zs : List (Option String × Value)) :
    c.decode? (.object (xs ++ (some n, a) :: ys ++ (some n, b) :: zs)) = none := by
  obtain ⟨f, hf, rfl⟩ := List.mem_map.1 hn
  have hm : (some f.name, a) ∈ xs ++ (some f.name, a) :: ys := by simp
  rw [List.append_cons (xs ++ _ :: ys)]
  exact hc.decode_append_eq_none (hc.again _ f hf a b hm) zs

end Repeated

/-! ## Reading a record -/

/-- What documents of a record are read as, `part S v` having the fields of `v` that are in `S`. -/
structure Overlaid (lib : Library) (fields : List (Field ρ)) (c : Codec ρ)
    (part : List String → ρ → ρ) : Prop where
  /-- Some fields, in any order and among members of other names. -/
  given : ∀ v S members, Gives fields S v members → c.decode? (.object members) = some (part S v)
  /-- The same as text, if the values of all members survive as that. -/
  given_text : ∀ v S members, Gives fields S v members → (∀ m ∈ members, Plain 126 m.2) →
    (lib.parse? (lib.print (.object members))).bind c.decode? = some (part S v)
  /-- The whole record. -/
  whole : ∀ v, c.decode? (c.encode v) = some v
  /-- The whole record as text. -/
  whole_text : ∀ v, (lib.parse? (lib.print (c.encode v))).bind c.decode? = some v
  /-- A field that is given twice. -/
  repeated : ∀ n ∈ fields.map Field.name, ∀ a b xs ys zs,
    c.decode? (.object (xs ++ (some n, a) :: ys ++ (some n, b) :: zs)) = none

theorem Parts.overlaid (hlib : lib.Lawful) (hp : Parts fields default part) :
    Overlaid lib fields (lib.record fields default) part where
  given v S members h := hp.decode_of_gives (hlib.decode_record default hp.nodup) h
  given_text v S members h hplain := by
    rw [hlib.parse?_print _ (.object h.named hplain), Option.bind_some]
    exact hp.decode_of_gives (hlib.decode_record default hp.nodup) h
  whole := hp.lawful hlib
  whole_text v := by
    have hplain : Plain 127 ((lib.record fields default).encode v) := by
      rw [hlib.encode_record_eq]
      refine .object (fun m hm ↦ ?_) fun m hm ↦ ?_
      · obtain ⟨_, -, rfl⟩ := List.mem_map.1 hm
        exact nofun
      · obtain ⟨f, hf, rfl⟩ := List.mem_map.1 hm
        exact hp.plain f hf v
    rw [hlib.parse?_print _ hplain, Option.bind_some]
    exact hp.lawful hlib v
  repeated n hn a b xs ys zs :=
    (hlib.decode_record default hp.nodup).decode_repeated hn a b xs ys zs

/-- A lawful field puts what it was written as. -/
theorem Field.put?_encode {c : Codec α} (hc : c.Lawful) {n : String} {get : ρ → α}
    {set : α → ρ → ρ} {v r : ρ} :
    (Field.of n c get set).put? ((Field.of n c get set).encode v) r = some (set (get v) r) := by
  show (c.decode? (c.encode (get v))).map _ = _
  rw [hc]
  rfl

end Json

/-! ## The records -/

open Json (Gives Library Overlaid Parts)
open Json.Field (put?_encode)

variable {lib : Library}

namespace Config

/-- The configuration that has some settings of `v`, and no others. -/
def part (S : List String) (v : Config) : Config where
  backend := if "backend" ∈ S then v.backend else none
  i2cBusnum := if "i2c_busnum" ∈ S then v.i2cBusnum else none
  spiBusnum := if "spi_busnum" ∈ S then v.spiBusnum else none
  gpioChip := if "gpio_chip" ∈ S then v.gpioChip else none
  pigpiodAddr := if "pigpiod_addr" ∈ S then v.pigpiodAddr else none
  pigpiodPort := if "pigpiod_port" ∈ S then v.pigpiodPort else none
  log := if "log" ∈ S then v.log else none

theorem parts (hlib : lib.Lawful) : Parts (fields lib) {} part where
  nodup := by simp [fields, Json.Field.of]
  nothing v := by simp [part]
  everything v := by simp [part, fields, Json.Field.of]
  put f hf v S := by
    simp only [fields, List.mem_cons, List.not_mem_nil, or_false] at hf
    rcases hf with rfl | rfl | rfl | rfl | rfl | rfl | rfl
    all_goals
      simp only [put?_encode hlib.option_text_lawful, put?_encode hlib.option_uint32_lawful]
      simp [part, Json.Field.of]
  congr v S S' h := by
    simp only [fields, Json.Field.of, List.forall_mem_cons] at h
    simp [part, h]
  plain := by
    simp [fields, Json.Field.of, hlib.plain_option, hlib.plain_text, hlib.plain_uint32]

end Config

namespace I2c.Params

/-- The parameters that have some fields of `v`, and the default values elsewhere. -/
def part (S : List String) (v : Params) : Params where
  uri := if "uri" ∈ S then v.uri else none
  backend := if "backend" ∈ S then v.backend else none
  busnum := if "busnum" ∈ S then v.busnum else none
  freq := if "freq" ∈ S then v.freq else 400000

theorem parts (hlib : lib.Lawful) : Parts (fields lib) {} part where
  nodup := by simp [fields, Json.Field.of]
  nothing v := by simp [part, defaultFreq]
  everything v := by simp [part, fields, Json.Field.of]
  put f hf v S := by
    simp only [fields, List.mem_cons, List.not_mem_nil, or_false] at hf
    rcases hf with rfl | rfl | rfl | rfl
    all_goals
      simp only [put?_encode hlib.option_text_lawful, put?_encode hlib.option_uint32_lawful,
        put?_encode hlib.uint32_lawful]
      simp [part, Json.Field.of]
  congr v S S' h := by
    simp only [fields, Json.Field.of, List.forall_mem_cons] at h
    simp [part, h]
  plain := by
    simp [fields, Json.Field.of, hlib.plain_option, hlib.plain_text, hlib.plain_uint32]

end I2c.Params

namespace Spi

theorem Mode.mem_all (m : Mode) : m ∈ Mode.all := by cases m <;> decide

theorem Mode.codec_lawful (hlib : lib.Lawful) : (Mode.codec lib).Lawful :=
  hlib.named_lawful Mode.mem_all (by decide)

theorem Mode.plain_encode {level : Nat} (hlib : lib.Lawful) (m : Mode) :
    Json.Plain level ((Mode.codec lib).encode m) := hlib.plain_named Mode.mem_all m

namespace Params

/-- The parameters that have some fields of `v`, and the default values elsewhere. -/
def part (S : List String) (v : Params) : Params where
  uri := if "uri" ∈ S then v.uri else none
  backend := if "backend" ∈ S then v.backend else none
  busnum := if "busnum" ∈ S then v.busnum else none
  speed := if "speed" ∈ S then v.speed else 1000000
  mode := if "mode" ∈ S then v.mode else .mode0

theorem parts (hlib : lib.Lawful) : Parts (fields lib) {} part where
  nodup := by simp [fields, Json.Field.of]
  nothing v := by simp [part, defaultSpeed]
  everything v := by simp [part, fields, Json.Field.of]
  put f hf v S := by
    simp only [fields, List.mem_cons, List.not_mem_nil, or_false] at hf
    rcases hf with rfl | rfl | rfl | rfl | rfl
    all_goals
      simp only [put?_encode hlib.option_text_lawful, put?_encode hlib.option_uint32_lawful,
        put?_encode hlib.uint32_lawful, put?_encode (Mode.codec_lawful hlib)]
      simp [part, Json.Field.of]
  congr v S S' h := by
    simp only [fields, Json.Field.of, List.forall_mem_cons] at h
    simp [part, h]
  plain := by
    simp [fields, Json.Field.of, hlib.plain_option, hlib.plain_text, hlib.plain_uint32,
      Mode.plain_encode hlib]

end Params

end Spi

namespace Gpio.Params

/-- The parameters that have some fields of `v`, and no others. -/
def part (S : List String) (v : Params) : Params where
  uri := if "uri" ∈ S then v.uri else none
  backend := if "backend" ∈ S then v.backend else none
  chip := if "chip" ∈ S then v.chip else none

theorem parts (hlib : lib.Lawful) : Parts (fields lib) {} part where
  nodup := by simp [fields, Json.Field.of]
  nothing v := by simp [part]
  everything v := by simp [part, fields, Json.Field.of]
  put f hf v S := by
    simp only [fields, List.mem_cons, List.not_mem_nil, or_false] at hf
    rcases hf with rfl | rfl | rfl
    all_goals
      simp only [put?_encode hlib.option_text_lawful, put?_encode hlib.option_uint32_lawful]
      simp [part, Json.Field.of]
  congr v S S' h := by
    simp only [fields, Json.Field.of, List.forall_mem_cons] at h
    simp [part, h]
  plain := by
    simp [fields, Json.Field.of, hlib.plain_option, hlib.plain_text, hlib.plain_uint32]

end Gpio.Params

/-- **Partial documents overlay defaults**, for the configuration and the parameters of all buses, with
any lawful library. -/
theorem documents_overlay_defaults (hlib : lib.Lawful) :
    Overlaid lib (Config.fields lib) (Config.codec lib) Config.part ∧
      Overlaid lib (I2c.Params.fields lib) (I2c.Params.codec lib) I2c.Params.part ∧
      Overlaid lib (Spi.Params.fields lib) (Spi.Params.codec lib) Spi.Params.part ∧
      Overlaid lib (Gpio.Params.fields lib) (Gpio.Params.codec lib) Gpio.Params.part :=
  ⟨(Config.parts hlib).overlaid hlib, (I2c.Params.parts hlib).overlaid hlib,
    (Spi.Params.parts hlib).overlaid hlib, (Gpio.Params.parts hlib).overlaid hlib⟩

/-- Two of five fields in another order, with a member of an unknown name between them. -/
theorem documents_overlay_defaults_two :
    let v : Spi.Params := { uri := some "linuxdev", busnum := some 3, speed := 0, mode := .mode3 }
    let members : List (Option String × Json.Value) := [(some "mode", .ofString "Mode3"),
      (some "Speed", .integer 5), (some "uri", .ofString "linuxdev")]
    Library.native.Lawful ∧ Gives (Spi.Params.fields .native) ["uri", "mode"] v members ∧
      (Spi.Params.codec .native).decode? (.object members) =
        some { uri := some "linuxdev", mode := .mode3 } := by
  intro v members
  have hgives : Gives (Spi.Params.fields .native) ["uri", "mode"] v members := by
    constructor
    · simp [members]
    · exact .swap _ _ []
  obtain ⟨-, -, hspi, -⟩ := documents_overlay_defaults Json.lawful_native
  exact ⟨Json.lawful_native, hgives, hspi.given v ["uri", "mode"] members hgives⟩

end BusAccess
