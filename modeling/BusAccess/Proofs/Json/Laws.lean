import BusAccess.Json.Library
import BusAccess.Proofs.Json.Writing

/-!
# What is relied on of a library for documents

`Library.Lawful` is what libraries for documents promise: which documents there are for the types that
they know, that reading one of these gives the value back, and how an object becomes a record.  An object
is read member by member, and it may end after any of them.  So `Codec.ReadsMembers` says what one more
member at the end makes of what was read up to there.  What comes of a whole object, in whatever order its
members are, is not among the laws; that is shown in `Overlay`.

Only what is `Plain` is relied on to survive as text.  Libraries differ in what they do with deep
documents and with large numbers, and refusing them is common.

The native library keeps the laws (`lawful_native`).  What carries this is that putting two lists of
members into a record, one after the other, is the same as putting in the list that they make, as long as
the second time it is known what was given the first time (`overlay_append`).
-/

set_option autoImplicit false

namespace BusAccess.Json

variable {ρ : Type} {fields : List (Field ρ)} {default : ρ} {seen : List String}
  {members : List (Option String × Value)}

/-- How a record is read from an object, one member after the other. -/
structure Codec.ReadsMembers (c : Codec ρ) (fields : List (Field ρ)) (default : ρ) : Prop where
  /-- An object without members is read as the record of default values. -/
  nil : c.decode? (.object []) = some default
  /-- What cannot be read is not mended by one more member. -/
  failed : ∀ members m, c.decode? (.object members) = none →
    c.decode? (.object (members ++ [m])) = none
  /-- A member that is no field is ignored. -/
  unknown : ∀ members n w, n ∉ fields.map Field.name →
    c.decode? (.object (members ++ [(some n, w)])) = c.decode? (.object members)
  /-- A member that is a field which was given before is refused. -/
  again : ∀ members, ∀ f ∈ fields, ∀ v w, (some f.name, v) ∈ members →
    c.decode? (.object (members ++ [(some f.name, w)])) = none
  /-- A member that is a field which was not given before is put into the record. -/
  field : ∀ members, ∀ f ∈ fields, ∀ w, (∀ v, (some f.name, v) ∉ members) →
    c.decode? (.object (members ++ [(some f.name, w)])) =
      (c.decode? (.object members)).bind (f.put? w)

/-- What is relied on of a library for documents.  Names have to tell named values apart, and fields. -/
structure Library.Lawful (lib : Library) : Prop where
  /-- A text is written as a string. -/
  encode_text : ∀ s, lib.text.encode s = .ofString s
  /-- A string is read as its text. -/
  decode_text : ∀ s, lib.text.decode? (.ofString s) = some s
  /-- An integer is written as a number. -/
  encode_uint32 : ∀ n, lib.uint32.encode n = .ofNat n.toNat
  /-- A number that is in range is read as an integer. -/
  decode_uint32 : ∀ n : UInt32, lib.uint32.decode? (.ofNat n.toNat) = some n
  /-- A value that is missing is written as `null`, and any other one as itself. -/
  encode_option : ∀ {α : Type} (c : Codec α) (o : Option α),
    (lib.option c).encode o = .ofOption c.encode o
  /-- No value is read from `null`. -/
  decode_null : ∀ {α : Type} (c : Codec α), (lib.option c).decode? .null = some none
  /-- From anything else the value itself is read. -/
  decode_option : ∀ {α : Type} (c : Codec α) (v : Value), v ≠ .null →
    (lib.option c).decode? v = (c.decode? v).map some
  /-- A named value is written as its name. -/
  encode_named : ∀ {α : Type} {all : List α} {name : α → String}, ∀ a ∈ all,
    (lib.named all name).encode a = .ofString (name a)
  /-- A name is read as what it names. -/
  decode_named : ∀ {α : Type} {all : List α} {name : α → String}, (all.map name).Nodup →
    ∀ a ∈ all, (lib.named all name).decode? (.ofString (name a)) = some a
  /-- A record is written as an object of all its fields, in order. -/
  encode_record : ∀ {ρ : Type} (fields : List (Field ρ)) (default r : ρ),
    (lib.record fields default).encode r = .record (fields.map fun f ↦ (f.name, f.encode r))
  /-- A record is read from an object member by member. -/
  decode_record : ∀ {ρ : Type} {fields : List (Field ρ)} (default : ρ),
    (fields.map Field.name).Nodup → (lib.record fields default).ReadsMembers fields default
  /-- What is printed spells what was to be printed, if it is nested less than 128 times. -/
  parse?_print : ∀ v, Plain 127 v → lib.parse? (lib.print v) = some v

/-! ## Fields that are given -/

/-- Whether a member is one of the fields. -/
def known (fields : List (Field ρ)) (m : Option String × Value) : Bool :=
  fields.any fun f ↦ m.1 == some f.name

/-- The names of the fields that are given. -/
def given (fields : List (Field ρ)) (members : List (Option String × Value)) : List String :=
  (members.filter (known fields)).filterMap Prod.fst

theorem known_iff {n : String} {w : Value} :
    known fields (some n, w) = true ↔ n ∈ fields.map Field.name := by
  simp only [known, List.any_eq_true, beq_iff_eq, Option.some.injEq, List.mem_map,
    eq_comm (a := n)]

/-- A member that is no field counts for nothing. -/
theorem given_cons_of_not_mem {n : String} {w : Value} (h : n ∉ fields.map Field.name) :
    given fields ((some n, w) :: members) = given fields members := by
  rw [given, List.filter_cons_of_neg (known_iff.not.2 h), given]

theorem given_cons_of_mem {n : String} {w : Value} (h : n ∈ fields.map Field.name) :
    given fields ((some n, w) :: members) = n :: given fields members := by
  rw [given, List.filter_cons_of_pos (known_iff.2 h)]
  rfl

theorem given_append (xs ys : List (Option String × Value)) :
    given fields (xs ++ ys) = given fields xs ++ given fields ys := by
  rw [given, List.filter_append, List.filterMap_append, given, given]

/-- A field is given by a member of its name. -/
theorem mem_given_iff {n : String} :
    n ∈ given fields members ↔ n ∈ fields.map Field.name ∧ ∃ w, (some n, w) ∈ members := by
  simp only [given, List.mem_filterMap, List.mem_filter]
  constructor
  · rintro ⟨⟨_, w⟩, ⟨hm, hknown⟩, rfl⟩
    exact ⟨known_iff.1 hknown, w, hm⟩
  · rintro ⟨hn, w, hm⟩
    exact ⟨(some n, w), ⟨hm, known_iff.2 hn⟩, rfl⟩

/-! ## The native library -/

/-- A name that is found is that of a field. -/
theorem mem_of_find?_eq_some {f : Field ρ} {n : String}
    (h : fields.find? (fun f ↦ f.name == n) = some f) : n ∈ fields.map Field.name :=
  List.mem_map.2 ⟨f, List.mem_of_find?_eq_some h, by simpa using List.find?_some h⟩

theorem find?_eq_none_iff {n : String} :
    fields.find? (fun f ↦ f.name == n) = none ↔ n ∉ fields.map Field.name := by
  simp [List.find?_eq_none, List.mem_map]

/-- Where names tell things apart, each of them is found by its name. -/
theorem find?_name {α : Type} {all : List α} {name : α → String} (hnodup : (all.map name).Nodup)
    {a : α} (ha : a ∈ all) : all.find? (fun b ↦ name b == name a) = some a := by
  cases hfound : all.find? fun b ↦ name b == name a with
  | none => exact absurd (beq_self_eq_true (name a)) (List.find?_eq_none.1 hfound a ha)
  | some b =>
    have hname : name b = name a := by simpa using List.find?_some hfound
    rw [List.inj_on_of_nodup_map hnodup (List.mem_of_find?_eq_some hfound) ha hname]

/-- **Members are put in one after the other**, and what is noted down of the first ones is which fields
they give. -/
theorem overlay_append {xs ys : List (Option String × Value)} {r : ρ} :
    overlay fields (xs ++ ys) seen r = (overlay fields xs seen r).bind fun r' ↦
      overlay fields ys ((given fields xs).reverse ++ seen) r' := by
  induction xs generalizing seen r with
  | nil => rfl
  | cons x xs ih =>
    obtain ⟨_ | n, w⟩ := x
    · rfl
    rw [List.cons_append, overlay, overlay]
    cases hfound : fields.find? fun f ↦ f.name == n with
    | none =>
      rw [given_cons_of_not_mem (find?_eq_none_iff.1 hfound)]
      exact ih
    | some f =>
      rw [given_cons_of_mem (mem_of_find?_eq_some hfound), List.reverse_cons, List.append_assoc]
      simp only
      split
      case isTrue => rfl
      case isFalse =>
        cases f.put? w r with
        | none => rfl
        | some r' => exact ih

/-- One more member is put into what was read up to there. -/
theorem decode?_record_append (m : Option String × Value) :
    (Codec.record fields default).decode? (.object (members ++ [m])) =
      ((Codec.record fields default).decode? (.object members)).bind fun r ↦
        overlay fields [m] (given fields members).reverse r := by
  show overlay fields (members ++ [m]) [] default = _
  rw [overlay_append, List.append_nil]
  rfl

/-- Records are read member by member. -/
theorem readsMembers_record (hnodup : (fields.map Field.name).Nodup) :
    (Codec.record fields default).ReadsMembers fields default := by
  constructor
  case nil => rfl
  case failed =>
    intro members m h
    rw [decode?_record_append, h]
    rfl
  case unknown =>
    intro members n w hn
    rw [decode?_record_append]
    simp only [overlay, find?_eq_none_iff.2 hn]
    exact Option.bind_fun_some _
  case again =>
    intro members f hf v w hv
    have hn : f.name ∈ fields.map Field.name := List.mem_map_of_mem hf
    have hgiven : (given fields members).reverse.contains f.name = true :=
      List.contains_iff_mem.2 (List.mem_reverse.2 (mem_given_iff.2 ⟨hn, v, hv⟩))
    rw [decode?_record_append]
    simp only [overlay, find?_name hnodup hf, hgiven, if_true]
    exact Option.bind_fun_none _
  case field =>
    intro members f hf w hnew
    have hgiven : ¬ (given fields members).reverse.contains f.name = true := fun h ↦ by
      obtain ⟨-, v, hv⟩ := mem_given_iff.1 (List.mem_reverse.1 (List.contains_iff_mem.1 h))
      exact hnew v hv
    rw [decode?_record_append]
    simp only [overlay, find?_name hnodup hf, if_neg hgiven]
    exact congrArg _ (funext fun r ↦ Option.bind_fun_some _)

/-- The native library is lawful. -/
theorem lawful_native : Library.native.Lawful := by
  constructor
  case encode_text => exact fun _ ↦ rfl
  case decode_text => exact fun _ ↦ rfl
  case encode_uint32 => exact fun _ ↦ rfl
  case decode_uint32 =>
    intro n
    have h : (n.toNat : Int) < UInt32.size := by exact_mod_cast n.toNat_lt
    simp only [Library.native, Codec.uint32, Value.ofNat]
    rw [if_pos ⟨Int.natCast_nonneg _, h⟩, Int.toNat_natCast, UInt32.ofNat_toNat]
  case encode_option => exact fun _ _ ↦ rfl
  case decode_null => exact fun _ ↦ rfl
  case decode_option =>
    intro α c v hv
    cases v with
    | null => exact absurd rfl hv
    | _ => rfl
  case encode_named => exact fun _ _ ↦ rfl
  case decode_named => exact fun hnodup a ha ↦ find?_name hnodup ha
  case encode_record => exact fun _ _ _ ↦ rfl
  case decode_record => exact fun _ hnodup ↦ readsMembers_record hnodup
  case parse?_print => exact fun v hv ↦ read?_write hv

end BusAccess.Json
