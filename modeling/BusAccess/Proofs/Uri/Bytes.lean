import BusAccess.Proofs.Uri.Capture
import BusAccess.Proofs.Uri.Scan
import BusAccess.Uri.Reader

/-!
# Characters and bytes

A text can be cut behind some of its bytes exactly if these are the bytes of some of its characters
(`cut?_eq_some_iff`), and this is what makes an offset valid in a string (`isSome_cut?_iff`).

An integer is read from bytes as if they were characters.  It makes no difference.  Taken byte by
byte, a text reads as it does character by character up to the first character of several bytes
(`Alike`), and there both go on with something that is no part of a number: no byte of a longer
character is a blank, a sign or a digit of any base.  So whatever looks no further than this finds the
same in both (`Alike.readInteger`), what it finds takes one byte for each character, and its digits
can be cut out of the text (`readBytes?_eq`).
-/

set_option autoImplicit false

namespace BusAccess.Uri

variable {c d : Char} {cs ds front back : List Char} {n : Nat}

/-! ## Cuts -/

theorem byteLength_eq_zero_iff : byteLength cs = 0 ↔ cs = [] := by
  have hle := length_le_byteLength cs
  constructor
  · intro h
    exact List.length_eq_zero_iff.1 (by omega)
  · rintro rfl
    rfl

/-- **A text can be cut** behind the bytes of its first characters, and nowhere else. -/
theorem cut?_eq_some_iff :
    cut? n cs = some (front, back) ↔ cs = front ++ back ∧ n = byteLength front := by
  induction cs generalizing n front with
  | nil =>
    cases n with
    | zero => simp +contextual [cut?, eq_comm]
    | succ n => simp +contextual [cut?]
  | cons c cs ih =>
    have hc := c.utf8Size_pos
    cases n with
    | zero =>
      simp only [cut?, Option.some.injEq, Prod.mk.injEq, eq_comm (a := 0), byteLength_eq_zero_iff]
      constructor
      · rintro ⟨rfl, rfl⟩
        exact ⟨rfl, rfl⟩
      · rintro ⟨h, rfl⟩
        exact ⟨rfl, h⟩
    | succ n =>
      simp only [cut?]
      constructor
      · intro h
        split at h
        case isTrue hle =>
          obtain ⟨⟨front', back'⟩, hcut, heq⟩ := Option.map_eq_some_iff.1 h
          obtain ⟨rfl, rfl⟩ := Prod.mk.inj heq
          obtain ⟨rfl, hn⟩ := ih.1 hcut
          refine ⟨rfl, ?_⟩
          rw [byteLength_cons, ← hn]
          omega
        case isFalse => exact absurd h nofun
      · rintro ⟨hcs, hn⟩
        cases front with
        | nil => simp at hn
        | cons d front =>
          obtain ⟨rfl, rfl⟩ := List.cons.inj hcs
          rw [byteLength_cons] at hn
          rw [if_pos (by omega), ih.2 ⟨rfl, by omega⟩]
          rfl

theorem cut?_append (front back : List Char) :
    cut? (byteLength front) (front ++ back) = some (front, back) :=
  cut?_eq_some_iff.2 ⟨rfl, rfl⟩

theorem byteLength_toList (s : String) : byteLength s.toList = s.utf8ByteSize := by
  have h (cs : List Char) : byteLength cs = (String.ofList cs).utf8ByteSize := by
    induction cs with
    | nil => rfl
    | cons c cs ih =>
      rw [byteLength_cons, ih, ← List.singleton_append, String.ofList_append,
        String.utf8ByteSize_append, ← String.singleton_eq_ofList, String.utf8ByteSize_singleton]
  rw [h, String.ofList_toList]

/-- The offsets at which a text can be cut are those that are valid in the string. -/
theorem isSome_cut?_iff {s : String} :
    (cut? n s.toList).isSome ↔ (⟨n⟩ : String.Pos.Raw).IsValid s := by
  rw [String.Pos.Raw.isValid_iff_exists_append, Option.isSome_iff_exists]
  constructor
  · rintro ⟨⟨front, back⟩, h⟩
    obtain ⟨hs, rfl⟩ := cut?_eq_some_iff.1 h
    refine ⟨.ofList front, .ofList back, ?_, ?_⟩
    · rw [← String.ofList_append, ← hs, String.ofList_toList]
    · have hlen : byteLength front = (String.ofList front).utf8ByteSize := by
        rw [← byteLength_toList, String.toList_ofList]
      exact String.Pos.Raw.ext hlen
  · rintro ⟨s₁, s₂, rfl, hn⟩
    refine ⟨(s₁.toList, s₂.toList), cut?_eq_some_iff.2 ⟨String.toList_append, ?_⟩⟩
    rw [byteLength_toList]
    exact congrArg String.Pos.Raw.byteIdx hn

/-- A piece of characters of one byte each, cut out by counting characters. -/
theorem slice?_of_one {piece : List Char} (hfront : ∀ c ∈ front, c.utf8Size = 1)
    (hpiece : ∀ c ∈ piece, c.utf8Size = 1) (back : List Char) :
    slice? front.length (front.length + piece.length) (front ++ (piece ++ back)) = some piece := by
  have hcut : cut? front.length (front ++ (piece ++ back)) = some (front, piece ++ back) :=
    cut?_eq_some_iff.2 ⟨rfl, (byteLength_of_utf8Size_eq_one hfront).symm⟩
  have hcut' : cut? piece.length (piece ++ back) = some (piece, back) :=
    cut?_eq_some_iff.2 ⟨rfl, (byteLength_of_utf8Size_eq_one hpiece).symm⟩
  simp [slice?, hcut, hcut']

/-! ## Texts that read alike -/

/-- Whether two texts are the same up to the first character of several bytes, which they both have
at the same place if one of them has. -/
inductive Alike : List Char → List Char → Prop
  | nil : Alike [] []
  | same {c : Char} {cs ds : List Char} (hc : c.utf8Size = 1) (h : Alike cs ds) :
      Alike (c :: cs) (c :: ds)
  | longer {c d : Char} {cs ds : List Char} (hc : c.utf8Size ≠ 1) (hd : d.utf8Size ≠ 1) :
      Alike (c :: cs) (d :: ds)

theorem toNat_val_ofUInt8 (b : UInt8) : (Char.ofUInt8 b).val.toNat = b.toNat :=
  UInt8.toNat_toUInt32 b

theorem utf8Size_ofUInt8_eq_one_iff {b : UInt8} :
    (Char.ofUInt8 b).utf8Size = 1 ↔ b.toNat ≤ 127 := by
  rw [Char.utf8Size_eq_one_iff, UInt32.le_iff_toNat_le, toNat_val_ofUInt8]
  rfl

/-- A character of several bytes starts with a byte that is no character of one. -/
theorem encoding_of_ne_one (hc : c.utf8Size ≠ 1) :
    ∃ b bs, String.utf8EncodeChar c = b :: bs ∧ (Char.ofUInt8 b).utf8Size ≠ 1 := by
  have hval : ¬ c.val.toNat ≤ 127 := by
    rwa [ne_eq, Char.utf8Size_eq_one_iff, UInt32.le_iff_toNat_le] at hc
  simp only [ne_eq, utf8Size_ofUInt8_eq_one_iff]
  rw [String.utf8EncodeChar, if_neg hval]
  split
  case isTrue =>
    exact ⟨_, _, rfl, by simp only [UInt8.toNat_ofNat']; omega⟩
  case isFalse =>
    split
    case isTrue => exact ⟨_, _, rfl, by simp only [UInt8.toNat_ofNat']; omega⟩
    case isFalse => exact ⟨_, _, rfl, by simp only [UInt8.toNat_ofNat']; omega⟩

theorem encoding_of_one (hc : c.utf8Size = 1) :
    (String.utf8EncodeChar c).map Char.ofUInt8 = [c] := by
  have hval : c.val.toNat ≤ 127 := by
    rwa [Char.utf8Size_eq_one_iff, UInt32.le_iff_toNat_le] at hc
  rw [String.utf8EncodeChar_eq_singleton hc, List.map_singleton, List.cons.injEq, Char.ext_iff,
    ← UInt32.toNat_inj, toNat_val_ofUInt8, UInt32.toNat_toUInt8]
  exact ⟨by omega, rfl⟩

theorem bytewise_cons :
    bytewise (c :: cs) = (String.utf8EncodeChar c).map Char.ofUInt8 ++ bytewise cs := by
  rw [bytewise, encode, List.flatMap_cons, List.map_append]
  rfl

/-- **A text reads alike** taken byte by byte. -/
theorem alike_bytewise (cs : List Char) : Alike (bytewise cs) cs := by
  induction cs with
  | nil => exact .nil
  | cons c cs ih =>
    rw [bytewise_cons]
    by_cases hc : c.utf8Size = 1
    · rw [encoding_of_one hc]
      exact .same hc ih
    · obtain ⟨b, bs, h, hb⟩ := encoding_of_ne_one hc
      rw [h]
      exact .longer hb hc

/-- Whether a test is passed by characters of one byte only. -/
def Narrow (test : Char → Bool) : Prop := ∀ c, test c = true → c.utf8Size = 1

theorem ne_of_longer (hc : c.utf8Size ≠ 1) (hd : d.utf8Size = 1) : c ≠ d := by
  rintro rfl
  exact hc hd

theorem readSign_cons :
    readSign (c :: cs) =
      if c = '-' then (true, 1) else if c = '+' then (false, 1) else (false, 0) := by
  rw [readSign.eq_def]
  split <;> simp_all

theorem hasHexMark_of_ne (hc : c ≠ '0') : hasHexMark (c :: cs) = false := by
  rw [hasHexMark.eq_def]
  split <;> simp_all

theorem hasHexMark_zero :
    hasHexMark ('0' :: c :: cs) = ((c == 'x' || c == 'X') && cs.head?.any (isDigitOf 16)) := by
  cases cs with
  | nil => simp [hasHexMark]
  | cons d cs => rfl

theorem narrow_isNumberBlank : Narrow isNumberBlank := by
  intro c h
  simp only [isNumberBlank, Bool.or_eq_true, beq_iff_eq] at h
  rcases h with (((rfl | rfl) | rfl) | rfl) | rfl <;> rfl

theorem narrow_isDigitOf (base : Nat) : Narrow (isDigitOf base) := by
  intro c h
  have hz : c ≤ 'z' := by
    cases hv : digitValue c with
    | none => simp [isDigitOf, hv] at h
    | some v =>
      rw [digitValue] at hv
      split at hv
      case isTrue hc => exact Char.le_trans hc.2 (by decide)
      case isFalse =>
        split at hv
        case isTrue hc => exact hc.2
        case isFalse =>
          split at hv
          case isTrue hc => exact Char.le_trans hc.2 (by decide)
          case isFalse => exact absurd hv nofun
  exact Char.utf8Size_eq_one_iff.2 (UInt32.le_trans hz (by decide))

namespace Alike

variable {test : Char → Bool}

theorem takeWhile (h : Alike cs ds) (ht : Narrow test) : cs.takeWhile test = ds.takeWhile test := by
  induction h with
  | nil => rfl
  | same hc h ih => rw [List.takeWhile_cons, List.takeWhile_cons, ih]
  | longer hc hd =>
    rw [List.takeWhile_cons_of_neg (mt (ht _) hc), List.takeWhile_cons_of_neg (mt (ht _) hd)]

/-- Behind characters of one byte each, what is left reads alike too. -/
theorem drop (h : Alike cs ds) (hn : ∀ c ∈ ds.take n, c.utf8Size = 1) :
    Alike (cs.drop n) (ds.drop n) := by
  induction h generalizing n with
  | nil =>
    rw [List.drop_nil]
    exact .nil
  | same hc h ih =>
    cases n with
    | zero => exact .same hc h
    | succ n => exact ih (List.forall_mem_cons.1 hn).2
  | longer hc hd =>
    cases n with
    | zero => exact .longer hc hd
    | succ n => exact absurd (hn _ List.mem_cons_self) hd

theorem readSign (h : Alike cs ds) : readSign cs = readSign ds := by
  cases h with
  | nil => rfl
  | same hc h => simp only [readSign_cons]
  | longer hc hd =>
    rw [readSign_cons, readSign_cons, if_neg (ne_of_longer hc (by decide)),
      if_neg (ne_of_longer hc (by decide)), if_neg (ne_of_longer hd (by decide)),
      if_neg (ne_of_longer hd (by decide))]

theorem head?_eq_iff (h : Alike cs ds) (hc : c.utf8Size = 1) :
    cs.head? = some c ↔ ds.head? = some c := by
  cases h with
  | nil => rfl
  | same _ h => rfl
  | longer hd he => simp [ne_of_longer hd hc, ne_of_longer he hc]

theorem hasHexMark (h : Alike cs ds) : hasHexMark cs = hasHexMark ds := by
  -- Three characters are looked at.  None of them is a longer one if there is a mark.
  cases h with
  | nil => rfl
  | longer hc hd =>
    rw [hasHexMark_of_ne (ne_of_longer hc (by decide)),
      hasHexMark_of_ne (ne_of_longer hd (by decide))]
  | @same c cs ds hc h =>
    by_cases h0 : c = '0'
    case neg => rw [hasHexMark_of_ne h0, hasHexMark_of_ne h0]
    case pos =>
      subst h0
      cases h with
      | nil => rfl
      | longer hc hd =>
        have hx {e : Char} (he : e.utf8Size ≠ 1) : (e == 'x' || e == 'X') = false := by
          simp [ne_of_longer he (d := 'x') (by decide), ne_of_longer he (d := 'X') (by decide)]
        rw [hasHexMark_zero, hasHexMark_zero, hx hc, hx hd, Bool.false_and, Bool.false_and]
      | @same c cs ds hc h =>
        rw [hasHexMark_zero, hasHexMark_zero]
        cases h with
        | nil => rfl
        | same => rfl
        | longer hc hd => simp [mt (narrow_isDigitOf 16 _) hc, mt (narrow_isDigitOf 16 _) hd]

theorem chooseBase (h : Alike cs ds) (base : Nat) : chooseBase base cs = chooseBase base ds := by
  simp only [BusAccess.Uri.chooseBase, h.hasHexMark, h.head?_eq_iff (c := '0') (by decide)]

end Alike

/-! ## Integers -/

/-- A number with its sign is clamped as it is put together. -/
theorem signed_magnitude? (negative : Bool) (base : Nat) (ds : List Char) :
    signed negative (magnitude? base ds) =
      clamp (if negative then -(natOfDigits base ds : Int) else natOfDigits base ds) := by
  have hmin : minInteger = -maxInteger - 1 := rfl
  have hmax : 0 ≤ maxInteger := by decide
  rw [magnitude?, clamp]
  generalize natOfDigits base ds = m
  by_cases hm : (m : Int) ≤ maxInteger
  · rw [if_pos hm, hmin]
    cases negative <;> simp only [signed, Bool.false_eq_true, if_true, if_false] <;> omega
  · rw [if_neg hm]
    cases negative <;> simp only [signed, Bool.false_eq_true, if_true, if_false] <;> omega

/-- Whether the first `n` characters of a text take one byte each. -/
def NarrowTo (cs : List Char) (n : Nat) : Prop := ∀ c ∈ cs.take n, c.utf8Size = 1

theorem NarrowTo.add {m : Nat} (hm : NarrowTo cs m) (hn : NarrowTo (cs.drop m) n) :
    NarrowTo cs (m + n) := by
  rw [NarrowTo, List.take_add]
  exact List.forall_mem_append.2 ⟨hm, hn⟩

theorem narrowTo_takeWhile {test : Char → Bool} (ht : Narrow test) (cs : List Char) :
    NarrowTo cs (cs.takeWhile test).length := by
  intro c hc
  rw [← List.prefix_iff_eq_take.1 (List.takeWhile_prefix test)] at hc
  exact ht c (List.mem_takeWhile_imp hc)

theorem narrowTo_readSign (cs : List Char) : NarrowTo cs (readSign cs).2 := by
  cases cs with
  | nil => exact nofun
  | cons c cs =>
    rw [readSign_cons]
    split
    case isTrue hc => simp [NarrowTo, hc]; decide
    case isFalse =>
      split
      case isTrue hc => simp [NarrowTo, hc]; decide
      case isFalse => simp [NarrowTo]

theorem exists_of_hasHexMark (h : hasHexMark cs = true) :
    ∃ c rest, cs = '0' :: c :: rest ∧ (c = 'x' ∨ c = 'X') := by
  rw [hasHexMark.eq_def] at h
  split at h
  case h_1 => exact ⟨_, _, rfl, by simp_all⟩
  case h_2 => exact absurd h nofun

theorem narrowTo_chooseBase (base : Nat) (cs : List Char) : NarrowTo cs (chooseBase base cs).2 := by
  rw [chooseBase]
  split
  case isTrue h =>
    obtain ⟨c, rest, rfl, hc⟩ := exists_of_hasHexMark h.2
    rcases hc with rfl | rfl <;> simp [NarrowTo] <;> decide
  case isFalse =>
    split <;> simp [NarrowTo]

/-- **An integer reads alike** in texts that do. -/
theorem Alike.readInteger (h : Alike cs ds) (base : Nat) :
    readInteger base cs = readInteger base ds := by
  have h₁ := narrowTo_takeWhile narrow_isNumberBlank ds
  simp only [BusAccess.Uri.readInteger, h.takeWhile narrow_isNumberBlank, List.drop_drop]
  generalize (ds.takeWhile isNumberBlank).length = blanks at h₁ ⊢
  have h₂ := h₁.add (narrowTo_readSign (ds.drop blanks))
  rw [(h.drop h₁).readSign]
  generalize BusAccess.Uri.readSign (ds.drop blanks) = found at h₂ ⊢
  obtain ⟨negative, sign⟩ := found
  have h₃ := h₂.add (narrowTo_chooseBase base (ds.drop (blanks + sign)))
  simp only [(h.drop h₂).chooseBase]
  generalize BusAccess.Uri.chooseBase base (ds.drop (blanks + sign)) = found at h₃ ⊢
  obtain ⟨radix, mark⟩ := found
  simp only [(h.drop h₃).takeWhile (narrow_isDigitOf radix)]

/-- Walking over bytes comes as far as going through characters. -/
theorem walk_bytewise {test : Char → Bool} (ht : Narrow test) {i : Nat} (hi : NarrowTo cs i) :
    walk test (bytewise cs) i = i + ((cs.drop i).takeWhile test).length := by
  rw [walk, ((alike_bytewise cs).drop hi).takeWhile ht]

/-- What is walked over can be cut out, if it is anything. -/
theorem slice?_takeWhile {test : Char → Bool} (ht : Narrow test) {i : Nat} (hi : NarrowTo cs i)
    (hne : (cs.drop i).takeWhile test ≠ []) :
    slice? i (i + ((cs.drop i).takeWhile test).length) cs = some ((cs.drop i).takeWhile test) := by
  have hlen : (cs.take i).length = i := by
    have hle := add_length_takeWhile_le hne
    rw [List.length_take]
    omega
  have hcs : cs.take i ++ ((cs.drop i).takeWhile test ++ (cs.drop i).dropWhile test) = cs := by
    rw [List.takeWhile_append_dropWhile, List.take_append_drop]
  have hpiece : ∀ c ∈ (cs.drop i).takeWhile test, c.utf8Size = 1 :=
    fun c hc ↦ ht c (List.mem_takeWhile_imp hc)
  have h := slice?_of_one hi hpiece ((cs.drop i).dropWhile test)
  rwa [hcs, hlen] at h

theorem readBytes?_eq_and_narrowTo (base : Nat) (cs : List Char) :
    readBytes? base cs = some (readInteger base cs) ∧ NarrowTo cs (readInteger base cs).length := by
  have h := alike_bytewise cs
  have h₀ : NarrowTo cs 0 := by simp [NarrowTo]
  have hblanks := walk_bytewise narrow_isNumberBlank h₀
  rw [Nat.zero_add, List.drop_zero] at hblanks
  simp only [readBytes?, readInteger, hblanks, List.drop_drop]
  -- The blanks, the sign and the mark are gone through in both ways at once.
  have h₁ := narrowTo_takeWhile narrow_isNumberBlank cs
  generalize (cs.takeWhile isNumberBlank).length = blanks at h₁ ⊢
  have h₂ := h₁.add (narrowTo_readSign (cs.drop blanks))
  rw [(h.drop h₁).readSign]
  generalize readSign (cs.drop blanks) = found at h₂ ⊢
  obtain ⟨negative, sign⟩ := found
  have h₃ := h₂.add (narrowTo_chooseBase base (cs.drop (blanks + sign)))
  simp only [(h.drop h₂).chooseBase]
  generalize chooseBase base (cs.drop (blanks + sign)) = found at h₃ ⊢
  obtain ⟨radix, mark⟩ := found
  have h₄ := h₃.add (narrowTo_takeWhile (narrow_isDigitOf radix) (cs.drop (blanks + sign + mark)))
  simp only [walk_bytewise (narrow_isDigitOf radix) h₃]
  by_cases hd : (cs.drop (blanks + sign + mark)).takeWhile (isDigitOf radix) = []
  · simp [hd, h₀]
  · have hslice := slice?_takeWhile (narrow_isDigitOf radix) h₃ hd
    simp [hd, hslice, signed_magnitude?, h₄]

/-- **An integer is read** from the bytes of a text as it is from its characters, and its digits can
be cut out. -/
theorem readBytes?_eq (base : Nat) (cs : List Char) :
    readBytes? base cs = some (readInteger base cs) :=
  (readBytes?_eq_and_narrowTo base cs).1

/-- **An integer has a byte** for each of its characters. -/
theorem byteLength_take_readInteger (base : Nat) (cs : List Char) :
    byteLength (cs.take (readInteger base cs).length) = (readInteger base cs).length := by
  rw [byteLength_of_utf8Size_eq_one (readBytes?_eq_and_narrowTo base cs).2, List.length_take]
  exact Nat.min_eq_left (length_readInteger_le base cs)

end BusAccess.Uri
