import BusAccess.Proofs.Uri.Meaning
import Mathlib.Data.List.Forall2
import Mathlib.Data.Nat.Digits.Lemmas

/-!
# How integers are written

An integer is written in three parts: a sign, which can be left out, a mark, and digits.  What marks
there are depends on the base (`Marked`).  Most bases have none.  Base 16 has one that can be left
out, and base 0 has no radix of its own: there it is the mark, or else the first digit, that says in
which of three radices the digits are to be read.  The digits spell a number with the first one
weighing most (`Spells`), so there is no end to the zeros that can stand in front.

The reader finds these parts in any text that begins with them (`readInteger_of_parts`), if two things
hold of what comes behind.  It does not go on with a digit.  And it does not make a mark of a zero:
`0` in front of `x1` is the beginning of a longer integer, in a base that has a mark.  Conversely the
reader finds nothing else.  Whatever a text begins with, there is a sign or none and then a place where
the text is read on as far as a mark and digits go (`digitsOf`), and both what it takes there and the
radix in which it takes it are as the base has it (`marked_chooseBase`).  No other mark and digits at
this place are longer (`length_le_of_marked`).
-/

set_option autoImplicit false

namespace BusAccess.Uri

variable {base radix m : Nat} {c : Char} {cs ds mark tail blanks : List Char}

/-! ## Digits -/

/-- The digits of all bases, each at the place of its value. -/
def lowerDigits : List Char := "0123456789abcdefghijklmnopqrstuvwxyz".toList

/-- The same with capital letters. -/
def upperDigits : List Char := "0123456789ABCDEFGHIJKLMNOPQRSTUVWXYZ".toList

/-- Whether a character is the digit of a value in a radix. -/
def IsDigit (radix : Nat) (c : Char) (d : Nat) : Prop :=
  d < radix ∧ (lowerDigits[d]? = some c ∨ upperDigits[d]? = some c)

/-- Whether digits spell a number in a radix.  The first digit weighs most. -/
structure Spells (radix : Nat) (ds : List Char) (m : Nat) : Prop where
  /-- There is a digit. -/
  nonempty : ds ≠ []
  /-- The digits have the values of the number. -/
  value : ∃ values, List.Forall₂ (IsDigit radix) ds values ∧
    Nat.ofDigits radix values.reverse = m

theorem digitValue_eq_some_iff {d : Nat} :
    digitValue c = some d ↔ lowerDigits[d]? = some c ∨ upperDigits[d]? = some c := by
  have hlower : ∀ d < 36, lowerDigits[d]?.bind digitValue = some d := by decide
  have hupper : ∀ d < 36, upperDigits[d]?.bind digitValue = some d := by decide
  have hvalue : ∀ n < 128, ∀ d ∈ digitValue (Char.ofNat n),
      lowerDigits[d]? = some (Char.ofNat n) ∨ upperDigits[d]? = some (Char.ofNat n) := by decide
  constructor
  · intro h
    have hc : isDigitOf (d + 1) c = true := by simp [isDigitOf, h]
    have hle := Char.utf8Size_eq_one_iff.1 (narrow_isDigitOf _ c hc)
    have hlt : c.toNat < 128 := Nat.lt_succ_of_le (UInt32.le_iff_toNat_le.1 hle)
    rw [← Char.ofNat_toNat c] at h ⊢
    exact hvalue c.toNat hlt d h
  · rintro (h | h)
    · obtain ⟨hd, -⟩ := List.getElem?_eq_some_iff.1 h
      simpa only [h, Option.bind_some] using hlower d hd
    · obtain ⟨hd, -⟩ := List.getElem?_eq_some_iff.1 h
      simpa only [h, Option.bind_some] using hupper d hd

theorem isDigit_iff {d : Nat} : IsDigit radix c d ↔ digitValue c = some d ∧ d < radix := by
  rw [IsDigit, ← digitValue_eq_some_iff, and_comm]

theorem isDigitOf_iff : isDigitOf radix c = true ↔ ∃ d, IsDigit radix c d := by
  simp only [isDigit_iff]
  cases h : digitValue c <;> simp [isDigitOf, h]

theorem isDigitOf_eq_false_iff : isDigitOf radix c = false ↔ ∀ d, ¬ IsDigit radix c d := by
  rw [← Bool.not_eq_true, isDigitOf_iff, not_exists]

theorem natOfDigits_eq (radix : Nat) (ds : List Char) :
    natOfDigits radix ds = Nat.ofDigits radix (ds.map fun c ↦ (digitValue c).getD 0).reverse := by
  rw [natOfDigits, Nat.ofDigits_eq_foldr, List.foldr_reverse, List.foldl_map]
  simp only [Nat.cast_id, Nat.mul_comm, Nat.add_comm]

/-- The values of digits. -/
theorem forall₂_isDigit_iff {values : List Nat} :
    List.Forall₂ (IsDigit radix) ds values ↔
      (∀ c ∈ ds, isDigitOf radix c = true) ∧ values = ds.map fun c ↦ (digitValue c).getD 0 := by
  induction ds generalizing values with
  | nil => simp
  | cons c ds ih =>
    simp only [List.forall₂_cons_left_iff, ih, List.forall_mem_cons, List.map_cons]
    constructor
    · rintro ⟨d, values, hd, ⟨hds, rfl⟩, rfl⟩
      exact ⟨⟨isDigitOf_iff.2 ⟨d, hd⟩, hds⟩, by simp [(isDigit_iff.1 hd).1]⟩
    · rintro ⟨⟨hc, hds⟩, rfl⟩
      obtain ⟨d, hd⟩ := isDigitOf_iff.1 hc
      exact ⟨d, _, hd, ⟨hds, rfl⟩, by simp [(isDigit_iff.1 hd).1]⟩

/-- **Digits spell one number**, and this is the one that is read. -/
theorem spells_iff : Spells radix ds m ↔
    ds ≠ [] ∧ (∀ c ∈ ds, isDigitOf radix c = true) ∧ natOfDigits radix ds = m := by
  constructor
  · rintro ⟨hne, values, hvalues, rfl⟩
    obtain ⟨hds, rfl⟩ := forall₂_isDigit_iff.1 hvalues
    exact ⟨hne, hds, natOfDigits_eq radix ds⟩
  · rintro ⟨hne, hds, rfl⟩
    exact ⟨hne, _, forall₂_isDigit_iff.2 ⟨hds, rfl⟩, (natOfDigits_eq radix ds).symm⟩

/-- **A text of digits is read as a whole** if its number is not too large. -/
theorem wordOfDigits?_of_spells (h : Spells radix ds m) (size : Nat) :
    wordOfDigits? size radix ds = if m < size then some m else none := by
  obtain ⟨hne, hdigits, rfl⟩ := spells_iff.1 h
  have hplus : ds.head? ≠ some '+' := by
    intro hhead
    have hdigit := hdigits '+' (List.mem_of_head? hhead)
    rw [isDigitOf, show digitValue '+' = none from by decide] at hdigit
    exact absurd hdigit Bool.false_ne_true
  have hds : (!ds.isEmpty && ds.all (isDigitOf radix)) = true := by
    simpa using ⟨hne, hdigits⟩
  simp only [wordOfDigits?, if_neg hplus, hds, Bool.true_and, decide_eq_true_eq]

/-- A number is less than what takes a digit more. -/
theorem spells_lt (hradix : 1 < radix) (h : Spells radix ds m) : m < radix ^ ds.length := by
  obtain ⟨-, hdigits, rfl⟩ := spells_iff.1 h
  have hlt : ∀ d ∈ (ds.map fun c ↦ (digitValue c).getD 0).reverse, d < radix := by
    intro d hd
    obtain ⟨c, hc, rfl⟩ := List.mem_map.1 (List.mem_reverse.1 hd)
    obtain ⟨d, hvalue⟩ := isDigitOf_iff.1 (hdigits c hc)
    obtain ⟨hvalue, hlt⟩ := isDigit_iff.1 hvalue
    simpa [hvalue] using hlt
  rw [natOfDigits_eq]
  simpa using Nat.ofDigits_lt_base_pow_length hradix hlt

/-- A zero in front does not count. -/
theorem Spells.zero_cons (h : Spells radix ds m) (hradix : 0 < radix) :
    Spells radix ('0' :: ds) m := by
  obtain ⟨-, hdigits, hvalue⟩ := spells_iff.1 h
  have hzero : isDigitOf radix '0' = true := isDigitOf_iff.2 ⟨0, isDigit_iff.2 ⟨rfl, hradix⟩⟩
  refine spells_iff.2 ⟨List.cons_ne_nil _ _, List.forall_mem_cons.2 ⟨hzero, hdigits⟩, ?_⟩
  rw [← hvalue, natOfDigits, List.foldl_cons, Nat.zero_mul]
  rfl

/-! ## Printed digits -/

theorem digitValue_digitChar : ∀ d < 16, digitValue d.digitChar = some d := by decide

/-- **A number is spelled** by the digits that it is printed with. -/
theorem spells_toDigits (hlo : 1 < radix) (hhi : radix ≤ 16) (n : Nat) :
    Spells radix (radix.toDigits n) n := by
  have hvalue {d : Nat} (hd : d < radix) : digitValue d.digitChar = some d :=
    digitValue_digitChar d (Nat.lt_of_lt_of_le hd hhi)
  have hdigit {d : Nat} (hd : d < radix) : ∀ c ∈ [d.digitChar], isDigitOf radix c = true :=
    List.forall_mem_singleton.2 (isDigitOf_iff.2 ⟨d, isDigit_iff.2 ⟨hvalue hd, hd⟩⟩)
  refine spells_iff.2 ⟨Nat.toDigits_ne_nil, ?_⟩
  induction n using Nat.strongRecOn with
  | ind n ih =>
    by_cases hn : n < radix
    · rw [Nat.toDigits_of_lt_base hn]
      exact ⟨hdigit hn, by simp [natOfDigits, hvalue hn]⟩
    · have hmod : n % radix < radix := Nat.mod_lt n (Nat.zero_lt_of_lt hlo)
      obtain ⟨hfront, hquotient⟩ := ih (n / radix) (Nat.div_lt_self (by omega) hlo)
      rw [Nat.toDigits_of_base_le hlo (Nat.not_lt.1 hn)]
      refine ⟨List.forall_mem_append.2 ⟨hfront, hdigit hmod⟩, ?_⟩
      rw [natOfDigits] at hquotient ⊢
      rw [List.foldl_append, hquotient, List.foldl_cons, List.foldl_nil, hvalue hmod,
        Option.getD_some, Nat.div_add_mod']

/-- No zero is printed in front. -/
theorem head?_toDigits {n : Nat} (hlo : 1 < radix) (hhi : radix ≤ 16) (hn : n ≠ 0) :
    (radix.toDigits n).head? ≠ some '0' := by
  induction n using Nat.strongRecOn with
  | ind n ih =>
    by_cases hlt : n < radix
    · rw [Nat.toDigits_of_lt_base hlt]
      intro hzero
      have hvalue := digitValue_digitChar n (Nat.lt_of_lt_of_le hlt hhi)
      rw [Option.some.inj hzero] at hvalue
      exact hn (Option.some.inj hvalue).symm
    · have hle := Nat.not_lt.1 hlt
      rw [Nat.toDigits_of_base_le hlo hle, List.head?_append_of_ne_nil _ Nat.toDigits_ne_nil]
      exact ih (n / radix) (Nat.div_lt_self (by omega) hlo)
        (Nat.ne_of_gt (Nat.div_pos hle (by omega)))

/-- Different numbers are printed differently. -/
theorem toDigits_inj {n : Nat} : Nat.toDigits 10 m = Nat.toDigits 10 n ↔ m = n := by
  refine ⟨fun h ↦ ?_, fun h ↦ by rw [h]⟩
  rw [← Nat.ofDigitChars_toDigits (b := 10) (n := m) (by decide) (by decide), h,
    Nat.ofDigitChars_toDigits (by decide) (by decide)]

/-- A number ends where no digit follows. -/
theorem takeWhile_isDigit_toDigits (hc : c.isDigit = false) (n : Nat) :
    (Nat.toDigits 10 n ++ c :: cs).takeWhile Char.isDigit = Nat.toDigits 10 n := by
  have hdigits (c : Char) (hc : c ∈ Nat.toDigits 10 n) : c.isDigit = true :=
    Nat.isDigit_of_mem_toDigits (by decide) (by decide) hc
  rw [List.takeWhile_append_of_pos hdigits, List.takeWhile_cons_of_neg (by simp [hc]),
    List.append_nil]

/-- **Printed numbers are told apart** in front of anything that is no digit. -/
theorem toDigits_append_inj {n : Nat} (hc : c.isDigit = false) :
    Nat.toDigits 10 m ++ c :: cs = Nat.toDigits 10 n ++ c :: ds ↔ m = n ∧ cs = ds := by
  refine ⟨fun h ↦ ?_, fun ⟨hn, hcs⟩ ↦ by rw [hn, hcs]⟩
  have hdigits := congrArg (List.takeWhile Char.isDigit) h
  rw [takeWhile_isDigit_toDigits hc, takeWhile_isDigit_toDigits hc] at hdigits
  rw [hdigits, List.append_cancel_left_eq] at h
  exact ⟨toDigits_inj.1 hdigits, (List.cons.inj h).2⟩

/-! ## Marks -/

/-- How digits are marked in a base, and the radix in which they are read.  Base 0 leaves the radix
open. -/
inductive Marked (base : Nat) : List Char → List Char → Nat → Prop
  | plain {ds : List Char} (hlo : 2 ≤ base) (hhi : base ≤ 36) : Marked base [] ds base
  | hexadecimal {x : Char} {ds : List Char} (hb : base = 0 ∨ base = 16) (hx : x = 'x' ∨ x = 'X') :
      Marked base ['0', x] ds 16
  | decimal {ds : List Char} (hb : base = 0) (hd : ds.head? ≠ some '0') : Marked base [] ds 10
  | octal {ds : List Char} (hb : base = 0) (hd : ds.head? = some '0') : Marked base [] ds 8

/-- Whether a text makes a zero in front of it the mark of an integer. -/
def CompletesMark (tail : List Char) : Prop :=
  ∃ x c rest, tail = x :: c :: rest ∧ (x = 'x' ∨ x = 'X') ∧ ∃ d, IsDigit 16 c d

/-- Whether an integer ends where a text begins: no digit comes next, and a zero alone is not made a
mark. -/
structure EndsAt (base radix : Nat) (mark ds tail : List Char) : Prop where
  /-- What follows is no digit. -/
  digit : ∀ c ∈ tail.head?, ∀ d, ¬ IsDigit radix c d
  /-- What follows does not complete a mark, where there could be one. -/
  mark : base = 0 ∨ base = 16 → mark = [] → ds = ['0'] → ¬ CompletesMark tail

/-- An integer can end where a text does. -/
theorem EndsAt.nil {mark ds : List Char} : EndsAt base radix mark ds [] := by
  refine ⟨nofun, fun _ _ _ h ↦ ?_⟩
  obtain ⟨_, _, _, htail, -⟩ := h
  exact absurd htail nofun

theorem hasHexMark_iff : hasHexMark cs = true ↔ ∃ rest, cs = '0' :: rest ∧ CompletesMark rest := by
  constructor
  · intro h
    rw [hasHexMark.eq_def] at h
    split at h
    case h_1 x c rest =>
      simp only [Bool.and_eq_true, Bool.or_eq_true, beq_iff_eq, isDigitOf_iff] at h
      exact ⟨_, rfl, x, c, rest, rfl, h⟩
    case h_2 => exact absurd h Bool.false_ne_true
  · rintro ⟨_, rfl, x, c, rest, rfl, hx, hc⟩
    simp [hasHexMark, hx, isDigitOf_iff.2 hc]

/-- The letter of a mark is a digit of large radices only. -/
theorem CompletesMark.not_digit (h : CompletesMark (c :: cs)) (hr : radix ≤ 33) :
    isDigitOf radix c = false := by
  obtain ⟨x, _, _, heq, hx, _⟩ := h
  obtain ⟨rfl, -⟩ := List.cons.inj heq
  have hvalue : digitValue c = some 33 := by rcases hx with rfl | rfl <;> rfl
  simp [isDigitOf, hvalue, hr]

/-- Digits do not begin with a mark, unless they are a zero alone. -/
theorem hasHexMark_of_digits (hne : ds ≠ []) (hdigits : ∀ c ∈ ds, isDigitOf radix c = true)
    (hr : radix ≤ 33) (hlone : ds = ['0'] → ¬ CompletesMark tail) :
    hasHexMark (ds ++ tail) = false := by
  rw [← Bool.not_eq_true, hasHexMark_iff]
  rintro ⟨rest, heq, hrest⟩
  cases ds with
  | nil => exact hne rfl
  | cons c ds =>
    obtain ⟨rfl, rfl⟩ := List.cons.inj heq
    cases ds with
    | nil => exact hlone rfl hrest
    | cons d ds =>
      have hd := hdigits d (by simp)
      rw [hrest.not_digit hr] at hd
      exact absurd hd nofun

theorem chooseBase_of_hexMark (hb : base = 0 ∨ base = 16) (h : hasHexMark cs = true) :
    chooseBase base cs = (16, 2) := by
  rw [chooseBase, if_pos ⟨hb, h⟩]

/-- **The mark of digits is found**, unless they are a zero alone that is taken for one. -/
theorem chooseBase_of_marked (hm : Marked base mark ds radix) (hne : ds ≠ [])
    (hdigits : ∀ c ∈ ds, isDigitOf radix c = true)
    (hlone : base = 0 ∨ base = 16 → mark = [] → ds = ['0'] → ¬ CompletesMark tail) :
    chooseBase base (mark ++ (ds ++ tail)) = (radix, mark.length) := by
  have hhead : (ds ++ tail).head? = ds.head? := List.head?_append_of_ne_nil _ hne
  cases hm with
  | plain hlo hhi =>
    have hmark : ¬ ((base = 0 ∨ base = 16) ∧ hasHexMark (ds ++ tail) = true) := by
      rintro ⟨hb, h⟩
      rw [hasHexMark_of_digits hne hdigits (by omega) (hlone hb rfl)] at h
      exact absurd h nofun
    rw [List.nil_append, chooseBase, if_neg hmark, if_neg (by omega), List.length_nil]
  | @hexadecimal x _ hb hx =>
    obtain ⟨c, ds, rfl⟩ := List.exists_cons_of_ne_nil hne
    refine chooseBase_of_hexMark hb (hasHexMark_iff.2 ⟨_, rfl, x, c, ds ++ tail, rfl, hx, ?_⟩)
    exact isDigitOf_iff.1 (hdigits c (by simp))
  | decimal hb hd =>
    have hmark := hasHexMark_of_digits hne hdigits (by omega) (hlone (.inl hb) rfl)
    simp [chooseBase, hb, hmark, hhead, hd]
  | octal hb hd =>
    have hmark := hasHexMark_of_digits hne hdigits (by omega) (hlone (.inl hb) rfl)
    simp [chooseBase, hb, hmark, hhead, hd]

/-- The digits that are read from a text, behind a mark if there is one. -/
def digitsOf (base : Nat) (cs : List Char) : List Char :=
  (cs.drop (chooseBase base cs).2).takeWhile (isDigitOf (chooseBase base cs).1)

/-- **Digits are read to their end.** -/
theorem digitsOf_of_marked (hm : Marked base mark ds radix) (hd : Spells radix ds m)
    (hend : EndsAt base radix mark ds tail) :
    chooseBase base (mark ++ (ds ++ tail)) = (radix, mark.length) ∧
      digitsOf base (mark ++ (ds ++ tail)) = ds := by
  obtain ⟨hne, hdigits, -⟩ := spells_iff.1 hd
  have hchosen := chooseBase_of_marked hm hne hdigits hend.mark
  have hnext : ∀ c ∈ tail.head?, isDigitOf radix c = false :=
    fun c hc ↦ isDigitOf_eq_false_iff.2 (hend.digit c hc)
  rw [digitsOf, hchosen, List.drop_left]
  exact ⟨rfl, takeWhile_append_eq_iff.2 ⟨hdigits, hnext⟩⟩

theorem head?_takeWhile_of_ne_nil {q : Char → Bool} (h : cs.takeWhile q ≠ []) :
    (cs.takeWhile q).head? = cs.head? := by
  cases cs with
  | nil => rfl
  | cons c cs =>
    by_cases hc : q c = true
    · simp [List.takeWhile_cons_of_pos hc]
    · exact absurd (List.takeWhile_cons_of_neg hc) h

/-- **What is read as a mark** is one, and the digits behind it are in its radix. -/
theorem marked_chooseBase (hbase : base = 0 ∨ 2 ≤ base ∧ base ≤ 36) (hne : digitsOf base cs ≠ []) :
    Marked base (cs.take (chooseBase base cs).2) (digitsOf base cs) (chooseBase base cs).1 ∧
      Spells (chooseBase base cs).1 (digitsOf base cs)
        (natOfDigits (chooseBase base cs).1 (digitsOf base cs)) := by
  refine ⟨?_, spells_iff.2 ⟨hne, fun c hc ↦ List.mem_takeWhile_imp hc, rfl⟩⟩
  by_cases hmark : (base = 0 ∨ base = 16) ∧ hasHexMark cs = true
  · obtain ⟨hb, h⟩ := hmark
    rw [chooseBase_of_hexMark hb h]
    obtain ⟨_, rfl, x, c, rest, rfl, hx, _⟩ := hasHexMark_iff.1 h
    exact .hexadecimal hb hx
  · rw [chooseBase, if_neg hmark]
    by_cases hb : base = 0
    · have hchosen : chooseBase base cs = (if cs.head? = some '0' then 8 else 10, 0) := by
        rw [chooseBase, if_neg hmark, if_pos hb]
      have hhead : (digitsOf base cs).head? = cs.head? := by
        rw [digitsOf, hchosen, List.drop_zero] at hne ⊢
        exact head?_takeWhile_of_ne_nil hne
      rw [if_pos hb]
      by_cases hzero : cs.head? = some '0'
      · simpa [hzero] using Marked.octal hb (hhead.trans hzero)
      · simpa [hzero] using Marked.decimal hb (hhead ▸ hzero)
    · rw [if_neg hb]
      obtain ⟨hlo, hhi⟩ := hbase.resolve_left hb
      exact .plain hlo hhi

/-- **A text is read as far** as any mark and digits at its beginning go. -/
theorem length_le_of_marked (hm : Marked base mark ds radix) (hd : Spells radix ds m)
    (hp : mark ++ ds <+: cs) :
    digitsOf base cs ≠ [] ∧
      (mark ++ ds).length ≤ (chooseBase base cs).2 + (digitsOf base cs).length := by
  obtain ⟨hne, hdigits, -⟩ := spells_iff.1 hd
  obtain ⟨t, rfl⟩ := hp
  rw [List.append_assoc]
  by_cases hlone : (base = 0 ∨ base = 16) ∧ mark = [] ∧ ds = ['0'] ∧ CompletesMark t
  · -- The zero is part of a mark, and the digits behind this are more than the zero.
    obtain ⟨hb, rfl, rfl, x, c, rest, rfl, hx, hc⟩ := hlone
    have hchosen : chooseBase base ('0' :: x :: c :: rest) = (16, 2) :=
      chooseBase_of_hexMark hb (hasHexMark_iff.2 ⟨_, rfl, x, c, rest, rfl, hx, hc⟩)
    have hread : digitsOf base ('0' :: x :: c :: rest) = c :: rest.takeWhile (isDigitOf 16) := by
      simp [digitsOf, hchosen, isDigitOf_iff.2 hc]
    simp only [List.nil_append, List.singleton_append, List.length_singleton, hchosen, hread]
    exact ⟨List.cons_ne_nil _ _, by omega⟩
  · have hchosen : chooseBase base (mark ++ (ds ++ t)) = (radix, mark.length) :=
      chooseBase_of_marked hm hne hdigits (by tauto)
    have hread := (isLongestPrefix_takeWhile (fun _ ↦ Iff.rfl) (ds ++ t)).longest ds
      (List.prefix_append _ _) hdigits
    have hpos := List.length_pos_iff.2 hne
    simp only [digitsOf, hchosen, List.drop_left, List.length_append]
    exact ⟨List.ne_nil_of_length_pos (by omega), by omega⟩

/-! ## Blanks and signs -/

/-- Whether a character can stand in front of an integer without meaning anything. -/
def IsBlank (c : Char) : Prop := c ∈ [' ', '\t', '\n', '\x0c', '\r']

instance (c : Char) : Decidable (IsBlank c) :=
  inferInstanceAs (Decidable (c ∈ [' ', '\t', '\n', '\x0c', '\r']))

theorem isNumberBlank_iff : isNumberBlank c = true ↔ IsBlank c := by
  simp [isNumberBlank, IsBlank, or_assoc]

/-- A text goes on after the characters of a kind at its beginning with one that is not of the kind. -/
theorem exists_split (q : Char → Prop) [DecidablePred q] (cs : List Char) :
    ∃ front rest, cs = front ++ rest ∧ (∀ c ∈ front, q c) ∧ ∀ c ∈ rest.head?, ¬ q c := by
  induction cs with
  | nil => exact ⟨[], [], rfl, nofun, nofun⟩
  | cons c cs ih =>
    by_cases hc : q c
    · obtain ⟨front, rest, rfl, hfront, hrest⟩ := ih
      exact ⟨c :: front, rest, rfl, List.forall_mem_cons.2 ⟨hc, hfront⟩, hrest⟩
    · refine ⟨[], c :: cs, rfl, nofun, ?_⟩
      rintro _ ⟨⟩
      exact hc

/-- What can stand in front of a mark. -/
inductive Sign where
  | none
  | plus
  | minus
  deriving DecidableEq, Repr

namespace Sign

/-- How a sign is written. -/
def text : Sign → List Char
  | none => []
  | plus => ['+']
  | minus => ['-']

/-- The integer that a sign makes of a number. -/
def apply : Sign → Nat → Int
  | none, m => m
  | plus, m => m
  | minus, m => -m

end Sign

/-- Whether a text begins with neither a blank nor a sign. -/
def Bare (cs : List Char) : Prop := ∀ c ∈ cs.head?, ¬ IsBlank c ∧ c ≠ '+' ∧ c ≠ '-'

variable {sign sign' : Sign}

theorem readSign_text (h : sign = .none → Bare cs) :
    readSign (sign.text ++ cs) = (decide (sign = .minus), sign.text.length) := by
  cases sign with
  | none =>
    cases cs with
    | nil => rfl
    | cons c cs =>
      obtain ⟨-, hplus, hminus⟩ := h rfl c rfl
      simp [Sign.text, readSign_cons, hplus, hminus]
  | plus => rfl
  | minus => rfl

/-- A text has one sign. -/
theorem sign_unique (h : sign = .none → Bare cs) (h' : sign' = .none → Bare ds)
    (heq : sign.text ++ cs = sign'.text ++ ds) : sign = sign' := by
  have hread := readSign_text h
  rw [heq, readSign_text h'] at hread
  revert hread
  cases sign <;> cases sign' <;> simp [Sign.text]

theorem exists_sign (hblank : ∀ c ∈ cs.head?, ¬ IsBlank c) :
    ∃ (sign : Sign) (rest : List Char), cs = sign.text ++ rest ∧ (sign = .none → Bare rest) := by
  cases cs with
  | nil => exact ⟨.none, [], rfl, fun _ ↦ nofun⟩
  | cons c cs =>
    by_cases hplus : c = '+'
    · exact ⟨.plus, cs, by rw [hplus]; rfl, nofun⟩
    · by_cases hminus : c = '-'
      · exact ⟨.minus, cs, by rw [hminus]; rfl, nofun⟩
      · refine ⟨.none, c :: cs, rfl, fun _ d hd ↦ ?_⟩
        obtain rfl := Option.some.inj hd
        exact ⟨hblank c rfl, hplus, hminus⟩

/-- Blanks and signs are no digits. -/
theorem bare_of_digit (hc : isDigitOf radix c = true) : Bare (c :: cs) := by
  rintro _ ⟨⟩
  refine ⟨?_, ?_, ?_⟩
  · intro hblank
    simp only [IsBlank, List.mem_cons, List.not_mem_nil, or_false] at hblank
    rcases hblank with rfl | rfl | rfl | rfl | rfl <;> exact absurd hc nofun
  · rintro rfl
    exact absurd hc nofun
  · rintro rfl
    exact absurd hc nofun

theorem bare_of_marked (hm : Marked base mark ds radix) (hd : Spells radix ds m) :
    Bare (mark ++ (ds ++ tail)) := by
  obtain ⟨hne, hdigits, -⟩ := spells_iff.1 hd
  obtain ⟨c, ds, rfl⟩ := List.exists_cons_of_ne_nil hne
  have hc : isDigitOf radix c = true := hdigits c (by simp)
  have hzero : isDigitOf 10 '0' = true := rfl
  cases hm with
  | hexadecimal hb hx => exact bare_of_digit hzero
  | plain hlo hhi => exact bare_of_digit hc
  | decimal hb hd => exact bare_of_digit hc
  | octal hb hd => exact bare_of_digit hc

/-! ## Integers -/

/-- **What is read** where there are blanks, a sign and a text without either. -/
theorem readInteger_append (hblanks : ∀ c ∈ blanks, IsBlank c) (hs : sign = .none → Bare cs) :
    readInteger base (blanks ++ (sign.text ++ cs)) =
      if digitsOf base cs = [] then ⟨0, 0⟩
      else ⟨blanks.length + sign.text.length + (chooseBase base cs).2 + (digitsOf base cs).length,
        clamp (sign.apply (natOfDigits (chooseBase base cs).1 (digitsOf base cs)))⟩ := by
  have hnext : ∀ c ∈ (sign.text ++ cs).head?, isNumberBlank c = false := by
    cases sign with
    | none => exact fun c hc ↦ Bool.eq_false_iff.2 (mt isNumberBlank_iff.1 (hs rfl c hc).1)
    | plus => rintro _ ⟨⟩; rfl
    | minus => rintro _ ⟨⟩; rfl
  have htake : (blanks ++ (sign.text ++ cs)).takeWhile isNumberBlank = blanks :=
    takeWhile_append_eq_iff.2 ⟨fun c hc ↦ isNumberBlank_iff.2 (hblanks c hc), hnext⟩
  simp only [readInteger, htake, List.drop_left, readSign_text hs, List.isEmpty_iff]
  rw [← digitsOf]
  cases sign <;> rfl

/-- **An integer is read back** from its parts. -/
theorem readInteger_of_parts (hblanks : ∀ c ∈ blanks, IsBlank c) (sign : Sign)
    (hm : Marked base mark ds radix) (hd : Spells radix ds m)
    (hend : EndsAt base radix mark ds tail) :
    readInteger base (blanks ++ (sign.text ++ (mark ++ (ds ++ tail)))) =
      ⟨(blanks ++ (sign.text ++ (mark ++ ds))).length, clamp (sign.apply m)⟩ := by
  obtain ⟨hchosen, hread⟩ := digitsOf_of_marked hm hd hend
  obtain ⟨hne, -, hvalue⟩ := spells_iff.1 hd
  rw [readInteger_append hblanks fun _ ↦ bare_of_marked hm hd, hchosen, hread, if_neg hne, hvalue]
  simp only [List.length_append, Nat.add_assoc]

/-- There are no digits to be read where none comes next.  In base 0 it is a decimal digit that does
not come next, because the other notations begin with one. -/
theorem digitsOf_eq_nil
    (hcs : ∀ c ∈ cs.head?, ∀ d, ¬ IsDigit (if base = 0 then 10 else base) c d) :
    digitsOf base cs = [] := by
  cases cs with
  | nil => simp [digitsOf]
  | cons c cs =>
    have hc := hcs c rfl
    have hzero : c ≠ '0' := by
      rintro rfl
      refine hc 0 (isDigit_iff.2 ⟨rfl, ?_⟩)
      split <;> omega
    have hchosen : chooseBase base (c :: cs) = (if base = 0 then 10 else base, 0) := by
      rw [chooseBase, hasHexMark_of_ne hzero, if_neg (by simp)]
      split <;> simp [hzero]
    rw [digitsOf, hchosen, List.drop_zero]
    exact List.takeWhile_cons_of_neg (by simp [isDigitOf_eq_false_iff.2 hc])

/-! ## Readers -/

namespace Reader

variable {r : Reader} {source : String} {piece : List Char} {v : Int}

/-- Whether a reader takes a piece of what is left for an integer, with the flag that keeps it where
it is and without. -/
structure Takes (r : Reader) (base : Nat) (piece tail : List Char) (v : Int) : Prop where
  /-- The integer is read, and the reader goes on behind the piece. -/
  goes : ∀ flags : Flags, flags.bits &&& 0x10 = 0 → r.integer base flags =
    some (.ok ⟨piece.length, v⟩, { r with position := r.position + piece.length })
  /-- There it finds the rest. -/
  behind : ({ r with position := r.position + piece.length } : Reader).rest? = some tail
  /-- The integer is read, and the reader stays if a flag says so. -/
  stays : ∀ flags : Flags, flags.bits &&& 0x10 ≠ 0 →
    r.integer base flags = some (.ok ⟨piece.length, v⟩, r)

theorem exists_shows {left : List Char} (hr : r.source = some source) (hrest : r.rest? = some left) :
    ∃ passed, r.Shows ⟨passed, some left⟩ := by
  rw [rest?, hr] at hrest
  obtain ⟨⟨passed, _⟩, hcut, rfl⟩ := Option.map_eq_some_iff.1 hrest
  obtain ⟨hsource, hposition⟩ := cut?_eq_some_iff.1 hcut
  exact ⟨passed, by rw [hr, ← hsource, String.ofList_toList], hposition⟩

/-- **A reader reads** from the text that it has left. -/
theorem integer_eq {left : List Char} (hr : r.source = some source)
    (hbase : base = 0 ∨ 2 ≤ base ∧ base ≤ 36) (hrest : r.rest? = some left) (flags : Flags) :
    r.integer base flags =
      some (.ok (readInteger base left), r.advance flags (readInteger base left).length) := by
  have hvalid : validBase base = true := by
    simp only [validBase, Bool.and_eq_true, decide_eq_true_eq]
    omega
  simp [integer, hvalid, hr, rest, hrest, readBytes?_eq]

theorem takes_of_readInteger (hr : r.source = some source)
    (hbase : base = 0 ∨ 2 ≤ base ∧ base ≤ 36) (hrest : r.rest? = some (piece ++ tail))
    (hread : readInteger base (piece ++ tail) = ⟨piece.length, v⟩) : r.Takes base piece tail v := by
  have hinteger := integer_eq hr hbase hrest
  rw [hread] at hinteger
  have hbytes : byteLength piece = piece.length := by
    have h := byteLength_take_readInteger base (piece ++ tail)
    rwa [hread, List.take_left] at h
  obtain ⟨passed, hshows⟩ := exists_shows hr hrest
  refine ⟨fun flags hf ↦ ?_, ?_, fun flags hf ↦ ?_⟩
  · rw [hinteger, advance, Flags.preserves_eq_false_iff.2 hf, if_neg Bool.false_ne_true]
  · have hbehind := rest?_advance_of_shows hshows (show ({} : Flags).preserves = false from rfl)
    rwa [hbytes] at hbehind
  · have hstays : flags.preserves = true := by
      simpa using mt Flags.preserves_eq_false_iff.1 hf
    rw [hinteger, advance, if_pos hstays]

/-- **Integers are read back.**  Behind blanks and a sign, a reader takes a mark and digits as long as
they do not go on in what comes next, and nothing else.  The value is that of the digits with the
sign, or the extreme one on its side.  Where no digit comes next it takes nothing, not even the
blanks. -/
theorem integer_reads_back (hr : r.source = some source) (hbase : base = 0 ∨ 2 ≤ base ∧ base ≤ 36)
    (hblanks : ∀ c ∈ blanks, IsBlank c) (sign : Sign) :
    (∀ mark ds tail radix m, Marked base mark ds radix → Spells radix ds m →
      EndsAt base radix mark ds tail →
      r.rest? = some (blanks ++ sign.text ++ mark ++ ds ++ tail) →
      r.Takes base (blanks ++ sign.text ++ mark ++ ds) tail (clamp (sign.apply m))) ∧
    ∀ tail, (sign = .none → Bare tail) →
      (∀ c ∈ tail.head?, ∀ d, ¬ IsDigit (if base = 0 then 10 else base) c d) →
      r.rest? = some (blanks ++ sign.text ++ tail) →
      r.Takes base [] (blanks ++ sign.text ++ tail) 0 := by
  constructor
  · intro mark ds tail radix m hm hd hend hrest
    refine takes_of_readInteger hr hbase hrest ?_
    have hread := readInteger_of_parts hblanks sign hm hd hend
    simpa only [List.append_assoc] using hread
  · intro tail hbare hnext hrest
    refine takes_of_readInteger hr hbase hrest ?_
    rw [List.nil_append, List.append_assoc, readInteger_append hblanks hbare,
      if_pos (digitsOf_eq_nil hnext), List.length_nil]

/-- A hexadecimal integer in the open base, in front of a letter that is no digit. -/
theorem integer_reads_back_hexadecimal :
    let r := ofSource (some " -0x00fFé")
    Spells 16 ['0', '0', 'f', 'F'] 255 ∧
      r.Takes 0 [' ', '-', '0', 'x', '0', '0', 'f', 'F'] ['é'] (-255) := by
  intro r
  have hspells : Spells 16 ['0', '0', 'f', 'F'] 255 :=
    spells_iff.2 ⟨by decide, List.all_eq_true.1 rfl, rfl⟩
  have hend : EndsAt 0 16 ['0', 'x'] ['0', '0', 'f', 'F'] ['é'] := by
    refine ⟨?_, nofun⟩
    rintro _ ⟨⟩
    exact isDigitOf_eq_false_iff.1 (by decide)
  have hblanks : ∀ c ∈ [' '], IsBlank c := by simp [IsBlank]
  refine ⟨hspells, ?_⟩
  exact (integer_reads_back (r := r) rfl (.inl rfl) hblanks .minus).1 ['0', 'x'] _ _ 16 255
    (.hexadecimal (.inl rfl) (.inl rfl)) hspells hend rfl

-- A magnitude that does not fit is clamped, and the zeros in front do not count.
example : readInteger 10 "-0009223372036854775809/".toList = ⟨23, minInteger⟩ := by
  decide

end Reader

end BusAccess.Uri
