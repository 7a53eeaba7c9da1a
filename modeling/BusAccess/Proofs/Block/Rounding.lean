import Mathlib.Data.Nat.Bitwise
import Mathlib.Order.Bounds.Basic
import BusAccess.Block.Layout

/-!
# Rounding and adding without loss

Sizes are words, and arithmetic on words is cut off where it does not fit.  `alignUp?` and
`checkedAdd?` look at the result that there would be before they compute it, and say that there is
none if it is too large.  Here they are compared with `roundUp` and `+` on the natural numbers,
which know no end: the words come out as the numbers do (`alignUp?_eq_some_iff`,
`checkedAdd?_eq_some_iff`), and there is no word just if there cannot be one.

Rounding up looks at a sum that can be larger than what comes of it, so it is not clear at once that
nothing is refused which would have fitted.  It is so because the number of words is itself a
multiple of every power of two that is a word (`roundUp_lt_iff`, `sum_lt_size_iff`).  So
`alignUp?_least_multiple` can say what comes of rounding by the least multiple alone.
-/

set_option autoImplicit false

namespace BusAccess.Block

variable {n m a : Nat}

/-! ## Rounding up -/

/-- The least multiple of `a` that is not below `n`. -/
def roundUp (n a : Nat) : Nat := (n + (a - 1)) / a * a

theorem dvd_roundUp : a ∣ roundUp n a := Nat.dvd_mul_left a _

theorem le_roundUp (ha : 0 < a) : n ≤ roundUp n a := by
  have hmod := Nat.mod_lt (n + (a - 1)) ha
  have hdiv := Nat.div_add_mod' (n + (a - 1)) a
  rw [roundUp]
  omega

/-- Rounding up ends below a multiple just if the sum that it starts from does. -/
theorem roundUp_lt_iff (ha : 0 < a) (hm : a ∣ m) : roundUp n a < m ↔ n + (a - 1) < m := by
  obtain ⟨q, rfl⟩ := hm
  rw [roundUp, Nat.mul_comm a q, Nat.mul_lt_mul_right ha, Nat.div_lt_iff_lt_mul ha]

theorem roundUp_le (ha : 0 < a) (hm : a ∣ m) (hn : n ≤ m) : roundUp n a ≤ m := by
  have hnext : roundUp n a < m + a :=
    (roundUp_lt_iff ha (Nat.dvd_add hm (Nat.dvd_refl a))).2 (by omega)
  obtain ⟨q, rfl⟩ := hm
  obtain ⟨r, hr⟩ := dvd_roundUp (n := n) (a := a)
  rw [hr] at hnext ⊢
  rw [← Nat.mul_succ, Nat.mul_lt_mul_left ha] at hnext
  exact Nat.mul_le_mul_left a (Nat.le_of_lt_succ hnext)

/-- **Rounding up** gives the least multiple that is not below. -/
theorem isLeast_roundUp (ha : 0 < a) : IsLeast { m | a ∣ m ∧ n ≤ m } (roundUp n a) :=
  ⟨⟨dvd_roundUp, le_roundUp ha⟩, fun _ ⟨hm, hn⟩ ↦ roundUp_le ha hm hn⟩

/-! ## Words -/

/-- Clearing the lowest bits of a word leaves the multiple of a power of two below it. -/
theorem and_not_eq {k : Nat} (hn : n < 2 ^ 64) (hk : k < 64) :
    n &&& (2 ^ 64 - 1 - (2 ^ k - 1)) = n / 2 ^ k * 2 ^ k := by
  have hpow : 2 ^ k - 1 < 2 ^ 64 :=
    (Nat.sub_le _ 1).trans_lt (Nat.pow_lt_pow_right (by decide) hk)
  have hmask : 2 ^ 64 - 1 - (2 ^ k - 1) = 2 ^ 64 - ((2 ^ k - 1) + 1) := by omega
  refine Nat.eq_of_testBit_eq fun i ↦ ?_
  rw [hmask, Nat.testBit_and, Nat.testBit_two_pow_sub_succ hpow, Nat.testBit_two_pow_sub_one,
    Nat.testBit_mul_two_pow, Nat.testBit_div_two_pow]
  by_cases hi : i < k
  · simp [hi, Nat.not_le.2 hi]
  · have hki : k ≤ i := Nat.le_of_not_lt hi
    rw [Nat.sub_add_cancel hki]
    by_cases h64 : i < 64
    · simp [hi, hki, h64]
    · have hle : 2 ^ 64 ≤ 2 ^ i := Nat.pow_le_pow_right (by decide) (Nat.le_of_not_lt h64)
      have hhigh : n.testBit i = false := Nat.testBit_lt_two_pow (hn.trans_le hle)
      simp [hhigh]

variable {size align word x y : UInt64} {k : Nat}

theorem lt_of_toNat_eq_two_pow (hk : align.toNat = 2 ^ k) : k < 64 :=
  (Nat.pow_lt_pow_iff_right (by decide)).1 (hk ▸ align.toNat_lt)

theorem toNat_pos_of_eq_two_pow (hk : align.toNat = 2 ^ k) : 0 < align.toNat :=
  hk ▸ Nat.two_pow_pos k

theorem toNat_sub_one (hk : align.toNat = 2 ^ k) : (align - 1).toNat = align.toNat - 1 := by
  rw [UInt64.toNat_sub_of_le]
  · rfl
  · exact UInt64.le_iff_toNat_le.2 (toNat_pos_of_eq_two_pow hk)

/-- The sum that rounding starts from is a word just if the result is one. -/
theorem sum_lt_size_iff (hk : align.toNat = 2 ^ k) :
    size.toNat + (align - 1).toNat < UInt64.size ↔
      roundUp size.toNat align.toNat < UInt64.size := by
  have hdvd : align.toNat ∣ UInt64.size :=
    hk ▸ Nat.pow_dvd_pow 2 (lt_of_toNat_eq_two_pow hk).le
  rw [toNat_sub_one hk, roundUp_lt_iff (toNat_pos_of_eq_two_pow hk) hdvd]

theorem alignUp?_eq (hk : align.toNat = 2 ^ k) :
    alignUp? size align = if roundUp size.toNat align.toNat < UInt64.size then
      some (UInt64.ofNat (roundUp size.toNat align.toNat)) else none := by
  simp only [alignUp?, ← sum_lt_size_iff hk]
  split
  case isFalse => rfl
  case isTrue hfits =>
    refine congrArg some (UInt64.toNat_inj.1 ?_)
    have hmask : (~~~(align - 1)).toNat = 2 ^ 64 - 1 - (2 ^ k - 1) := by
      rw [UInt64.toNat_not, toNat_sub_one hk, hk]
      rfl
    rw [UInt64.toNat_and, hmask, UInt64.toNat_ofNat_of_lt' hfits,
      UInt64.toNat_ofNat_of_lt' ((sum_lt_size_iff hk).1 hfits),
      and_not_eq hfits (lt_of_toNat_eq_two_pow hk), roundUp, toNat_sub_one hk, hk]

/-- **A size is rounded up exactly**, if the result is a word. -/
theorem alignUp?_eq_some_iff (hk : align.toNat = 2 ^ k) :
    alignUp? size align = some word ↔ word.toNat = roundUp size.toNat align.toNat := by
  rw [alignUp?_eq hk]
  split
  case isTrue hfits =>
    rw [Option.some.injEq, ← UInt64.toNat_inj, UInt64.toNat_ofNat_of_lt' hfits, eq_comm]
  case isFalse hover =>
    refine iff_of_false nofun fun h ↦ hover ?_
    rw [← h]
    exact word.toNat_lt

theorem alignUp?_eq_none_iff (hk : align.toNat = 2 ^ k) :
    alignUp? size align = none ↔ UInt64.size ≤ roundUp size.toNat align.toNat := by
  rw [alignUp?_eq hk, ite_eq_right_iff, ← Nat.not_lt]
  simp

/-- **A sum is exact**, if it is a word. -/
theorem checkedAdd?_eq_some_iff : checkedAdd? x y = some word ↔ word.toNat = x.toNat + y.toNat := by
  rw [checkedAdd?]
  split
  case isTrue hfits =>
    have hsum : (x + y).toNat = x.toNat + y.toNat := by
      rw [UInt64.toNat_add]
      exact Nat.mod_eq_of_lt hfits
    rw [Option.some.injEq, ← UInt64.toNat_inj, hsum, eq_comm]
  case isFalse hover =>
    refine iff_of_false nofun fun h ↦ hover ?_
    rw [← h]
    exact word.toNat_lt

theorem checkedAdd?_eq_none_iff : checkedAdd? x y = none ↔ UInt64.size ≤ x.toNat + y.toNat := by
  rw [checkedAdd?, ite_eq_right_iff, ← Nat.not_lt]
  simp

/-! ## Exactness -/

/-- **Rounding up gives the least multiple that is not below**, for every size and every power of
two that is a word, up to the last multiple that is a word itself.  There is no result just if this
multiple is no word, and the sum that is looked at instead of it refuses neither more nor less. -/
theorem alignUp?_least_multiple (size : UInt64) (hk : align.toNat = 2 ^ k) :
    ∃ m, IsLeast { m | align.toNat ∣ m ∧ size.toNat ≤ m } m ∧
      (m < UInt64.size → ∃ word, alignUp? size align = some word ∧ word.toNat = m) ∧
      (alignUp? size align = none ↔ UInt64.size ≤ m) ∧
      (size.toNat + (align - 1).toNat < UInt64.size ↔ m < UInt64.size) := by
  refine ⟨roundUp size.toNat align.toNat, isLeast_roundUp (toNat_pos_of_eq_two_pow hk),
    fun hfits ↦ ?_, alignUp?_eq_none_iff hk, sum_lt_size_iff hk⟩
  have hword : (UInt64.ofNat (roundUp size.toNat align.toNat)).toNat = _ :=
    UInt64.toNat_ofNat_of_lt' hfits
  exact ⟨_, (alignUp?_eq_some_iff hk).2 hword, hword⟩

/-- Of the multiples of the largest power of two, the only positive word is reached with a sum that
is the last word, and behind it there is nothing to reach. -/
theorem alignUp?_least_multiple_half :
    (0x8000000000000000 : UInt64).toNat = 2 ^ 63 ∧
      (∃ word, alignUp? 0x8000000000000000 0x8000000000000000 = some word ∧
        word.toNat = 2 ^ 63) ∧
      alignUp? 0x8000000000000001 0x8000000000000000 = none := by
  have hhalf : (0x8000000000000000 : UInt64).toNat = 2 ^ 63 := rfl
  refine ⟨hhalf, ?_, ?_⟩
  · obtain ⟨m, hleast, hsome, -, hsum⟩ := alignUp?_least_multiple 0x8000000000000000 hhalf
    have hm : m = 2 ^ 63 := hleast.unique ⟨⟨⟨1, rfl⟩, by decide⟩, fun _ h ↦ h.2⟩
    rw [hm] at hsome hsum
    exact hsome (hsum.1 (by decide))
  · obtain ⟨m, hleast, -, hnone, -⟩ := alignUp?_least_multiple 0x8000000000000001 hhalf
    obtain ⟨⟨⟨q, hq⟩, hle⟩, -⟩ := hleast
    rw [hhalf] at hq
    simp only [UInt64.reduceToNat] at hle
    exact hnone.2 (by simp only [UInt64.size]; omega)

end BusAccess.Block
