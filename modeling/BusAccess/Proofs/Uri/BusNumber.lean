import BusAccess.Proofs.Uri.Numeral
import BusAccess.Proofs.Uri.Path

/-!
# Bus numbers in connection strings

The path of a connection string was said to hold an integer as the reader finds it (`Path`).  Here it
is said what is written there.  Behind the slash there is nothing, or there are blanks, a sign and
decimal digits, as many of each as one likes, as long as the value is a number of 32 bits (`BusPath`).
A sign does no harm where the value is zero.

An integer that is too large for the reader is clamped, and what it is clamped to is no bus number
either.  So it makes no difference that the reader does not know the value (`eq_of_clamp_eq`).
-/

set_option autoImplicit false

namespace BusAccess.Uri

variable {n : Option UInt32} {b : UInt32} {v : Int} {cs : List Char}

/-- The texts that say which bus, if any, by a decimal integer. -/
inductive BusPath : Option UInt32 → List Char → Prop
  | omitted : BusPath none []
  | slash : BusPath none ['/']
  | number {blanks ds : List Char} {m : Nat} {n : UInt32} (hblanks : ∀ c ∈ blanks, IsBlank c)
      (sign : Sign) (hd : Spells 10 ds m) (hn : sign.apply m = n.toNat) :
      BusPath (some n) ('/' :: (blanks ++ (sign.text ++ ds)))

/-- What is clamped to a bus number is the bus number. -/
theorem eq_of_clamp_eq (h : clamp v = b.toNat) : v = b.toNat := by
  have hb := b.toNat_lt
  simp only [clamp, minInteger, maxInteger] at h
  omega

theorem clamp_busNumber (b : UInt32) : clamp b.toNat = b.toNat := by
  have hb := b.toNat_lt
  simp only [clamp, minInteger, maxInteger]
  omega

theorem chooseBase_ten (cs : List Char) : chooseBase 10 cs = (10, 0) := by
  simp [chooseBase]

/-- **A text that is read as a bus number** to its end. -/
theorem readInteger_eq_busNumber_iff :
    cs ≠ [] ∧ readInteger 10 cs = ⟨cs.length, b.toNat⟩ ↔
      ∃ (blanks : List Char) (sign : Sign) (ds : List Char) (m : Nat),
        cs = blanks ++ (sign.text ++ ds) ∧ (∀ c ∈ blanks, IsBlank c) ∧ Spells 10 ds m ∧
          sign.apply m = b.toNat := by
  constructor
  · rintro ⟨hne, hread⟩
    obtain ⟨blanks, rest, rfl, hblanks, hrest⟩ := exists_split IsBlank cs
    obtain ⟨sign, ds, rfl, hbare⟩ := exists_sign hrest
    rw [readInteger_append hblanks hbare] at hread
    by_cases hnone : digitsOf 10 ds = []
    · rw [if_pos hnone, Numeral.mk.injEq] at hread
      exact absurd (List.length_eq_zero_iff.1 hread.1.symm) hne
    · obtain ⟨-, hd⟩ := marked_chooseBase (.inr (by decide)) hnone
      rw [if_neg hnone, chooseBase_ten, Numeral.mk.injEq] at hread
      rw [chooseBase_ten] at hd
      obtain ⟨hlen, hvalue⟩ := hread
      have hprefix : digitsOf 10 ds <+: ds := by
        rw [digitsOf, chooseBase_ten]
        exact List.takeWhile_prefix _
      have hall : digitsOf 10 ds = ds := by
        refine hprefix.eq_of_length ?_
        simp only [List.length_append] at hlen
        omega
      rw [hall] at hd hvalue
      exact ⟨blanks, sign, ds, _, rfl, hblanks, hd, eq_of_clamp_eq hvalue⟩
  · rintro ⟨blanks, sign, ds, m, rfl, hblanks, hd, hvalue⟩
    have hread := readInteger_of_parts hblanks sign (.plain (by decide) (by decide)) hd .nil
    rw [hvalue, clamp_busNumber, List.nil_append, List.append_nil] at hread
    refine ⟨fun hnil ↦ hd.nonempty ?_, hread⟩
    simp only [List.append_eq_nil_iff] at hnil
    exact hnil.2.2

/-- **Paths** are the texts with a decimal bus number. -/
theorem path_iff_busPath : Path n cs ↔ BusPath n cs := by
  constructor
  · intro h
    cases h with
    | omitted => exact .omitted
    | slash => exact .slash
    | number hne hread =>
      obtain ⟨blanks, sign, ds, m, rfl, hblanks, hd, hn⟩ :=
        readInteger_eq_busNumber_iff.1 ⟨hne, hread⟩
      exact .number hblanks sign hd hn
  · intro h
    cases h with
    | omitted => exact .omitted
    | slash => exact .slash
    | number hblanks sign hd hn =>
      obtain ⟨hne, hread⟩ :=
        readInteger_eq_busNumber_iff.2 ⟨_, sign, _, _, rfl, hblanks, hd, hn⟩
      exact .number hne hread

end BusAccess.Uri
