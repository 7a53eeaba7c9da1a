import Mathlib.Algebra.Group.Nat.Defs
import BusAccess.Block.Heap

/-!
# Words in memory

A word that is put at an address takes the eight bytes from there on and no others, and it is read
back from there (`readWord_writeWord`).  Everything that is said of words reads only so much of the
memory, so it is enough that two memories agree there (`readWord_congr`).
-/

set_option autoImplicit false

namespace BusAccess.Block

/-! ## Spelling words -/

/-- The low digits of a number to the base of a byte spell what is left of it. -/
theorem wordOfBytes_map_range (n v : Nat) :
    wordOfBytes ((List.range n).map fun i ↦ UInt8.ofNat (v >>> (8 * i))) = v % 256 ^ n := by
  induction n generalizing v with
  | zero => simp [wordOfBytes, Nat.mod_one]
  | succ n ih =>
    have hshift (i : Nat) : v >>> (8 * (i + 1)) = (v / 256) >>> (8 * i) := by
      rw [Nat.mul_succ, Nat.add_comm, Nat.shiftRight_add, Nat.shiftRight_eq_div_pow v 8]
    rw [List.range_succ_eq_map, List.map_cons, List.map_map, wordOfBytes]
    simp only [Function.comp_def, Nat.succ_eq_add_one, hshift, ih]
    rw [Nat.pow_succ', Nat.mod_mul, Nat.mul_zero, Nat.shiftRight_zero, UInt8.toNat_ofNat']

theorem size_wordBytes (w : UInt64) : (wordBytes w).size = 8 := by
  rw [wordBytes, Array.size_map, Array.size_range]

theorem getD_wordBytes {w : UInt64} {i : Nat} (hi : i < 8) :
    (wordBytes w).getD i 0 = UInt8.ofNat (w.toNat >>> (8 * i)) := by
  have hsize : i < (wordBytes w).size := by rwa [size_wordBytes]
  calc (wordBytes w).getD i 0
    _ = (wordBytes w)[i] := (Array.getElem_eq_getD 0).symm
    _ = UInt8.ofNat (w.toNat >>> (8 * i)) := by
      simp only [wordBytes, Array.getElem_map, Array.getElem_range]

namespace Memory

variable {m m' : Memory} {start a b length : Nat} {byte : UInt8} {w : UInt64}

/-! ## What is changed and what is not -/

theorem fill_of_mem (h : start ≤ a ∧ a < start + length) : m.fill start length byte a = byte :=
  if_pos h

theorem fill_of_not_mem (h : ¬ (start ≤ a ∧ a < start + length)) : m.fill start length byte a = m a :=
  if_neg h

theorem write_of_not_mem {bytes : Array UInt8} (h : ¬ (start ≤ a ∧ a < start + bytes.size)) :
    m.write start bytes a = m a :=
  if_neg h

theorem writeWord_of_not_mem (h : a < start ∨ start + 8 ≤ a) : m.writeWord start w a = m a := by
  refine if_neg fun hmem ↦ ?_
  rw [size_wordBytes] at hmem
  omega

theorem writeWord_of_mem {i : Nat} (hi : i < 8) :
    m.writeWord start w (start + i) = UInt8.ofNat (w.toNat >>> (8 * i)) := by
  have hmem : start ≤ start + i ∧ start + i < start + (wordBytes w).size := by
    rw [size_wordBytes]
    omega
  rw [writeWord, write, if_pos hmem, Nat.add_sub_cancel_left, getD_wordBytes hi]

/-! ## Reading words -/

theorem readWord_congr (h : ∀ i < 8, m (a + i) = m' (a + i)) : m.readWord a = m'.readWord a := by
  have hread : m.read a 8 = m'.read a 8 :=
    List.map_congr_left fun i hi ↦ h i (List.mem_range.1 hi)
  rw [readWord, readWord, hread]

/-- **A word is read back** where it was put. -/
theorem readWord_writeWord : (m.writeWord a w).readWord a = w := by
  have hread : (m.writeWord a w).read a 8 =
      (List.range 8).map fun i ↦ UInt8.ofNat (w.toNat >>> (8 * i)) :=
    List.map_congr_left fun i hi ↦ writeWord_of_mem (List.mem_range.1 hi)
  have hlt : w.toNat < 256 ^ 8 := Nat.lt_of_lt_of_le w.toNat_lt (by decide)
  rw [readWord, hread, wordOfBytes_map_range, Nat.mod_eq_of_lt hlt, UInt64.ofNat_toNat]

/-- A word that lies apart from another one is not changed by it. -/
theorem readWord_writeWord_of_apart (h : a + 8 ≤ b ∨ b + 8 ≤ a) :
    (m.writeWord a w).readWord b = m.readWord b :=
  readWord_congr fun i hi ↦ writeWord_of_not_mem (by omega)

end Memory

end BusAccess.Block
