import BusAccess.Uri.Cursor

/-!
# What buffers keep

A buffer of a fixed size keeps of a text what fits, up to the first character that does not.  So it
keeps all of a text that has no more bytes than the buffer (`Capture.store_of_fits`), and never more
bytes than its size (`Capture.byteLength_store_le`).  Since every character takes a byte at least, a
text with more characters than the buffer has bytes is not kept as a whole, and a comparison of its
characters with the bytes that were kept shows this (`keep?_of_lt`).
-/

set_option autoImplicit false

namespace BusAccess.Uri

variable {cs ds : List Char} {n : Nat}

/-! ## The length of a text in bytes -/

theorem byteLength_append (cs ds : List Char) :
    byteLength (cs ++ ds) = byteLength cs + byteLength ds := by
  induction cs with
  | nil => rw [List.nil_append, byteLength_nil, Nat.zero_add]
  | cons c cs ih => rw [List.cons_append, byteLength_cons, ih, byteLength_cons, Nat.add_assoc]

/-- Every character takes a byte at least. -/
theorem length_le_byteLength (cs : List Char) : cs.length ≤ byteLength cs := by
  induction cs with
  | nil => exact Nat.le_refl 0
  | cons c cs ih =>
    have hc := c.utf8Size_pos
    rw [List.length_cons, byteLength_cons]
    omega

/-- A text of characters of one byte has as many bytes as characters. -/
theorem byteLength_of_utf8Size_eq_one (h : ∀ c ∈ cs, c.utf8Size = 1) :
    byteLength cs = cs.length := by
  induction cs with
  | nil => rfl
  | cons c cs ih =>
    obtain ⟨hc, hcs⟩ := List.forall_mem_cons.1 h
    rw [byteLength_cons, hc, ih hcs, List.length_cons, Nat.add_comm]

/-! ## Buffers -/

namespace Capture

/-- What fits is appended as a whole. -/
theorem fill_of_fits (h : byteLength cs + byteLength ds ≤ n) :
    (⟨some n, cs⟩ : Capture).fill ds = ⟨some n, cs ++ ds⟩ := by
  induction ds generalizing cs with
  | nil => rw [fill, List.append_nil]
  | cons d ds ih =>
    rw [byteLength_cons, ← Nat.add_assoc] at h
    have hd : (⟨some n, cs⟩ : Capture).fits d = true :=
      decide_eq_true (Nat.le_of_add_right_le h)
    have hds : byteLength (cs ++ [d]) + byteLength ds ≤ n := by
      rwa [byteLength_append, byteLength_cons, byteLength_nil, Nat.add_zero]
    rw [fill, if_pos hd, ih hds, List.append_assoc, List.singleton_append]

/-- A buffer is never filled beyond its size. -/
theorem byteLength_fill_le (h : byteLength cs ≤ n) (ds : List Char) :
    byteLength ((⟨some n, cs⟩ : Capture).fill ds).text ≤ n := by
  induction ds generalizing cs with
  | nil => exact h
  | cons d ds ih =>
    rw [fill]
    split
    case isTrue hd =>
      refine ih ?_
      rw [byteLength_append, byteLength_cons, byteLength_nil, Nat.add_zero]
      exact of_decide_eq_true hd
    case isFalse => exact h

theorem store_of_fits (h : byteLength ds ≤ n) :
    ((⟨some n, cs⟩ : Capture).store ds).text = ds := by
  have hfits : byteLength [] + byteLength ds ≤ n := by rwa [byteLength_nil, Nat.zero_add]
  rw [store, fill_of_fits hfits, List.nil_append]

theorem byteLength_store_le (cs ds : List Char) :
    byteLength ((⟨some n, cs⟩ : Capture).store ds).text ≤ n :=
  byteLength_fill_le (Nat.zero_le n) ds

end Capture

section Pieces

variable {capacity : Nat} {piece kept : List Char}

/-- A piece that fits is kept. -/
theorem keep?_of_fits (h : byteLength piece ≤ capacity) : keep? capacity piece = some piece := by
  simp only [keep?, Capture.store_of_fits h]
  exact if_neg (Nat.not_lt.2 (length_le_byteLength piece))

/-- A piece with more characters than the buffer has bytes is not taken. -/
theorem keep?_of_lt (h : capacity < piece.length) : keep? capacity piece = none := by
  simp only [keep?]
  exact if_pos (Nat.lt_of_le_of_lt (Capture.byteLength_store_le [] piece) h)

/-- Characters of one byte are kept if there is room for all of them. -/
theorem keep?_eq_some_iff (h : ∀ c ∈ piece, c.utf8Size = 1) :
    keep? capacity piece = some kept ↔ piece.length ≤ capacity ∧ kept = piece := by
  by_cases hl : piece.length ≤ capacity
  · rw [keep?_of_fits (by rwa [byteLength_of_utf8Size_eq_one h]), Option.some.injEq, eq_comm]
    exact (and_iff_right hl).symm
  · rw [keep?_of_lt (Nat.lt_of_not_le hl)]
    exact iff_of_false nofun fun hk ↦ hl hk.1

end Pieces

end BusAccess.Uri
