import Mathlib.Data.List.Basic

/-!
# Tables in ascending order

Some backends keep the numbers of their open devices in ascending order, and put a new one in its
place by going through the table until a larger one comes.  `insertAscending` does so for any order
in which two different elements can be compared.  What goes in is in, and nothing else changes
(`mem_insertAscending`, `insertAscending_perm`), and the table stays in ascending order, each number
being there at most once (`pairwise_insertAscending`).
-/

set_option autoImplicit false

namespace BusAccess

variable {α : Type} [DecidableEq α] {lt : α → α → Prop} [DecidableRel lt] {a b : α} {l : List α}

/-- Puts an element in its place, unless it is there already. -/
def insertAscending (lt : α → α → Prop) [DecidableRel lt] (a : α) : List α → List α
  | [] => [a]
  | b :: l => if lt a b then a :: b :: l else if a = b then b :: l else b :: insertAscending lt a l

theorem mem_insertAscending : b ∈ insertAscending lt a l ↔ b = a ∨ b ∈ l := by
  induction l with
  | nil => rw [insertAscending, List.mem_singleton, or_iff_left List.not_mem_nil]
  | cons c l ih =>
    rw [insertAscending]
    split
    · rw [List.mem_cons]
    · split
      case isTrue hc =>
        rw [hc, List.mem_cons, ← or_assoc, or_self]
      case isFalse hc =>
        rw [List.mem_cons, ih, List.mem_cons, or_left_comm]

/-- An element that is not in the table comes in as one more. -/
theorem insertAscending_perm (ha : a ∉ l) : (insertAscending lt a l).Perm (a :: l) := by
  induction l with
  | nil => exact .refl _
  | cons c l ih =>
    rw [List.mem_cons, not_or] at ha
    rw [insertAscending]
    split
    · exact .refl _
    · rw [if_neg ha.1]
      exact ((ih ha.2).cons c).trans (.swap a c l)

/-- **The table stays in ascending order.** -/
theorem pairwise_insertAscending (htrans : ∀ {a b c : α}, lt a b → lt b c → lt a c)
    (hlt : ∀ {a b : α}, ¬ lt a b → a ≠ b → lt b a) (hl : l.Pairwise lt) :
    (insertAscending lt a l).Pairwise lt := by
  induction l with
  | nil => exact List.pairwise_singleton _ _
  | cons c l ih =>
    obtain ⟨hc, hl⟩ := List.pairwise_cons.1 hl
    rw [insertAscending]
    split
    case isTrue hac =>
      refine List.pairwise_cons.2 ⟨fun b hb ↦ ?_, List.pairwise_cons.2 ⟨hc, hl⟩⟩
      rcases List.mem_cons.1 hb with rfl | hb
      · exact hac
      · exact htrans hac (hc b hb)
    case isFalse hac =>
      split
      · exact List.pairwise_cons.2 ⟨hc, hl⟩
      case isFalse hne =>
        refine List.pairwise_cons.2 ⟨fun b hb ↦ ?_, ih hl⟩
        rcases mem_insertAscending.1 hb with rfl | hb
        · exact hlt hac hne
        · exact hc b hb

end BusAccess
