/-!
# What holds everywhere in a list

A place in a list has elements before it, the element there, and elements behind it.
`Everywhere Q w` says that `Q` holds of these three at every place of `w`.  It is how a rule about
the order of things is stated: what has to have happened before, and what has to happen next.

A list is gone through by `everywhere_cons`, and a list that is put together is taken apart by
`everywhere_append`.
-/

set_option autoImplicit false

namespace BusAccess

variable {α : Type} {Q : List α → α → List α → Prop} {x : α} {u v w : List α}

/-- Whether something holds at every place of a list. -/
def Everywhere (Q : List α → α → List α → Prop) (w : List α) : Prop :=
  ∀ before x after, w = before ++ x :: after → Q before x after

@[simp] theorem everywhere_nil : Everywhere Q [] := by
  intro before x after h
  exact absurd h.symm (List.append_ne_nil_of_right_ne_nil _ (List.cons_ne_nil _ _))

theorem everywhere_cons :
    Everywhere Q (x :: w) ↔ Q [] x w ∧ Everywhere (fun before ↦ Q (x :: before)) w := by
  constructor
  · intro h
    refine ⟨h [] x w rfl, fun before y after hw ↦ ?_⟩
    exact h (x :: before) y after (by rw [hw, List.cons_append])
  · rintro ⟨hx, hw⟩ before y after h
    cases before with
    | nil =>
      obtain ⟨rfl, rfl⟩ := List.cons.inj h
      exact hx
    | cons z before =>
      obtain ⟨rfl, hrest⟩ := List.cons.inj h
      exact hw before y after hrest

/-- **A place in two lists** is one in the first, before all of the second, or one in the second,
behind all of the first. -/
theorem everywhere_append :
    Everywhere Q (u ++ v) ↔
      Everywhere (fun before x after ↦ Q before x (after ++ v)) u ∧
        Everywhere (fun before ↦ Q (u ++ before)) v := by
  induction u generalizing Q with
  | nil => exact (and_iff_right everywhere_nil).symm
  | cons x u ih =>
    rw [List.cons_append, everywhere_cons, ih, everywhere_cons, and_assoc]
    rfl

/-- A rule that can be checked at one place can be checked everywhere. -/
instance Everywhere.decidable :
    (Q : List α → α → List α → Prop) → [∀ before x after, Decidable (Q before x after)] →
      (w : List α) → Decidable (Everywhere Q w)
  | _, _, [] => .isTrue everywhere_nil
  | Q, _, x :: w =>
    have := Everywhere.decidable (fun before ↦ Q (x :: before)) w
    decidable_of_iff _ everywhere_cons.symm

end BusAccess
