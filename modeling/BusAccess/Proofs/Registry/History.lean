import BusAccess.Platform.Roster
import BusAccess.Proofs.Trace

/-!
# How a roster comes about

A roster starts out empty, and changes in five ways: a new backend is put on it and registered, or
put on it only, to be registered at some later time or never; one on it is registered; one on it
changes its name; and the preferred name is set.  `Roster.after` is the roster after a list of such
changes, in any order and with any arguments.  Changes that are refused are in the list like all
others.

What matters of a history is which registrations were accepted, and in which order.  This is
`Roster.accepted`.  The registry holds exactly these backends, the last one first
(`entries_after`), and none of them twice (`nodup_after`).  Both come from what a single change
does (`Change.entries_apply`), by induction on the history.

Names play no part in it: a backend may take the name of another after both are registered.
-/

set_option autoImplicit false

namespace BusAccess

open Log (Event)

namespace Registry

variable {ι : Type} [DecidableEq ι] {S : Interface}

/-- Whether a backend can be registered: it has a name, which no other has, and is new. -/
def Admits (name : ι → String) (r : Registry ι) (i : ι) : Prop :=
  name i ≠ "" ∧ ∀ j ∈ r.entries, i ≠ j ∧ name j ≠ name i

instance (name : ι → String) (r : Registry ι) (i : ι) : Decidable (r.Admits name i) :=
  inferInstanceAs (Decidable (_ ∧ _))

/-- What is said of a registration that is refused. -/
def refusal (name : ι → String) (i : ι) : Event :=
  if name i = "" then .error "refusing to register an unnamed backend"
  else .error "backend is already registered"

theorem admits_iff {name : ι → String} {r : Registry ι} {i : ι} :
    r.Admits name i ↔ (name i).isEmpty = false ∧
      (r.entries.any fun j ↦ i == j || name j == name i) = false := by
  simp only [Admits, Bool.eq_false_iff, ne_eq, String.isEmpty_iff, List.any_eq_true,
    Bool.or_eq_true, beq_iff_eq, not_exists, not_and, not_or]

/-- **A registration** puts a backend in front if it can be registered, and otherwise changes
nothing. -/
theorem register_run (name : ι → String) (r : Registry ι) (i : ι) :
    (register name i : Action S (Registry ι) Unit) r =
      if r.Admits name i then
        .report (.debug "backend registered")
          (.done (.ok (), { r with entries := i :: r.entries }))
      else .report (refusal name i) (.done (.error .invalidName, r)) := by
  simp only [register, Action.bind_run, Action.get_run, Program.bind]
  cases he : (name i).isEmpty with
  | true =>
    have hr : ¬ r.Admits name i := by
      rw [admits_iff, he]
      exact fun h ↦ Bool.noConfusion h.1
    rw [if_neg hr, refusal, if_pos (String.isEmpty_iff.1 he)]
    rfl
  | false =>
    have hn : name i ≠ "" := by
      rw [ne_eq, ← String.isEmpty_iff, he]
      exact Bool.false_ne_true
    cases ha : r.entries.any fun j ↦ i == j || name j == name i with
    | true =>
      have hr : ¬ r.Admits name i := by
        rw [admits_iff, ha]
        exact fun h ↦ Bool.noConfusion h.2
      rw [if_neg hr, refusal, if_neg hn]
      rfl
    | false =>
      rw [if_pos (admits_iff.2 ⟨he, ha⟩)]
      rfl

end Registry

namespace Roster

variable {M : Type} {S : Interface}

/-- The roster on which a backend is the last one registered. -/
def listed (i : Nat) (r : Roster M) : Roster M :=
  { r with registry := { r.registry with entries := i :: r.registry.entries } }

theorem registerAt_run (i : Nat) (r : Roster M) :
    (registerAt i : Action S (Roster M) Unit) r =
      if r.registry.Admits r.name i then
        .report (.debug "backend registered") (.done (.ok (), r.listed i))
      else .report (Registry.refusal r.name i) (.done (.error .invalidName, r)) := by
  rw [registerAt, Registry.register_run]
  by_cases h : r.registry.Admits r.name i
  · rw [if_pos h, if_pos h]
    rfl
  · rw [if_neg h, if_neg h]
    rfl

/-! ## Changes -/

/-- A change to a roster. -/
inductive Change (M : Type) where
  /-- A new backend is put on the roster and registered. -/
  | register (f : Factory M)
  /-- A new backend is put on the roster, and not registered for now. -/
  | enroll (f : Factory M)
  /-- A backend of the roster is registered. -/
  | registerAt (i : Nat)
  | rename (i : Nat) (name : String)
  | prefer (name : Option String)

namespace Change

/-- How a change is made. -/
def perform : Change M → Action Program.silence (Roster M) Unit
  | register f => Roster.register f
  | enroll f => modify (Roster.enroll f)
  | registerAt i => Roster.registerAt i
  | rename i name => modify (Roster.rename i name)
  | prefer name => modify (Roster.setPreferred name)

/-- What comes of a change, and the roster after it. -/
def result (c : Change M) (r : Roster M) : Except Error Unit × Roster M := (c.perform r).outcome.1

/-- The roster after a change. -/
def apply (c : Change M) (r : Roster M) : Roster M := (c.result r).2

/-- The backend that a change is to register. -/
def candidate (r : Roster M) : Change M → Option Nat
  | register _ => some r.factories.length
  | registerAt i => some i
  | _ => none

/-- The backend that a change does register. -/
def accepted (c : Change M) (r : Roster M) : Option Nat :=
  match (c.result r).1 with
  | .ok _ => c.candidate r
  | .error _ => none

/-- A backend on the roster is registered if the registry admits it. -/
theorem result_registerAt (i : Nat) (r : Roster M) :
    (registerAt i).result r =
      if r.registry.Admits r.name i then (.ok (), r.listed i) else (.error .invalidName, r) := by
  rw [result, perform, registerAt_run]
  by_cases h : r.registry.Admits r.name i
  · rw [if_pos h, if_pos h]
    rfl
  · rw [if_neg h, if_neg h]
    rfl

/-- **A change** puts in front what it registers, and leaves the others where they are. -/
theorem entries_apply (c : Change M) (r : Roster M) :
    (c.apply r).registry.entries = (c.accepted r).toList ++ r.registry.entries := by
  have step (i : Nat) (r : Roster M) :
      ((registerAt i).apply r).registry.entries =
        ((registerAt i).accepted r).toList ++ r.registry.entries := by
    rw [apply, accepted, result_registerAt]
    by_cases h : r.registry.Admits r.name i
    · rw [if_pos h]
      rfl
    · rw [if_neg h]
      rfl
  cases c with
  -- A new backend is on the roster when it is registered, and stays there if it is refused.
  | register f => exact step r.factories.length (r.enroll f)
  | enroll f => rfl
  | registerAt i => exact step i r
  | rename i name => rfl
  | prefer name => rfl

/-- What a change registers was not registered before. -/
theorem not_mem_of_accepted {c : Change M} {r : Roster M} {i : Nat} (h : c.accepted r = some i) :
    i ∉ r.registry.entries := by
  have step {i j : Nat} {r : Roster M} (h : (registerAt i).accepted r = some j) :
      j ∉ r.registry.entries := by
    rw [accepted, result_registerAt] at h
    by_cases ha : r.registry.Admits r.name i
    · rw [if_pos ha] at h
      obtain rfl : i = j := Option.some.inj h
      intro hm
      exact (ha.2 i hm).1 rfl
    · rw [if_neg ha] at h
      exact nomatch h
  cases c with
  | register f => exact step (r := r.enroll f) h
  | registerAt j => exact step h
  | enroll f => exact nomatch h
  | rename j name => exact nomatch h
  | prefer name => exact nomatch h

end Change

/-! ## Histories -/

/-- The roster after a number of changes. -/
def after : List (Change M) → Roster M → Roster M
  | [], r => r
  | c :: cs, r => after cs (c.apply r)

/-- The backends that a number of changes register, the first one first. -/
def accepted : List (Change M) → Roster M → List Nat
  | [], _ => []
  | c :: cs, r => (c.accepted r).toList ++ accepted cs (c.apply r)

/-- **What is registered** is what was accepted, the last one first. -/
theorem entries_after (cs : List (Change M)) (r : Roster M) :
    (after cs r).registry.entries = (accepted cs r).reverse ++ r.registry.entries := by
  induction cs generalizing r with
  | nil => rfl
  | cons c cs ih =>
    have hc : (c.accepted r).toList.reverse = (c.accepted r).toList := by
      cases c.accepted r <;> rfl
    rw [after, ih, Change.entries_apply, accepted, List.reverse_append, List.append_assoc, hc]

/-- **Nothing is registered twice.** -/
theorem nodup_after (cs : List (Change M)) {r : Roster M} (h : r.registry.entries.Nodup) :
    (after cs r).registry.entries.Nodup := by
  induction cs generalizing r with
  | nil => exact h
  | cons c cs ih =>
    refine ih ?_
    rw [Change.entries_apply]
    cases hc : c.accepted r with
    | none => exact h
    | some i => exact List.nodup_cons.2 ⟨Change.not_mem_of_accepted hc, h⟩

end Roster

end BusAccess
