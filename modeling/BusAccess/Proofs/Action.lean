import BusAccess.Proofs.Trace

/-!
# Runs of actions

An action started in a state is a program, so it has runs: `(x s).Runs t (r, s')` says that `x`,
started in `s`, can go through the steps of `t` and end with the result `r` in the state `s'`.

The laws below take such a run apart where the action was put together, one for each thing an action
can begin with.  The general one is `runs_bind`, which leaves two cases: the first part succeeds and
the second goes on from where it left off, or the first part fails and that is all.  The others are
for first parts of which it is known how they come out, so that an operation of a backend is
followed line by line without ever being turned into a tree.
-/

set_option autoImplicit false

namespace BusAccess.Action

open Log (Event)
open Program (Trace)

variable {S : Interface} {σ α β : Type} {s s' : σ} {t : Trace S} {r : Except Error β}

/-! ## Ends -/

theorem runs_pure {b : β} :
    ((pure b : Action S σ β) s).Runs t (r, s') ↔ t = [] ∧ r = .ok b ∧ s' = s := by
  rw [pure_run, Program.runs_done, Prod.mk.injEq]

theorem runs_throw {e : Error} :
    ((throw e : Action S σ β) s).Runs t (r, s') ↔ t = [] ∧ r = .error e ∧ s' = s := by
  rw [throw_run, Program.runs_done, Prod.mk.injEq]

theorem runs_ofExcept {v : Except Error β} :
    ((ofExcept v : Action S σ β) s).Runs t (r, s') ↔ t = [] ∧ r = v ∧ s' = s := by
  rw [ofExcept, Program.runs_done, Prod.mk.injEq]

theorem runs_report {e : Event} {r : Except Error Unit} :
    (report e s : Program S _).Runs t (r, s') ↔ t = [.reported e] ∧ r = .ok () ∧ s' = s := by
  rw [report_run, Program.runs_report]
  constructor
  · rintro ⟨u, rfl, hu⟩
    obtain ⟨rfl, h⟩ := Program.runs_done.1 hu
    obtain ⟨rfl, rfl⟩ := Prod.mk.inj h
    exact ⟨rfl, rfl, rfl⟩
  · rintro ⟨rfl, rfl, rfl⟩
    exact ⟨[], rfl, .done _⟩

theorem runs_ask {q : S.Request} {r : Except Error (S.Reply q)} :
    (ask q s).Runs t (r, s') ↔ ∃ a, t = [.asked q a] ∧ r = .ok a ∧ s' = s := by
  rw [ask_run, Program.runs_ask]
  constructor
  · rintro ⟨a, u, rfl, hu⟩
    obtain ⟨rfl, h⟩ := Program.runs_done.1 hu
    obtain ⟨rfl, rfl⟩ := Prod.mk.inj h
    exact ⟨a, rfl, rfl, rfl⟩
  · rintro ⟨a, rfl, rfl, rfl⟩
    exact ⟨a, [], rfl, .done _⟩

/-! ## One thing after another -/

/-- **A run of one action and then another** goes through both, or fails in the first. -/
theorem runs_bind {x : Action S σ α} {f : α → Action S σ β} :
    ((x >>= f) s).Runs t (r, s') ↔
      (∃ t₁ a s₁ t₂, (x s).Runs t₁ (.ok a, s₁) ∧ (f a s₁).Runs t₂ (r, s') ∧ t = t₁ ++ t₂) ∨
        ∃ e, (x s).Runs t (.error e, s') ∧ r = .error e := by
  rw [bind_run, Program.runs_bind]
  constructor
  · rintro ⟨t₁, ⟨_ | a, s₁⟩, t₂, h₁, h₂, rfl⟩
    · obtain ⟨rfl, h⟩ := Program.runs_done.1 h₂
      obtain ⟨rfl, rfl⟩ := Prod.mk.inj h
      exact .inr ⟨_, by rwa [List.append_nil], rfl⟩
    · exact .inl ⟨t₁, a, s₁, t₂, h₁, h₂, rfl⟩
  · rintro (⟨t₁, a, s₁, t₂, h₁, h₂, rfl⟩ | ⟨e, h, rfl⟩)
    · exact ⟨t₁, (.ok a, s₁), t₂, h₁, h₂, rfl⟩
    · exact ⟨t, (.error e, s'), [], h, .done _, (List.append_nil t).symm⟩

/-- What comes after an action that cannot fail is always gone on with. -/
theorem runs_bind_of_ok {x : Action S σ α} {f : α → Action S σ β}
    (hx : ∀ {u : Trace S} {result : Except Error α} {s₁ : σ},
      (x s).Runs u (result, s₁) → ∃ a, result = .ok a)
    (h : ((x >>= f) s).Runs t (r, s')) :
    ∃ t₁ a s₁ t₂, (x s).Runs t₁ (.ok a, s₁) ∧ (f a s₁).Runs t₂ (r, s') ∧ t = t₁ ++ t₂ := by
  obtain h | ⟨e, h, _⟩ := runs_bind.1 h
  · exact h
  · obtain ⟨a, ha⟩ := hx h
    exact absurd ha nofun

theorem runs_get_bind {f : σ → Action S σ β} :
    ((get >>= f) s).Runs t (r, s') ↔ (f s s).Runs t (r, s') := Iff.rfl

theorem runs_set_bind {s₁ : σ} {f : PUnit → Action S σ β} :
    ((set s₁ >>= f) s).Runs t (r, s') ↔ (f () s₁).Runs t (r, s') := Iff.rfl

theorem runs_modify_bind {g : σ → σ} {f : PUnit → Action S σ β} :
    ((modify g >>= f) s).Runs t (r, s') ↔ (f () (g s)).Runs t (r, s') := Iff.rfl

/-- Nothing comes after a failure. -/
theorem runs_throw_bind {e : Error} {f : α → Action S σ β} :
    ((throw e >>= f) s).Runs t (r, s') ↔ t = [] ∧ r = .error e ∧ s' = s :=
  runs_throw

theorem runs_report_bind {e : Event} {f : Unit → Action S σ β} :
    ((report e >>= f) s).Runs t (r, s') ↔ ∃ u, t = .reported e :: u ∧ (f () s).Runs u (r, s') :=
  Program.runs_report

theorem runs_ask_bind {q : S.Request} {f : S.Reply q → Action S σ β} :
    ((ask q >>= f) s).Runs t (r, s') ↔ ∃ a u, t = .asked q a :: u ∧ (f a s).Runs u (r, s') :=
  Program.runs_ask

theorem runs_ofExcept_bind {v : Except Error α} {f : α → Action S σ β} :
    ((ofExcept v >>= f) s).Runs t (r, s') ↔
      (∃ a, v = .ok a ∧ (f a s).Runs t (r, s')) ∨
        ∃ e, v = .error e ∧ t = [] ∧ r = .error e ∧ s' = s := by
  cases v with
  | error e =>
    simp only [reduceCtorEq, false_and, exists_false, Except.error.injEq, exists_eq_left', false_or]
    exact runs_throw
  | ok a =>
    simp only [Except.ok.injEq, exists_eq_left', reduceCtorEq, false_and, exists_false, or_false]
    rfl

theorem runs_require_bind {v : Except Error α} {e : Error} {f : α → Action S σ β} :
    ((require v e >>= f) s).Runs t (r, s') ↔
      (∃ a, v = .ok a ∧ (f a s).Runs t (r, s')) ∨
        (∃ e', v = .error e') ∧ t = [] ∧ r = .error e ∧ s' = s := by
  cases v with
  | error e' =>
    simp only [reduceCtorEq, false_and, exists_false, Except.error.injEq, exists_eq', true_and,
      false_or]
    exact runs_throw
  | ok a =>
    simp only [Except.ok.injEq, exists_eq_left', reduceCtorEq, exists_false, false_and, or_false]
    rfl

theorem runs_demand_bind {v : Option α} {e : Error} {f : α → Action S σ β} :
    ((demand v e >>= f) s).Runs t (r, s') ↔
      (∃ a, v = some a ∧ (f a s).Runs t (r, s')) ∨ v = none ∧ t = [] ∧ r = .error e ∧ s' = s := by
  cases v with
  | none =>
    simp only [reduceCtorEq, false_and, exists_false, true_and, false_or]
    exact runs_throw
  | some a =>
    simp only [Option.some.injEq, exists_eq_left', reduceCtorEq, false_and, or_false]
    rfl

/-- Demands something of the state. -/
theorem runs_guard_bind {p : σ → Bool} {e : Error} {f : Unit → Action S σ β} :
    (((do
        let s ← get
        if p s then return () else throw e : Action S σ Unit) >>= f) s).Runs t (r, s') ↔
      p s = true ∧ (f () s).Runs t (r, s') ∨ p s = false ∧ t = [] ∧ r = .error e ∧ s' = s := by
  cases hs : p s with
  | true =>
    simp only [bind_run, get_run, Program.bind, hs, if_true, pure_run, true_and, Bool.true_eq_false,
      false_and, or_false]
  | false =>
    simp only [bind_run, get_run, Program.bind, hs, Bool.false_eq_true, if_false, throw_run,
      Program.runs_done, Prod.mk.injEq, false_and, true_and, false_or]

theorem runs_attempt_bind {x : Action S σ α} {f : Except Error α → Action S σ β} :
    ((attempt x >>= f) s).Runs t (r, s') ↔
      ∃ t₁ a s₁ t₂, (x s).Runs t₁ (a, s₁) ∧ (f a s₁).Runs t₂ (r, s') ∧ t = t₁ ++ t₂ := by
  rw [bind_run, attempt, Program.bind_assoc, Program.runs_bind]
  constructor
  · rintro ⟨t₁, ⟨a, s₁⟩, t₂, h⟩
    exact ⟨t₁, a, s₁, t₂, h⟩
  · rintro ⟨t₁, a, s₁, t₂, h⟩
    exact ⟨t₁, ⟨a, s₁⟩, t₂, h⟩

end BusAccess.Action
