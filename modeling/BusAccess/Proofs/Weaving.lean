import BusAccess.Proofs.Trace

/-!
# Programs inside programs

Where the requests of one program are answered by others, a run of the whole has the runs of the
answers in it.  `Woven answer t u` says how: `u` is the trace `t` with a run of its answer in the
place of each request, which ends with the reply that the request has in `t`.

The runs of the whole are then the runs of the first program with runs of the answers woven into
them, and nothing else (`runs_interpret`).  So what happens in answer to one request is a stretch of
the whole run, with what came before it and what comes after it on either side (`Woven.split`).
-/

set_option autoImplicit false

namespace BusAccess

open Log (Event)

namespace Program

variable {S T : Interface} {α : Type} {answer : (q : S.Request) → Program T (S.Reply q)}
  {t t₁ t₂ : Trace S} {u : Trace T}

/-- A trace with runs of the answers in place of the requests. -/
inductive Woven (answer : (q : S.Request) → Program T (S.Reply q)) : Trace S → Trace T → Prop
  | nil : Woven answer [] []
  | reported {e : Event} {t : Trace S} {u : Trace T} (h : Woven answer t u) :
      Woven answer (.reported e :: t) (.reported e :: u)
  | asked {q : S.Request} {r : S.Reply q} {v : Trace T} {t : Trace S} {u : Trace T}
      (hv : (answer q).Runs v r) (h : Woven answer t u) :
      Woven answer (.asked q r :: t) (v ++ u)

/-- **The runs of a program whose requests are answered by programs.** -/
theorem runs_interpret {p : Program S α} {a : α} :
    (p.interpret answer).Runs u a ↔ ∃ t, p.Runs t a ∧ Woven answer t u := by
  induction p generalizing u with
  | done b =>
    constructor
    · intro h
      obtain ⟨rfl, rfl⟩ := runs_done.1 h
      exact ⟨[], .done _, .nil⟩
    · rintro ⟨_, h, hw⟩
      obtain ⟨rfl, rfl⟩ := runs_done.1 h
      cases hw
      exact .done _
  | report e p ih =>
    constructor
    · intro h
      obtain ⟨u, rfl, hu⟩ := runs_report.1 h
      obtain ⟨t, ht, hw⟩ := ih.1 hu
      exact ⟨_, .report ht, .reported hw⟩
    · rintro ⟨_, h, hw⟩
      obtain ⟨t, rfl, ht⟩ := runs_report.1 h
      cases hw with
      | reported hw => exact .report (ih.2 ⟨t, ht, hw⟩)
  | ask q k ih =>
    constructor
    · intro h
      obtain ⟨v, r, u, hv, hu, rfl⟩ := runs_bind.1 h
      obtain ⟨t, ht, hw⟩ := (ih r).1 hu
      exact ⟨_, .ask ht, .asked hv hw⟩
    · rintro ⟨_, h, hw⟩
      obtain ⟨r, t, rfl, ht⟩ := runs_ask.1 h
      cases hw with
      | asked hv hw => exact runs_bind.2 ⟨_, r, _, hv, (ih r).2 ⟨t, ht, hw⟩, rfl⟩

theorem woven_append :
    Woven answer (t₁ ++ t₂) u ↔ ∃ u₁ u₂, u = u₁ ++ u₂ ∧ Woven answer t₁ u₁ ∧ Woven answer t₂ u₂ := by
  constructor
  · intro h
    induction t₁ generalizing u with
    | nil => exact ⟨[], u, rfl, .nil, h⟩
    | cons x t₁ ih =>
      cases h with
      | reported h =>
        obtain ⟨u₁, u₂, rfl, h₁, h₂⟩ := ih h
        exact ⟨_, u₂, rfl, .reported h₁, h₂⟩
      | asked hv h =>
        obtain ⟨u₁, u₂, rfl, h₁, h₂⟩ := ih h
        exact ⟨_, u₂, (List.append_assoc ..).symm, .asked hv h₁, h₂⟩
  · rintro ⟨u₁, u₂, rfl, h₁, h₂⟩
    induction h₁ with
    | nil => exact h₂
    | reported _ ih => exact .reported ih
    | asked hv _ ih =>
      rw [List.append_assoc]
      exact .asked hv ih

/-- What happens in answer to a request is a stretch of the whole run. -/
theorem Woven.split {q : S.Request} {r : S.Reply q}
    (h : Woven answer (t₁ ++ .asked q r :: t₂) u) :
    ∃ u₁ v u₂, u = u₁ ++ v ++ u₂ ∧ Woven answer t₁ u₁ ∧ (answer q).Runs v r ∧
      Woven answer t₂ u₂ := by
  obtain ⟨u₁, _, rfl, h₁, h₂⟩ := woven_append.1 h
  cases h₂ with
  | asked hv h₂ => exact ⟨u₁, _, _, (List.append_assoc ..).symm, h₁, hv, h₂⟩

end Program

namespace Action

variable {S T : Interface} {σ τ α : Type} {answer : (q : S.Request) → Program T (S.Reply q)}

/-- The runs of an action in other surroundings, on a state that is part of a larger type. -/
theorem runs_within {put : σ → τ} {x : Action S σ α} {s : σ} {u : Program.Trace T}
    {r : Except Error α} {s' : τ} (h : (x.within answer put s).Runs u (r, s')) :
    ∃ t s₁, (x s).Runs t (r, s₁) ∧ Program.Woven answer t u ∧ s' = put s₁ := by
  obtain ⟨v, ⟨r₁, s₁⟩, w, h₁, h₂, rfl⟩ := Program.runs_bind.1 h
  obtain ⟨rfl, h₃⟩ := Program.runs_done.1 h₂
  obtain ⟨rfl, rfl⟩ := Prod.mk.inj h₃
  obtain ⟨t, ht, hw⟩ := Program.runs_interpret.1 h₁
  rw [List.append_nil]
  exact ⟨t, s₁, ht, hw, rfl⟩

end Action

end BusAccess
