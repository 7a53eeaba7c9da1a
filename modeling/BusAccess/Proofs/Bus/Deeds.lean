import BusAccess.Proofs.Bus.Invariant

/-!
# What came of the uses of a bus

Which devices are open on a bus is a matter of what its methods were answered: opening a device says
which handle it has, or that it failed.  A `Deed` is a use of a bus together with what came of it,
and `Bus.acts` uses a bus several times and keeps the deeds in order.  Keeping them changes nothing
(`uses_eq_acts`).

What every deed keeps up, given the deeds before it, holds after all of them (`acts_induction`), and
so does what is said of the run as well (`acts_trace_induction`).
-/

set_option autoImplicit false

namespace BusAccess

open Program (Trace)

/-- A use of a bus and what came of it. -/
inductive Deed (M : Methods) where
  | method (m : M.Method) (result : Except Error (M.Answer m))
  | release (result : Except Error Unit)

namespace Bus

variable {M : Methods} {S : Interface} {σ : Type}

/-- Uses a bus once and says what came of it. -/
def act (t : Table M.operations S σ) : Use M → Bus σ → Program S (Deed M × Bus σ)
  | .method m, b => (M.perform t m b).bind fun (r, b') ↦ .done (.method m r, b')
  | .release, b => (Bus.release t b).bind fun (r, b') ↦ .done (.release r, b')

/-- Uses a bus several times and says what came of it. -/
def acts (t : Table M.operations S σ) : List (Use M) → Bus σ → Program S (List (Deed M) × Bus σ)
  | [], b => .done ([], b)
  | u :: us, b => (act t u b).bind fun (d, b') ↦
    (acts t us b').bind fun (ds, b'') ↦ .done (d :: ds, b'')

variable {t : Table M.operations S σ}

theorem use_eq_act (u : Use M) (b : Bus σ) :
    use t u b = (act t u b).bind fun p ↦ .done p.2 := by
  cases u <;> rw [use, act, Program.bind_assoc] <;> rfl

/-- **Saying what came of it** makes no difference to the uses of a bus. -/
theorem uses_eq_acts (us : List (Use M)) (b : Bus σ) :
    uses t us b = (acts t us b).bind fun p ↦ .done p.2 := by
  induction us generalizing b with
  | nil => rfl
  | cons u us ih =>
    rw [uses, acts, use_eq_act, Program.bind_assoc, Program.bind_assoc]
    congr 1
    funext p
    rw [Program.bind_assoc]
    exact ih p.2

variable {b b' : Bus σ} {trace : Trace S}

/-- Uses whose deeds are known are uses. -/
theorem uses_of_acts {us : List (Use M)} {ds : List (Deed M)}
    (h : (acts t us b).Runs trace (ds, b')) : (uses t us b).Runs trace b' := by
  rw [uses_eq_acts]
  exact Program.runs_bind.2 ⟨trace, _, [], h, .done _, (List.append_nil trace).symm⟩

theorem runs_act_method {m : M.Method} {d : Deed M}
    (h : (act t (.method m) b).Runs trace (d, b')) :
    ∃ r, d = .method m r ∧ (M.perform t m b).Runs trace (r, b') := by
  obtain ⟨v, ⟨r, b₁⟩, w, h₁, h₂, rfl⟩ := Program.runs_bind.1 h
  obtain ⟨rfl, h₃⟩ := Program.runs_done.1 h₂
  obtain ⟨rfl, rfl⟩ := Prod.mk.inj h₃
  rw [List.append_nil]
  exact ⟨r, rfl, h₁⟩

theorem runs_act_release {d : Deed M} (h : (act t .release b).Runs trace (d, b')) :
    ∃ r, d = .release r ∧ (Bus.release t b).Runs trace (r, b') := by
  obtain ⟨v, ⟨r, b₁⟩, w, h₁, h₂, rfl⟩ := Program.runs_bind.1 h
  obtain ⟨rfl, h₃⟩ := Program.runs_done.1 h₂
  obtain ⟨rfl, rfl⟩ := Prod.mk.inj h₃
  rw [List.append_nil]
  exact ⟨r, rfl, h₁⟩

/-- Nothing comes of the uses of a bus that is gone but errors. -/
theorem runs_act_gone (hb : b.core = none) {u : Use M} {d : Deed M}
    (h : (act t u b).Runs trace (d, b')) :
    b' = b ∧ ∃ e, d = .release (.error e) ∨ ∃ m, d = .method m (.error e) := by
  cases u with
  | method m =>
    rw [act, (M.routes t m).run_gone hb] at h
    obtain ⟨_, h₁⟩ := Program.runs_done.1 h
    obtain ⟨rfl, rfl⟩ := Prod.mk.inj h₁
    exact ⟨rfl, _, .inr ⟨m, rfl⟩⟩
  | release =>
    rw [act, release_gone t hb] at h
    obtain ⟨_, h₁⟩ := Program.runs_done.1 h
    obtain ⟨rfl, rfl⟩ := Prod.mk.inj h₁
    exact ⟨rfl, _, .inl rfl⟩

/-- **What every deed keeps up**, said of everything that happened, holds after all of them. -/
theorem acts_trace_induction {P : Trace S → List (Deed M) → Bus σ → Prop}
    (hstep : ∀ {past : Trace S} {ds : List (Deed M)} {b : Bus σ} {u : Use M} {trace : Trace S}
      {d : Deed M} {b' : Bus σ}, P past ds b → (act t u b).Runs trace (d, b') →
      P (past ++ trace) (ds ++ [d]) b')
    {us : List (Use M)} (past : Trace S) {before ds : List (Deed M)} (hb : P past before b)
    (h : (acts t us b).Runs trace (ds, b')) : P (past ++ trace) (before ++ ds) b' := by
  induction us generalizing b past before ds trace with
  | nil =>
    obtain ⟨rfl, h₁⟩ := Program.runs_done.1 h
    obtain ⟨rfl, rfl⟩ := Prod.mk.inj h₁
    rwa [List.append_nil, List.append_nil]
  | cons u us ih =>
    obtain ⟨v, ⟨d, b₁⟩, w, h₁, h₂, rfl⟩ := Program.runs_bind.1 h
    obtain ⟨v₁, ⟨ds₁, b₂⟩, v₂, h₃, h₄, rfl⟩ := Program.runs_bind.1 h₂
    obtain ⟨rfl, h₅⟩ := Program.runs_done.1 h₄
    obtain ⟨rfl, rfl⟩ := Prod.mk.inj h₅
    have hds := ih _ (hstep hb h₁) h₃
    rwa [List.append_assoc, List.append_assoc, List.singleton_append, ← List.append_nil v₁] at hds

/-- **What every deed keeps up** holds after all of them. -/
theorem acts_induction {P : List (Deed M) → Bus σ → Prop}
    (hstep : ∀ {past : List (Deed M)} {b : Bus σ} {u : Use M} {trace : Trace S} {d : Deed M}
      {b' : Bus σ}, P past b → (act t u b).Runs trace (d, b') → P (past ++ [d]) b')
    {us : List (Use M)} {past ds : List (Deed M)} (hb : P past b)
    (h : (acts t us b).Runs trace (ds, b')) : P (past ++ ds) b' :=
  acts_trace_induction (P := fun _ ↦ P) (fun hb h ↦ hstep hb h) [] hb h

end Bus

end BusAccess
