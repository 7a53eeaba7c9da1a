import BusAccess.Proofs.Action
import BusAccess.Proofs.Bus.Release

/-!
# What holds of a bus through all its uses

A bus does three things with its backend.  It passes a call on, and keeps count by what comes of it;
it tells the backend to disconnect, once; and when it is given up it does the latter unless that is
done already.  `runs_call`, `runs_release` and `runs_drop` say so for the runs of a bus that still
has its backend, and nothing else needs to be known of a bus.

Two things follow for any backend.  What every call and the release of the backend keep up holds
through all uses of the bus (`Preserved.of_uses`); it may speak of the bus and of everything that
happened so far.  And the life of a bus has three parts (`life_split`): uses that only call methods,
then the one release of the backend, and after that reports and no request at all.
-/

set_option autoImplicit false

namespace BusAccess

open Log (Event)
open Program (Trace calls)

namespace Bus

section Parts

variable {K : Operations} {S : Interface} {σ : Type} {t : Table K S σ} {b b' : Bus σ} {s : σ}
  {trace : Trace S}

/-! ## The three parts -/

theorem runs_call (hb : b.core = some s) {c : K.Call} {r : Except Error (K.Answer c)}
    (h : (Bus.call t c b).Runs trace (r, b')) :
    ∃ s', (t.call c s).Runs trace (r, s') ∧
      b' = { b with core := some s', openDevices := (K.role c).count r b.openDevices } := by
  rw [Bus.call, hb] at h
  obtain ⟨u, ⟨r₁, s'⟩, v, h₁, h₂, rfl⟩ := Program.runs_bind.1 h
  obtain ⟨rfl, h₃⟩ := Program.runs_done.1 h₂
  obtain ⟨rfl, rfl⟩ := Prod.mk.inj h₃
  rw [List.append_nil]
  exact ⟨s', h₁, rfl⟩

/-- A call that the backend answers at once leaves the bus as it is, if it does not count. -/
theorem call_at_once (hb : b.core = some s) {c : K.Call} {r : Except Error (K.Answer c)}
    (h : t.call c s = .done (r, s)) (hc : (K.role c).count r b.openDevices = b.openDevices) :
    Bus.call t c b = .done (r, b) := by
  rw [Bus.call, hb]
  show (t.call c s).bind _ = _
  rw [h, Program.bind]
  simp only [hc, ← hb]

theorem runs_call_gone (hb : b.core = none) {c : K.Call} {r : Except Error (K.Answer c)}
    (h : (Bus.call t c b).Runs trace (r, b')) :
    trace = [] ∧ r = .error .invalidObject ∧ b' = b := by
  rw [call_gone t c hb] at h
  obtain ⟨rfl, h₁⟩ := Program.runs_done.1 h
  exact ⟨rfl, Prod.mk.inj h₁⟩

theorem runs_release (hb : b.core = some s) {r : Except Error Unit}
    (h : (Bus.release t b).Runs trace (r, b')) :
    ∃ u s', (t.release s).Runs u (r, s') ∧ trace = u ++ [.reported (.debug "bus released")] ∧
      b' = { b with core := none, openDevices := 0 } := by
  rw [Bus.release, hb] at h
  obtain ⟨u, ⟨r₁, s'⟩, v, h₁, h₂, rfl⟩ := Program.runs_bind.1 h
  obtain ⟨w, rfl, h₃⟩ := Program.runs_report.1 h₂
  obtain ⟨rfl, h₄⟩ := Program.runs_done.1 h₃
  obtain ⟨rfl, rfl⟩ := Prod.mk.inj h₄
  exact ⟨u, s', h₁, rfl, rfl⟩

theorem runs_drop (hb : b.core = some s) (h : (Bus.drop t b).Runs trace ()) :
    ∃ u r s' v, (t.release s).Runs u (r, s') ∧ trace = u ++ v ∧ calls v = [] := by
  rw [Bus.drop, hb] at h
  obtain ⟨u, ⟨r, s'⟩, v, h₁, h₂, rfl⟩ := Program.runs_bind.1 h
  refine ⟨u, r, s', v, h₁, rfl, ?_⟩
  cases r with
  | ok _ =>
    obtain ⟨rfl, _⟩ := Program.runs_done.1 h₂
    rfl
  | error e =>
    obtain ⟨w, rfl, h₃⟩ := Program.runs_report.1 h₂
    obtain ⟨rfl, _⟩ := Program.runs_done.1 h₃
    rfl

/-- Nothing happens any more when a bus that is gone is given up. -/
theorem runs_drop_gone (hb : b.core = none) (h : (Bus.drop t b).Runs trace ()) : trace = [] := by
  rw [Bus.drop, hb] at h
  exact (Program.runs_done.1 h).1

/-! ## Where a bus is in its life -/

theorem state_of_core (hb : b.core = some s) :
    b.state = if b.openDevices = 0 then .unopened else .deviceOpen := by
  rw [Bus.state, hb]

theorem state_eq_unopened_iff (hb : b.core = some s) :
    b.state = .unopened ↔ b.openDevices = 0 := by
  rw [state_of_core hb]
  split
  case isTrue hn => exact iff_of_true rfl hn
  case isFalse hn => exact iff_of_false nofun hn

theorem state_eq_deviceOpen_iff (hb : b.core = some s) :
    b.state = .deviceOpen ↔ b.openDevices ≠ 0 := by
  rw [state_of_core hb]
  split
  case isTrue hn => exact iff_of_false nofun (not_not_intro hn)
  case isFalse hn => exact iff_of_true rfl hn

/-! ## What is kept up -/

/-- Something that is said of a bus and of what happened to it so far, and that is kept up by
whatever the backend does. -/
structure Preserved (t : Table K S σ) (P : Trace S → Bus σ → Prop) : Prop where
  /-- A call keeps it up. -/
  call : ∀ {past : Trace S} {b : Bus σ} {s : σ} {c : K.Call} {trace : Trace S}
    {r : Except Error (K.Answer c)} {s' : σ}, P past b → b.core = some s →
    (t.call c s).Runs trace (r, s') → P (past ++ trace)
      { b with core := some s', openDevices := (K.role c).count r b.openDevices }
  /-- Releasing keeps it up. -/
  release : ∀ {past : Trace S} {b : Bus σ} {s : σ} {trace : Trace S} {r : Except Error Unit}
    {s' : σ}, P past b → b.core = some s → (t.release s).Runs trace (r, s') →
    P (past ++ (trace ++ [.reported (.debug "bus released")]))
      { b with core := none, openDevices := 0 }

end Parts

end Bus

section Routes

variable {K : Operations} {S : Interface} {σ α : Type} {t : Table K S σ}
  {P : Trace S → Bus σ → Prop} {past trace : Trace S} {b b' : Bus σ} {s : σ}

/-- A method passes on one call or does nothing at all. -/
theorem Routes.runs {route : Except Error K.Call} {x : Action S (Bus σ) α} (hx : Routes t route x)
    (hs : b.core = some s) {r : Except Error α} (h : (x b).Runs trace (r, b')) :
    (∃ c r' s', route = .ok c ∧ (t.call c s).Runs trace (r', s') ∧
        b' = { b with core := some s', openDevices := (K.role c).count r' b.openDevices }) ∨
      trace = [] ∧ b' = b := by
  cases hx with
  | call c =>
    obtain ⟨s', h₁, hb'⟩ := Bus.runs_call hs h
    exact .inl ⟨c, r, s', rfl, h₁, hb'⟩
  | refusal e =>
    obtain ⟨ht, _, hb'⟩ := Action.runs_throw.1 h
    exact .inr ⟨ht, hb'⟩

theorem Routes.preserves {route : Except Error K.Call} {x : Action S (Bus σ) α}
    (hx : Routes t route x) (hP : Bus.Preserved t P) (hb : P past b) (hs : b.core = some s)
    {r : Except Error α} (h : (x b).Runs trace (r, b')) : P (past ++ trace) b' := by
  obtain ⟨c, r', s', _, h₁, rfl⟩ | ⟨rfl, rfl⟩ := hx.runs hs h
  · exact hP.call hb hs h₁
  · rwa [List.append_nil]

end Routes

/-- Whether a use is a method. -/
def Use.isMethod {M : Methods} : Use M → Bool
  | .method _ => true
  | .release => false

namespace Bus

variable {M : Methods} {S : Interface} {σ : Type} {t : Table M.operations S σ} {b b' : Bus σ}
  {trace past : Trace S} {P : Trace S → Bus σ → Prop}

theorem runs_use_method {m : M.Method} (h : (use t (.method m) b).Runs trace b') :
    ∃ r, (M.perform t m b).Runs trace (r, b') := by
  obtain ⟨v, ⟨r, b₁⟩, w, h₁, h₂, rfl⟩ := Program.runs_bind.1 h
  obtain ⟨rfl, rfl⟩ := Program.runs_done.1 h₂
  rw [List.append_nil]
  exact ⟨r, h₁⟩

theorem runs_use_release (h : (use t .release b).Runs trace b') :
    ∃ r, (Bus.release t b).Runs trace (r, b') := by
  obtain ⟨v, ⟨r, b₁⟩, w, h₁, h₂, rfl⟩ := Program.runs_bind.1 h
  obtain ⟨rfl, rfl⟩ := Program.runs_done.1 h₂
  rw [List.append_nil]
  exact ⟨r, h₁⟩

/-- **What each of some uses keeps up** holds after all of them. -/
theorem uses_induction {us : List (Use M)}
    (hstep : ∀ u ∈ us, ∀ {past trace : Trace S} {b b' : Bus σ}, P past b →
      (use t u b).Runs trace b' → P (past ++ trace) b')
    (past : Trace S) (hb : P past b) (h : (uses t us b).Runs trace b') : P (past ++ trace) b' := by
  induction us generalizing b past trace with
  | nil =>
    obtain ⟨rfl, rfl⟩ := Program.runs_done.1 h
    rwa [List.append_nil]
  | cons u us ih =>
    obtain ⟨v, b₁, w, h₁, h₂, rfl⟩ := Program.runs_bind.1 h
    rw [← List.append_assoc]
    have hus (x : Use M) (hx : x ∈ us) := @hstep x (List.mem_cons_of_mem u hx)
    exact ih hus (past ++ v) (hstep u List.mem_cons_self hb h₁) h₂

theorem Preserved.of_use (hP : Preserved t P) {u : Use M} (hb : P past b)
    (h : (use t u b).Runs trace b') : P (past ++ trace) b' := by
  cases hs : b.core with
  | none =>
    rw [use_gone t u hs] at h
    obtain ⟨rfl, rfl⟩ := Program.runs_done.1 h
    rwa [List.append_nil]
  | some s =>
    cases u with
    | method m =>
      obtain ⟨r, h₁⟩ := runs_use_method h
      exact (M.routes t m).preserves hP hb hs h₁
    | release =>
      obtain ⟨r, h₁⟩ := runs_use_release h
      obtain ⟨u, s', h₂, rfl, rfl⟩ := runs_release hs h₁
      exact hP.release hb hs h₂

/-- **What every call and the release of the backend keep up** holds after any uses. -/
theorem Preserved.of_uses (hP : Preserved t P) {us : List (Use M)} (hb : P past b)
    (h : (uses t us b).Runs trace b') : P (past ++ trace) b' :=
  uses_induction (fun _ _ _ _ _ _ hb h ↦ hP.of_use hb h) past hb h

/-! ## The life of a bus -/

/-- **What all requests of a backend have in common**, all requests in the life of a bus have: it is
enough that it is so from each state that the calls can lead to. -/
theorem requests_of_life {I : σ → Prop} {Q : S.Request → Prop}
    (hcall : ∀ {s c v r s'}, I s → (t.call c s).Runs v (r, s') →
      I s' ∧ ∀ q ∈ Program.requests v, Q q)
    (hrelease : ∀ {s v r s'}, I s → (t.release s).Runs v (r, s') →
      ∀ q ∈ Program.requests v, Q q)
    (hb : ∀ s, b.core = some s → I s) {us : List (Use M)} (h : (life t us b).Runs trace ()) :
    ∀ q ∈ Program.requests trace, Q q := by
  have hkept : Preserved t fun past b ↦
      (∀ q ∈ Program.requests past, Q q) ∧ ∀ s, b.core = some s → I s := by
    constructor
    · intro past b s c v r s' hP hs hv
      obtain ⟨hI, hQ⟩ := hcall (hP.2 s hs) hv
      rw [Program.requests_append]
      exact ⟨List.forall_mem_append.2 ⟨hP.1, hQ⟩, fun s₁ hs₁ ↦ Option.some.inj hs₁ ▸ hI⟩
    · intro past b s v r s' hP hs hv
      rw [Program.requests_append, Program.requests_append, Program.requests_reported,
        Program.requests_nil, List.append_nil]
      exact ⟨List.forall_mem_append.2 ⟨hP.1, hrelease (hP.2 s hs) hv⟩, nofun⟩
  obtain ⟨before, b₁, last, hu, hd, rfl⟩ := Program.runs_bind.1 h
  have hnew : (∀ q ∈ Program.requests ([] : Trace S), Q q) ∧ ∀ s, b.core = some s → I s :=
    ⟨nofun, hb⟩
  obtain ⟨hbefore, hI⟩ := hkept.of_uses hnew hu
  rw [Program.requests_append]
  refine List.forall_mem_append.2 ⟨hbefore, ?_⟩
  cases hs : b₁.core with
  | none =>
    rw [runs_drop_gone hs hd]
    exact nofun
  | some s =>
    obtain ⟨v, r, s', rest, hv, rfl, hrest⟩ := runs_drop hs hd
    rw [Program.requests_append, Program.requests_eq_nil_iff.2 hrest, List.append_nil]
    exact hrelease (hI s hs) hv

/-- **A life has three parts**: methods, one release of the backend, and reports. -/
theorem life_split {us : List (Use M)} (hb : b.core ≠ none) (h : (life t us b).Runs trace ()) :
    ∃ before b₁ s last r s' rest, (uses t (us.takeWhile Use.isMethod) b).Runs before b₁ ∧
      b₁.core = some s ∧ (t.release s).Runs last (r, s') ∧ calls rest = [] ∧
      trace = before ++ (last ++ rest) := by
  obtain ⟨s, hs⟩ := Option.ne_none_iff_exists'.1 hb
  induction us generalizing b s trace with
  | nil =>
    obtain ⟨last, r, s', rest, h₁, rfl, hr⟩ := runs_drop hs h
    exact ⟨[], b, s, last, r, s', rest, .done b, hs, h₁, hr, rfl⟩
  | cons u us ih =>
    obtain ⟨v, b₂, w, h₁, h₂, rfl⟩ := Program.runs_bind.1 h
    obtain ⟨v₁, b₁, v₂, hu, hus, rfl⟩ := Program.runs_bind.1 h₁
    cases u with
    | release =>
      obtain ⟨r, h₃⟩ := runs_use_release hu
      obtain ⟨last, s', h₅, rfl, rfl⟩ := runs_release hs h₃
      -- The bus is gone, and neither the other uses nor giving it up does anything.
      rw [uses_gone t us rfl] at hus
      obtain ⟨rfl, rfl⟩ := Program.runs_done.1 hus
      obtain rfl := runs_drop_gone rfl h₂
      refine ⟨[], b, s, last, r, s', [.reported (.debug "bus released")], .done b, hs, h₅, rfl, ?_⟩
      simp only [List.append_nil, List.nil_append]
    | method m =>
      have hb₁ : b₁.core ≠ none := by
        obtain ⟨r, h₃⟩ := runs_use_method hu
        intro hn
        obtain rfl := (M.routes t m).eq_of_run h₃ hn
        exact hb hn
      obtain ⟨s₁, hs₁⟩ := Option.ne_none_iff_exists'.1 hb₁
      obtain ⟨before, b₃, s₃, last, r, s', rest, h₃, hs₃, h₄, hr, hw⟩ :=
        ih hb₁ (Program.runs_bind.2 ⟨v₂, b₂, w, hus, h₂, rfl⟩) s₁ hs₁
      refine ⟨v₁ ++ before, b₃, s₃, last, r, s', rest, ?_, hs₃, h₄, hr, ?_⟩
      · exact Program.runs_bind.2 ⟨v₁, b₁, before, hu, h₃, rfl⟩
      · rw [List.append_assoc, hw, List.append_assoc]

end Bus

end BusAccess
