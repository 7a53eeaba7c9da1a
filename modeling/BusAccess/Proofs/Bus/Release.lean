import BusAccess.Bus.Scripted
import BusAccess.Proofs.Bus.Methods

/-!
# Releasing a bus

A bus that is released stays so.  It is `Gone`: the backend's state is taken out, so there is
nothing to call, and no device counts as open.  Whatever is done to it then leaves it as it is,
without a single request or event (`uses_gone`).  The answer is always the same except in one
method: an SPI transfer whose buffers differ in length is refused for that, because it looks at its
buffers first.

A bus gets there by being released, also if the backend fails to disconnect.  What has to be known
of the bus before is only that no devices count as open if it is released already (`Sound`), and
every use keeps that up.

The same two kinds of bus settle how often the backend is told to disconnect.  A bus that is not
gone has not told it so, and one that is gone has done so once, as the last thing it ever asked
(`told_of_uses`).  Giving up the bus makes up for what is missing.
-/

set_option autoImplicit false

namespace BusAccess

open Program (Trace requests)

namespace Bus

variable {K : Operations} {M : Methods} {S : Interface} {σ : Type}

/-! ## Released for good -/

/-- Whether a bus is released, with nothing left of its devices. -/
def Gone (b : Bus σ) : Prop := b.core = none ∧ b.openDevices = 0

/-- Whether a bus is gone if it is released. -/
def Sound (b : Bus σ) : Prop := b.core = none → b.openDevices = 0

theorem sound_new (backend : String) (core : σ) : (new backend core).Sound := nofun

theorem Gone.state {b : Bus σ} (h : b.Gone) : b.state = .released := by
  rw [Bus.state, h.1]

/-- There is no backend to call. -/
theorem call_gone (t : Table K S σ) (c : K.Call) {b : Bus σ} (h : b.core = none) :
    Bus.call t c b = .done (.error .invalidObject, b) := by
  rw [Bus.call, h]

theorem release_gone (t : Table K S σ) {b : Bus σ} (h : b.core = none) :
    Bus.release t b = .done (.error .invalidObject, b) := by
  rw [Bus.release, h]

end Bus

/-- The error of a method on a bus that is gone. -/
def errorWhenGone {K : Operations} : Except Error K.Call → Error
  | .ok _ => .invalidObject
  | .error e => e

/-- **A method on a bus that is gone** fails, and does nothing else. -/
theorem Routes.run_gone {K : Operations} {S : Interface} {σ α : Type} {t : Table K S σ}
    {route : Except Error K.Call} {x : Action S (Bus σ) α} (h : Routes t route x) {b : Bus σ}
    (hb : b.core = none) : x b = .done (.error (errorWhenGone route), b) := by
  cases h with
  | call c => exact Bus.call_gone t c hb
  | refusal e => rfl

namespace Bus

variable {M : Methods} {S : Interface} {σ : Type} (t : Table M.operations S σ)

theorem use_gone (u : Use M) {b : Bus σ} (h : b.core = none) : use t u b = .done b := by
  cases u with
  | method m => rw [use, (M.routes t m).run_gone h, Program.bind]
  | release => rw [use, release_gone t h, Program.bind]

theorem uses_gone (us : List (Use M)) {b : Bus σ} (h : b.core = none) : uses t us b = .done b := by
  induction us with
  | nil => rfl
  | cons u us ih => rw [uses, use_gone t u h, Program.bind, ih]

end Bus

section Steps

variable {K : Operations} {S : Interface} {σ α : Type} {t : Table K S σ} {b b' : Bus σ}

/-- A call releases nothing. -/
theorem Bus.eq_of_call {c : K.Call} {trace : Trace S} {r : Except Error (K.Answer c)}
    (h : (Bus.call t c b).Runs trace (r, b')) (hb' : b'.core = none) : b' = b := by
  rw [Bus.call] at h
  cases hb : b.core with
  | none =>
    rw [hb] at h
    obtain ⟨_, h⟩ := Program.runs_done.1 h
    exact (Prod.mk.inj h).2
  | some s =>
    rw [hb] at h
    obtain ⟨_, ⟨r', s'⟩, _, _, h, _⟩ := Program.runs_bind.1 h
    obtain ⟨_, h⟩ := Program.runs_done.1 h
    obtain ⟨_, rfl⟩ := Prod.mk.inj h
    exact absurd hb' (Option.some_ne_none _)

/-- No method releases anything. -/
theorem Routes.eq_of_run {route : Except Error K.Call} {x : Action S (Bus σ) α}
    (hx : Routes t route x) {trace : Trace S} {r : Except Error α} (h : (x b).Runs trace (r, b'))
    (hb' : b'.core = none) : b' = b := by
  cases hx with
  | call c => exact Bus.eq_of_call h hb'
  | refusal e =>
    obtain ⟨_, h⟩ := Program.runs_done.1 h
    exact (Prod.mk.inj h).2

/-- A bus is gone once it is released, whatever the backend says. -/
theorem Bus.gone_of_release {trace : Trace S} {r : Except Error Unit} (hb : b.Sound)
    (h : (Bus.release t b).Runs trace (r, b')) : b'.Gone := by
  rw [Bus.release] at h
  cases hc : b.core with
  | none =>
    rw [hc] at h
    obtain ⟨_, h⟩ := Program.runs_done.1 h
    obtain ⟨_, rfl⟩ := Prod.mk.inj h
    exact ⟨hc, hb hc⟩
  | some s =>
    rw [hc] at h
    obtain ⟨_, ⟨r', s'⟩, _, _, h, _⟩ := Program.runs_bind.1 h
    obtain ⟨_, _, h⟩ := Program.runs_report.1 h
    obtain ⟨_, h⟩ := Program.runs_done.1 h
    obtain ⟨_, rfl⟩ := Prod.mk.inj h
    exact ⟨rfl, rfl⟩

end Steps

namespace Bus

variable {M : Methods} {S : Interface} {σ : Type} {t : Table M.operations S σ} {b b' : Bus σ}
  {trace : Trace S}

/-- Every use keeps a bus sound, and releasing makes it gone. -/
theorem sound_of_use {u : Use M} (hb : b.Sound) (h : (use t u b).Runs trace b') :
    b'.Sound ∧ (u = .release → b'.Gone) := by
  cases u with
  | method m =>
    obtain ⟨_, ⟨r, b₁⟩, _, h₁, h, _⟩ := Program.runs_bind.1 h
    obtain ⟨_, rfl⟩ := Program.runs_done.1 h
    refine ⟨?_, nofun⟩
    intro hb'
    obtain rfl := (M.routes t m).eq_of_run h₁ hb'
    exact hb hb'
  | release =>
    obtain ⟨_, ⟨r, b₁⟩, _, h₁, h, _⟩ := Program.runs_bind.1 h
    obtain ⟨_, rfl⟩ := Program.runs_done.1 h
    have hg := gone_of_release hb h₁
    exact ⟨fun _ ↦ hg.2, fun _ ↦ hg⟩

/-- A bus is gone after any uses among which it is released. -/
theorem gone_of_uses {us : List (Use M)} (hr : .release ∈ us) (hb : b.Sound)
    (h : (uses t us b).Runs trace b') : b'.Gone := by
  induction us generalizing b trace with
  | nil => exact nomatch hr
  | cons u us ih =>
    obtain ⟨_, b₁, _, h₁, h₂, _⟩ := Program.runs_bind.1 h
    obtain ⟨hs, hg⟩ := sound_of_use hb h₁
    rcases List.mem_cons.1 hr with rfl | hr
    · rw [uses_gone t us (hg rfl).1] at h₂
      obtain ⟨_, rfl⟩ := Program.runs_done.1 h₂
      exact hg rfl
    · exact ih hr hs h₂

end Bus

/-! ### The methods of each kind -/

/-- Whether a method is an SPI transfer with buffers of different lengths. -/
def Kind.uneven : (k : Kind) → k.methods.Method → Bool
  | .spi, .transfer _ tx rx => tx.length ≠ rx
  | _, _ => false

theorem Kind.errorWhenGone_route (k : Kind) (m : k.methods.Method) :
    errorWhenGone (k.methods.route m) =
      if k.uneven m then .invalidArgument else .invalidObject := by
  cases k with
  | i2c => rfl
  | gpio => rfl
  | spi =>
    cases m with
    | transfer device tx rx =>
      by_cases h : tx.length = rx
      · have hr : Kind.spi.methods.route (.transfer device tx rx) =
            .ok (.transfer device (some tx) (some rx)) := if_pos h
        rw [hr, uneven, if_neg]
        · rfl
        · simp [h]
      · have hr : Kind.spi.methods.route (.transfer device tx rx) = .error .invalidArgument :=
          if_neg h
        rw [hr, uneven, if_pos]
        · rfl
        · simp [h]
    | _ => rfl

/-- **A bus that is released stays released.**  After any uses of a new bus among which it is
released, with whatever answers, no device counts as open, and there is nothing that any method or
another release does but fail; and it fails as on an invalid object, unless it is a transfer with
buffers of different lengths. -/
theorem released_for_good (k : Kind) {S : Interface} {σ : Type}
    (t : Table k.methods.operations S σ) (backend : String) (core : σ)
    {us : List (Use k.methods)} (hr : .release ∈ us) {trace : Trace S} {b : Bus σ}
    (h : (Bus.uses t us (.new backend core)).Runs trace b) :
    b.state = .released ∧ b.openDevices = 0 ∧
      Bus.release t b = .done (.error .invalidObject, b) ∧
      ∀ m, k.methods.perform t m b =
        .done (.error (if k.uneven m then .invalidArgument else .invalidObject), b) := by
  have hg := Bus.gone_of_uses hr (Bus.sound_new backend core) h
  refine ⟨hg.state, hg.2, Bus.release_gone t hg.1, ?_⟩
  intro m
  rw [← Kind.errorWhenGone_route]
  exact (k.methods.routes t m).run_gone hg.1

/-- Reading from an SPI bus that could not be disconnected. -/
theorem released_for_good_read :
    let b : Bus Scripted.Core := { backend := "mock", core := none }
    Spi.read Scripted.spiTable ⟨0⟩ 4 b = .done (.error .invalidObject, b) := by
  have h : (Bus.uses (M := Kind.spi.methods) Scripted.spiTable [.release]
      (.new "mock" ⟨"m", false⟩)).Runs
      [.asked (.release "m") (.error .busy), .reported (.debug "bus released")]
      { backend := "mock", core := none } := .ask (.report (.done _))
  exact (released_for_good .spi _ _ _ (List.mem_singleton_self _) h).2.2.2 (.read ⟨0⟩ 4)

/-- A transfer looks at its buffers before it looks at the bus. -/
theorem uneven_transfer_after_release :
    ∃ trace b, (Bus.uses (M := Kind.spi.methods) Scripted.spiTable [.release]
        (.new "mock" ⟨"m", false⟩)).Runs trace b ∧
      Spi.transfer Scripted.spiTable ⟨0⟩ [1] 2 b = .done (.error .invalidArgument, b) := by
  refine ⟨[.asked (.release "m") (.ok ()), .reported (.debug "bus released")],
    { backend := "mock", core := none }, .ask (.report (.done _)), by rfl⟩

/-! ## Released once -/

section Told

variable {K : Operations} {σ α : Type} {b b' : Bus σ} {trace : Trace (invocations K σ)}

/-- The operations that are asked for in a run. -/
def told (trace : Trace (invocations K σ)) : List (Invocation K) :=
  (requests trace).map Prod.fst

@[simp] theorem told_nil : told ([] : Trace (invocations K σ)) = [] := rfl

@[simp] theorem told_append (t u : Trace (invocations K σ)) : told (t ++ u) = told t ++ told u := by
  rw [told, Program.requests_append, List.map_append, told, told]

/-- What a bus that is gone has told its backend in the end. -/
def Bus.farewell (K : Operations) (b : Bus σ) : List (Invocation K) :=
  match b.core with
  | none => [.release]
  | some _ => []

theorem Bus.told_of_call {c : K.Call} {r : Except Error (K.Answer c)} (hb : b.core ≠ none)
    (h : (Bus.call (.passing K σ) c b).Runs trace (r, b')) :
    told trace = [.call c] ∧ b'.core ≠ none := by
  obtain ⟨s, hs⟩ := Option.ne_none_iff_exists'.1 hb
  rw [Bus.call, hs] at h
  obtain ⟨_, _, rfl, h₁⟩ := Program.runs_ask.1 h
  obtain ⟨rfl, h₂⟩ := Program.runs_done.1 h₁
  obtain ⟨_, rfl⟩ := Prod.mk.inj h₂
  exact ⟨rfl, Option.some_ne_none _⟩

/-- A method asks for one call at most. -/
theorem Routes.told_of_run {route : Except Error K.Call}
    {x : Action (invocations K σ) (Bus σ) α} (hx : Routes (.passing K σ) route x)
    {r : Except Error α} (hb : b.core ≠ none) (h : (x b).Runs trace (r, b')) :
    ∃ calls : List K.Call, told trace = calls.map .call ∧ b'.core ≠ none := by
  cases hx with
  | call c =>
    obtain ⟨ht, hb'⟩ := Bus.told_of_call hb h
    exact ⟨[c], ht, hb'⟩
  | refusal e =>
    obtain ⟨rfl, h₁⟩ := Program.runs_done.1 h
    obtain ⟨_, rfl⟩ := Prod.mk.inj h₁
    exact ⟨[], rfl, hb⟩

theorem Bus.told_of_release {r : Except Error Unit} (hb : b.core ≠ none)
    (h : (Bus.release (.passing K σ) b).Runs trace (r, b')) :
    told trace = [.release] ∧ b'.core = none := by
  obtain ⟨s, hs⟩ := Option.ne_none_iff_exists'.1 hb
  rw [Bus.release, hs] at h
  obtain ⟨_, _, rfl, h₁⟩ := Program.runs_ask.1 h
  obtain ⟨_, rfl, h₂⟩ := Program.runs_report.1 h₁
  obtain ⟨rfl, h₃⟩ := Program.runs_done.1 h₂
  obtain ⟨_, rfl⟩ := Prod.mk.inj h₃
  exact ⟨rfl, rfl⟩

/-- Giving up a bus makes up for a farewell that is missing. -/
theorem Bus.farewell_append_told_of_drop
    (h : (Bus.drop (.passing K σ) b).Runs trace ()) : b.farewell K ++ told trace = [.release] := by
  rw [Bus.drop] at h
  cases hb : b.core with
  | none =>
    rw [hb] at h
    obtain ⟨rfl, _⟩ := Program.runs_done.1 h
    rw [Bus.farewell, hb, told_nil, List.append_nil]
  | some s =>
    rw [hb] at h
    obtain ⟨⟨result, s'⟩, u, rfl, h₁⟩ := Program.runs_ask.1 h
    rw [Bus.farewell, hb]
    cases result with
    | ok _ =>
      obtain ⟨rfl, _⟩ := Program.runs_done.1 h₁
      rfl
    | error e =>
      obtain ⟨_, rfl, h₂⟩ := Program.runs_report.1 h₁
      obtain ⟨rfl, _⟩ := Program.runs_done.1 h₂
      rfl

end Told

namespace Bus

variable {M : Methods} {σ : Type} {b b' : Bus σ} {trace : Trace (invocations M.operations σ)}

/-- A use of a bus that is not gone asks for calls, and at most for one release after them. -/
theorem told_of_use {u : Use M} (hb : b.core ≠ none)
    (h : (use (.passing _ σ) u b).Runs trace b') :
    ∃ calls : List M.operations.Call,
      told trace = calls.map .call ++ b'.farewell M.operations := by
  cases u with
  | method m =>
    obtain ⟨_, ⟨r, b₁⟩, _, h₁, h₂, rfl⟩ := Program.runs_bind.1 h
    obtain ⟨rfl, rfl⟩ := Program.runs_done.1 h₂
    obtain ⟨calls, ht, hb'⟩ := (M.routes _ m).told_of_run hb h₁
    obtain ⟨s, hs⟩ := Option.ne_none_iff_exists'.1 hb'
    refine ⟨calls, ?_⟩
    rw [told_append, ht, farewell, hs, told_nil]
  | release =>
    obtain ⟨_, ⟨r, b₁⟩, _, h₁, h₂, rfl⟩ := Program.runs_bind.1 h
    obtain ⟨rfl, rfl⟩ := Program.runs_done.1 h₂
    obtain ⟨ht, hb'⟩ := told_of_release hb h₁
    refine ⟨[], ?_⟩
    rw [told_append, ht, farewell, hb', told_nil]
    rfl

/-- **A bus has told its backend** to disconnect if it is gone, and only as the last thing. -/
theorem told_of_uses {us : List (Use M)} (hb : b.core ≠ none)
    (h : (uses (.passing _ σ) us b).Runs trace b') :
    ∃ calls : List M.operations.Call,
      told trace = calls.map .call ++ b'.farewell M.operations := by
  induction us generalizing b trace with
  | nil =>
    obtain ⟨rfl, rfl⟩ := Program.runs_done.1 h
    obtain ⟨s, hs⟩ := Option.ne_none_iff_exists'.1 hb
    refine ⟨[], ?_⟩
    rw [farewell, hs]
    rfl
  | cons u us ih =>
    obtain ⟨t₁, b₁, t₂, h₁, h₂, rfl⟩ := Program.runs_bind.1 h
    obtain ⟨calls₁, ht₁⟩ := told_of_use hb h₁
    cases hb₁ : b₁.core with
    | none =>
      rw [uses_gone _ us hb₁] at h₂
      obtain ⟨rfl, rfl⟩ := Program.runs_done.1 h₂
      refine ⟨calls₁, ?_⟩
      rw [told_append, ht₁, told_nil, List.append_nil]
    | some s =>
      obtain ⟨calls₂, ht₂⟩ := ih (by rw [hb₁]; exact nofun) h₂
      refine ⟨calls₁ ++ calls₂, ?_⟩
      rw [told_append, ht₁, ht₂, farewell, hb₁, List.append_nil, List.map_append,
        List.append_assoc]

end Bus

/-- **The backend is told to disconnect once, at last.**  The whole life of a new bus on any
backend, with any uses and answers, is a run of its operations, and these are calls and then a
single release. -/
theorem released_once (k : Kind) {S : Interface} {σ : Type} (t : Table k.methods.operations S σ)
    (backend : String) (core : σ) (us : List (Use k.methods)) :
    let life := Bus.life (.passing _ σ) us (.new backend core)
    Bus.life t us (.new backend core) = life.interpret t.answer ∧
      ∀ trace, life.Runs trace () → ∃ calls : List k.methods.operations.Call,
        (requests trace).map Prod.fst = calls.map .call ++ [.release] := by
  intro life
  refine ⟨Bus.life_eq_interpret t us _, fun trace h ↦ ?_⟩
  obtain ⟨t₁, b, t₂, h₁, h₂, rfl⟩ := Program.runs_bind.1 h
  obtain ⟨calls, ht₁⟩ := Bus.told_of_uses (Option.some_ne_none core) h₁
  have ht₂ := Bus.farewell_append_told_of_drop h₂
  refine ⟨calls, ?_⟩
  rw [← told, told_append, ht₁, List.append_assoc, ht₂]

/-- A bus that could not be disconnected, released again and given up. -/
theorem released_once_despite_failure :
    let core : Scripted.Core := ⟨"m", false⟩
    let trace : Trace (invocations Kind.i2c.methods.operations Scripted.Core) :=
      [.asked (.release, core) (.error .busy, core), .reported (.debug "bus released")]
    (Bus.life (.passing _ _) [.release, .release] (.new "mock" core)).Runs trace () ∧
      ∃ calls : List Kind.i2c.methods.operations.Call,
        (requests trace).map Prod.fst = calls.map .call ++ [.release] := by
  intro core trace
  have h : (Bus.life (M := Kind.i2c.methods) (.passing _ _) [.release, .release]
      (.new "mock" core)).Runs trace () := .ask (.report (.done _))
  exact ⟨h, (released_once .i2c Scripted.i2cTable "mock" core [.release, .release]).2 trace h⟩

end BusAccess
