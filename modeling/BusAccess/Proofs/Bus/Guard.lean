import BusAccess.Proofs.Bus.Deeds

/-!
# Handles that are not open

A handle is a number, and a program can make up any number it likes, keep one that it has closed, or
take one from another bus.  Which handles a bus has given out and not taken back can be told from
what came of its uses (`Kind.handles`), without looking at the backend.

Reading from a device, writing to it and closing it name a device (`Kind.device?`), and so does an
SPI transfer, unless its buffers differ in length and it is refused for that.  A backend `Guards` its
devices if it knows which handles are good, takes none for good that was not given out or that was
taken back, and refuses the others without asking for anything.  A handle that is not open then
reaches nothing, whatever happened before (`Guards.refused`).
-/

set_option autoImplicit false

namespace BusAccess

open Program (Trace)

/-! ## What methods do to handles -/

namespace Kind

/-- The device that a method is about.  A method that is refused for its arguments is about none,
and so is one that opens a device or changes the bus. -/
def device? : (k : Kind) → k.methods.Method → Option DeviceHandle
  | .i2c, .read device _ => some device
  | .i2c, .write device _ => some device
  | .i2c, .close device => some device
  | .spi, .transfer device tx rx => if tx.length = rx then some device else none
  | .spi, .read device _ => some device
  | .spi, .write device _ => some device
  | .spi, .close device => some device
  | .gpio, .read device => some device
  | .gpio, .write device _ => some device
  | .gpio, .close device => some device
  | _, _ => none

/-- The device that a method opens. -/
def opened? : (k : Kind) → (m : k.methods.Method) → Except Error (k.methods.Answer m) →
    Option DeviceHandle
  | .i2c, .openAt _, .ok device => some device
  | .spi, .openAt _, .ok device => some device
  | .gpio, .openPin _ _, .ok device => some device
  | _, _, _ => none

/-- The device that a method closes. -/
def closed? : (k : Kind) → k.methods.Method → Option DeviceHandle
  | .i2c, .close device => some device
  | .spi, .close device => some device
  | .gpio, .close device => some device
  | _, _ => none

/-- The handles that are open after one more deed.  A handle is closed whatever comes of it. -/
def handlesAfter (k : Kind) (open' : List DeviceHandle) : Deed k.methods → List DeviceHandle
  | .method m r =>
    match k.opened? m r with
    | some device => device :: open'
    | none => open'.filter fun d ↦ k.closed? m ≠ some d
  | .release _ => []

/-- The handles that are open after some deeds: those that were given out by an open and not passed
to a close since. -/
def handles (k : Kind) (ds : List (Deed k.methods)) : List DeviceHandle :=
  ds.foldl k.handlesAfter []

variable {k : Kind} {m : k.methods.Method} {d : DeviceHandle} {ds : List (Deed k.methods)}

theorem handles_concat (d : Deed k.methods) :
    k.handles (ds ++ [d]) = k.handlesAfter (k.handles ds) d := by
  rw [handles, List.foldl_append]
  rfl

/-- What was given out last is open, and what was open before and is not closed still is. -/
theorem mem_handles_concat {r : Except Error (k.methods.Answer m)}
    (h : k.opened? m r = some d ∨ d ∈ k.handles ds ∧ k.closed? m ≠ some d) :
    d ∈ k.handles (ds ++ [.method m r]) := by
  rw [handles_concat, handlesAfter]
  cases ho : k.opened? m r with
  | some e =>
    rw [ho] at h
    obtain h | ⟨h, _⟩ := h
    · exact List.mem_cons.2 (.inl (Option.some.inj h).symm)
    · exact List.mem_cons_of_mem e h
  | none =>
    rw [ho] at h
    obtain h | ⟨hd, hc⟩ := h
    · exact absurd h nofun
    · exact List.mem_filter.2 ⟨hd, decide_eq_true hc⟩

/-- A method that is about a device comes down to a call. -/
theorem uneven_of_device? (h : k.device? m = some d) : k.uneven m = false := by
  cases k with
  | i2c => rfl
  | gpio => rfl
  | spi =>
    cases m with
    | transfer device tx rx =>
      by_cases hlen : tx.length = rx
      · exact decide_eq_false (not_not_intro hlen)
      · have hnone : Kind.spi.device? (.transfer device tx rx) = none := if_neg hlen
        rw [hnone] at h
        exact absurd h nofun
    | _ => rfl

end Kind

/-! ## Backends that guard their devices -/

/-- A method whose call the backend refuses leaves the bus as it is. -/
theorem Routes.refused {K : Operations} {S : Interface} {σ α : Type} {t : Table K S σ} {c : K.Call}
    {x : Action S (Bus σ) α} (hx : Routes t (.ok c) x) {b : Bus σ} {s : σ} (hs : b.core = some s)
    (h : t.call c s = .done (.error .invalidHandle, s)) :
    x b = .done (.error .invalidHandle, b) := by
  cases hx with
  | call c =>
    refine Bus.call_at_once hs h ?_
    cases K.role c <;> rfl

section Guards

variable {k : Kind} {S : Interface} {σ : Type} {t : Table k.methods.operations S σ}
  {good : σ → DeviceHandle → Prop} {Sound : σ → Prop}

/-- A backend that knows which handles are good, in states that are sound: those that are open at
most.  The others are refused. -/
structure Guards (k : Kind) (t : Table k.methods.operations S σ) (good : σ → DeviceHandle → Prop)
    (Sound : σ → Prop) : Prop where
  /-- After a method, a handle is good if this method opened it, or if it was good and was not
  closed. -/
  step : ∀ {b b' : Bus σ} {s : σ} {m : k.methods.Method} {trace : Trace S}
    {r : Except Error (k.methods.Answer m)}, Sound s → b.core = some s →
    (k.methods.perform t m b).Runs trace (r, b') → ∃ s', b'.core = some s' ∧ Sound s' ∧
      ∀ d, good s' d → k.opened? m r = some d ∨ good s d ∧ k.closed? m ≠ some d
  /-- A handle that is not good is refused before anything is asked of the surroundings. -/
  refusal : ∀ {s : σ} {m : k.methods.Method} {d : DeviceHandle}, k.device? m = some d →
    ¬ good s d → ∃ c, k.methods.route m = .ok c ∧ t.call c s = .done (.error .invalidHandle, s)

namespace Guards

/-- What is known of a bus after some deeds. -/
def Standing (k : Kind) (good : σ → DeviceHandle → Prop) (Sound : σ → Prop)
    (ds : List (Deed k.methods)) (b : Bus σ) : Prop :=
  ∀ s, b.core = some s → Sound s ∧ ∀ d, good s d → d ∈ k.handles ds

/-- **Every deed** keeps it up that only handles that are open are good. -/
theorem standing_concat (hG : Guards k t good Sound) {ds : List (Deed k.methods)} {b b' : Bus σ}
    {u : Use k.methods} {trace : Trace S} {d : Deed k.methods} (hb : Standing k good Sound ds b)
    (h : (Bus.act t u b).Runs trace (d, b')) : Standing k good Sound (ds ++ [d]) b' := by
  cases hs : b.core with
  | none =>
    obtain ⟨rfl, _⟩ := Bus.runs_act_gone hs h
    intro s hs'
    rw [hs] at hs'
    exact absurd hs' nofun
  | some s =>
    obtain ⟨hsound, hgood⟩ := hb s hs
    cases u with
    | method m =>
      obtain ⟨r, rfl, h₁⟩ := Bus.runs_act_method h
      obtain ⟨s', hs', hsound', hstep⟩ := hG.step hsound hs h₁
      intro s₁ hs₁
      obtain rfl := Option.some.inj (hs'.symm.trans hs₁)
      exact ⟨hsound', fun d hd ↦ Kind.mem_handles_concat
        ((hstep d hd).imp_right fun ⟨hd, hc⟩ ↦ ⟨hgood d hd, hc⟩)⟩
    | release =>
      obtain ⟨r, rfl, h₁⟩ := Bus.runs_act_release h
      obtain ⟨_, _, _, _, rfl⟩ := Bus.runs_release hs h₁
      exact nofun

/-- **A handle that is not open reaches nothing.** -/
theorem refused (hG : Guards k t good Sound) {us : List (Use k.methods)} {trace : Trace S}
    {ds : List (Deed k.methods)} {b₀ b : Bus σ} (hb₀ : Standing k good Sound [] b₀)
    (h : (Bus.acts t us b₀).Runs trace (ds, b)) {m : k.methods.Method} {d : DeviceHandle}
    (hm : k.device? m = some d) (hd : d ∉ k.handles ds) :
    k.methods.perform t m b =
      .done (.error (if b.core = none then .invalidObject else .invalidHandle), b) := by
  have hb : Standing k good Sound ([] ++ ds) b :=
    Bus.acts_induction (P := Standing k good Sound) (fun hb h ↦ hG.standing_concat hb h) hb₀ h
  cases hs : b.core with
  | none =>
    rw [(k.methods.routes t m).run_gone hs, Kind.errorWhenGone_route, Kind.uneven_of_device? hm]
    rfl
  | some s =>
    obtain ⟨c, hc, hrefused⟩ := hG.refusal hm fun hg ↦ hd ((hb s hs).2 d hg)
    have hroutes := k.methods.routes t m
    rw [hc] at hroutes
    rw [if_neg (Option.some_ne_none s)]
    exact hroutes.refused hs hrefused

end Guards

end Guards

end BusAccess
