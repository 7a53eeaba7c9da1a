import BusAccess.Proofs.Adapter.Exchange
import BusAccess.Proofs.Adapter.Language
import BusAccess.Proofs.Bus.Invariant
import BusAccess.Proofs.Node.Setters

/-!
# Clocks

A clock of zero hertz means nothing on a wire.  There are two ways in for a clock: the parameters that a
bus is made with, and the methods that change it.  The methods refuse zero before anything else is done
with it.  The parameters are taken as they are.

So a zero that reaches an adapter or the kernel was in the parameters.  For an adapter there is one
request that it can be in, the one that opens it.  An SPI bus keeps the speed and says it again with
every device that it sets up and with every message, so there a zero lasts until another speed is set.
What carries the argument is that every clock in a run is the speed that the bus has *after* the use in
which it is told (`clock_of_use`), for a change is stored before any device is told of it.
-/

set_option autoImplicit false

namespace BusAccess

open Program (Trace requests requests_append requests_calls)

/-! ## Adapters -/

namespace Adapter

open BusAccess.Action

variable {s s' : Core} {t : Trace interface} {q : Request} {hz : UInt32}

/-- The clock that an adapter is told by a request. -/
def Request.clock? : Request → Option UInt32
  | openAdapter _ freq _ => some freq
  | setClock hz => some hz
  | _ => none

/-- No clock is told in a frame if none is told by what the address is sent for. -/
theorem clock?_of_framed {α : Type} {byte : UInt8} {f : Unit → Action interface Core α}
    {r : Except Error α}
    (hf : ∀ {u : Trace interface}, (f () s).Runs u (r, s') → ∀ q ∈ requests u, q.clock? = none)
    (h : (framed (sendAddress byte >>= f) s).Runs t (r, s')) :
    ∀ q ∈ requests t, q.clock? = none := by
  obtain ⟨e, rfl⟩ | ⟨u, reply, hu, ht⟩ := runs_framed h
  · exact List.forall_mem_singleton.2 rfl
  · rw [← requests_calls, ht]
    refine List.forall_mem_cons.2 ⟨rfl, ?_⟩
    rw [requests_append, requests_calls]
    refine List.forall_mem_append.2 ⟨?_, List.forall_mem_singleton.2 rfl⟩
    obtain ⟨e, rfl⟩ | rfl | ⟨v, hv, rfl⟩ := runs_sendAddress_bind hu
    · exact List.forall_mem_singleton.2 rfl
    · exact List.forall_mem_cons.2 ⟨rfl, List.forall_mem_singleton.2 rfl⟩
    · exact List.forall_mem_cons.2 ⟨rfl, List.forall_mem_cons.2 ⟨rfl, hf hv⟩⟩

theorem clock?_of_readBytes {n : Nat} {r : Except Error Received}
    (h : (readBytes n s).Runs t (r, s')) : ∀ q ∈ requests t, q.clock? = none := by
  obtain ⟨first, last, rfl⟩ := runs_readBytes h
  simp [Request.clock?]

theorem clock?_of_writeBytes {data : Bytes} {r : Except Error Nat}
    (h : (writeBytes data s).Runs t (r, s')) : ∀ q ∈ requests t, q.clock? = none := by
  obtain rfl | ⟨e, rfl⟩ | ⟨ack, rfl⟩ := runs_writeBytes h
  · exact nofun
  · exact List.forall_mem_singleton.2 rfl
  · exact List.forall_mem_cons.2 ⟨rfl, List.forall_mem_singleton.2 rfl⟩

/-- **A clock of zero is never told** by a call, whatever it is called with. -/
theorem clock?_of_call {c : I2c.Call} {r : Except Error c.Answer}
    (h : (table.call c s).Runs t (r, s')) : ∀ q ∈ requests t, q.clock? ≠ some 0 := by
  have hsilent (ht : ∀ q ∈ requests t, q.clock? = none) : ∀ q ∈ requests t, q.clock? ≠ some 0 :=
    fun q hq ↦ by rw [ht q hq]; exact nofun
  cases c with
  | openAt address =>
    have hopen : (openAt address s).Runs t (r, s') := h
    rw [openAt_eq] at hopen
    split at hopen <;> (rw [(Program.runs_done.1 hopen).1]; exact nofun)
  | read device n =>
    obtain ⟨address, -, h₁⟩ | ⟨-, rfl, -⟩ := runs_demand_bind.1 h
    · exact hsilent (clock?_of_framed clock?_of_readBytes h₁)
    · exact nofun
  | write device data =>
    obtain ⟨address, -, h₁⟩ | ⟨-, rfl, -⟩ := runs_demand_bind.1 h
    · exact hsilent (clock?_of_framed clock?_of_writeBytes h₁)
    · exact nofun
  | close device =>
    obtain ⟨address, -, h₁⟩ | ⟨-, rfl, -⟩ := runs_demand_bind.1 h
    · rw [(runs_pure.1 h₁).1]
      exact nofun
    · exact nofun
  | setFreq hz =>
    have hset : (setFreq hz s).Runs t (r, s') := h
    rw [setFreq] at hset
    split at hset
    case isTrue =>
      rw [(runs_throw.1 hset).1]
      exact nofun
    case isFalse hne =>
      obtain ⟨reply, u, rfl, h₁⟩ := runs_ask_bind.1 hset
      refine List.forall_mem_cons.2 ⟨fun hq ↦ hne (Option.some.inj hq), ?_⟩
      obtain ⟨-, -, h₂⟩ | ⟨-, -, rfl, -⟩ := runs_ofExcept_bind.1 h₁
      · obtain ⟨v, rfl, h₃⟩ := runs_report_bind.1 h₂
        obtain ⟨rfl, -⟩ := Program.runs_done.1 h₃
        exact List.forall_mem_nil _
      · exact nofun
  | setClockStretch enable =>
    rw [(runs_throw.1 h).1]
    exact nofun

theorem clock?_of_release {r : Except Error Unit} (h : (table.release s).Runs t (r, s')) :
    ∀ q ∈ requests t, q.clock? ≠ some 0 := by
  obtain ⟨_, rfl, _⟩ := runs_ask.1 h
  exact List.forall_mem_singleton.2 nofun

/-- The adapter is opened at the clock of the parameters, and told no clock by what follows. -/
theorem clock?_of_create {params : I2c.Params} {r : Except Error (Bus Core)}
    (h : (create params).Runs t r) : ∀ q ∈ requests t,
      q.clock? = some params.freq ∨ q.clock? = none ∧ (q = .reserve ∨ q = .close) := by
  have hopening := opening_of_create h
  rw [← requests_calls]
  generalize Program.calls t = asked at hopening ⊢
  cases hopening <;> simp [Request.clock?]

/-- A bus is made if the adapter can be opened. -/
theorem create_runs {params : I2c.Params} {uri : String} {identity : Identity}
    (hu : params.uri = some uri) (hi : Identity.parse uri = .ok identity) :
    (create params).Runs [.asked (.openAdapter identity params.freq true) (.ok ()),
      .asked .reserve true, .reported (.info "mpsse adapter opened")]
      (.ok (.new name { clock := params.freq })) := by
  rw [create, hu]
  dsimp only
  rw [hi]
  exact .ask (.ask (.report (.done _)))

/-- **In the life of a bus** the adapter is told no clock of zero. -/
theorem clock?_of_life {us : List (Use I2c.methods)} {b : Bus Core}
    (h : (Bus.life table us b).Runs t ()) : ∀ q ∈ requests t, q.clock? ≠ some 0 :=
  Bus.requests_of_life (I := fun _ ↦ True) (fun _ hv ↦ ⟨trivial, clock?_of_call hv⟩)
    (fun _ ↦ clock?_of_release) (fun _ _ ↦ trivial) h

/-- Zero is refused where the clock is changed. -/
theorem setFreq_zero (b : Bus Core) : Bus.call table (.setFreq 0) b =
    .done (.error (if b.core = none then .invalidObject else .invalidArgument), b) := by
  cases hb : b.core with
  | none => exact Bus.call_gone table (.setFreq 0) hb
  | some s => exact Bus.call_at_once hb rfl rfl

end Adapter

/-! ## Device nodes -/

namespace Node

/-- The clock that the kernel is told by a request. -/
def Request.clock? : Request → Option UInt32
  | setMaxSpeed _ hz => some hz
  | exchange _ message => some message.speedHz
  | _ => none

namespace Spi

open BusAccess.Spi (Call)

variable {t : Trace interface} {b b' : Bus Core} {s s' : Core} {speed hz : UInt32}

/-- Devices are set up at one speed. -/
theorem SetsUp.clock_eq {l : List DeviceHandle} {mode : BusAccess.Spi.Mode}
    {r : Except Error PUnit} (h : SetsUp l speed mode t r) :
    ∀ q ∈ requests t, ∀ hz, q.clock? = some hz → hz = speed := by
  intro q hq hz hclock
  obtain ⟨d, -, rfl | rfl⟩ := h.asked q hq
  · exact absurd hclock nofun
  · exact (Option.some.inj hclock).symm

/-- **Every clock that a call tells** is the speed that the bus has after it. -/
theorem clock_of_call {c : Call} {r : Except Error c.Answer} (h : (table.call c s).Runs t (r, s')) :
    ∀ q ∈ requests t, ∀ hz, q.clock? = some hz → hz = s'.speed := by
  have hsilent {q : Request} (hq : q.clock? = none) (hz : UInt32) (hclock : q.clock? = some hz) :
      hz = s'.speed := absurd (hq.symm.trans hclock) nofun
  cases c with
  | openAt chipSelect =>
    obtain ⟨rfl, -, -⟩ | ⟨_, u, hu, rfl, -, rfl⟩ | ⟨_, u, hu, rfl, -, rfl⟩ := runs_openAt h
    · exact List.forall_mem_singleton.2 (hsilent rfl)
    · refine List.forall_mem_cons.2 ⟨hsilent rfl, ?_⟩
      rw [requests_append]
      exact List.forall_mem_append.2 ⟨hu.clock_eq, List.forall_mem_singleton.2 (hsilent rfl)⟩
    · exact List.forall_mem_cons.2 ⟨hsilent rfl, hu.clock_eq⟩
  | transfer device tx rx =>
    obtain ⟨rfl, ⟨-, rfl, -⟩ | ⟨-, ht | ⟨message, _, hspeed, ht⟩⟩⟩ := runs_transfer h
    · exact nofun
    · rw [← requests_calls, ht]
      exact nofun
    · rw [← requests_calls, ht]
      exact List.forall_mem_singleton.2 fun hz hclock ↦ (Option.some.inj hclock).symm.trans hspeed
  | close device =>
    obtain ⟨-, rfl, -⟩ | ⟨-, rfl, -⟩ := runs_close h
    · exact nofun
    · exact List.forall_mem_singleton.2 (hsilent rfl)
  | setSpeed hz =>
    obtain ⟨-, rfl, -⟩ | ⟨-, rfl, _, u, rfl, hu⟩ := runs_setSpeed h
    · exact nofun
    · exact List.forall_mem_cons.2 ⟨hsilent rfl, hu.clock_eq⟩
  | setMode mode =>
    obtain ⟨rfl, _, u, rfl, hu⟩ := runs_setMode h
    exact List.forall_mem_cons.2 ⟨hsilent rfl, hu.clock_eq⟩

theorem clock?_of_release {r : Except Error Unit} (h : (release s).Runs t (r, s')) :
    ∀ q ∈ requests t, q.clock? = none := by
  obtain ⟨order, -, -, rfl⟩ := runs_release h
  rw [requests_drain]
  exact List.forall_mem_cons.2 ⟨rfl, List.forall_mem_map.2 fun _ _ ↦ rfl⟩

/-! ### The speed through all uses -/

/-- The speed of a bus after a use: one that is set takes the place of the one before, if it is not
zero. -/
def speedAfter (speed : UInt32) : Use BusAccess.Spi.methods → UInt32
  | .method (.setSpeed hz) => if hz = 0 then speed else hz
  | _ => speed

theorem speedAfter_eq_zero_iff {u : Use BusAccess.Spi.methods} :
    speedAfter speed u = 0 ↔ speed = 0 ∧ ∀ hz, .method (.setSpeed hz) = u → hz = 0 := by
  have hother (hu : ∀ hz, .method (.setSpeed hz) ≠ u) :
      speed = 0 ↔ speed = 0 ∧ ∀ hz, .method (.setSpeed hz) = u → hz = 0 :=
    (and_iff_left fun hz h ↦ absurd h (hu hz)).symm
  cases u with
  | release => exact hother nofun
  | method m =>
    cases m with
    | setSpeed hz =>
      rw [speedAfter]
      split
      case isTrue hzero =>
        refine (and_iff_left ?_).symm
        rintro _ ⟨⟩
        exact hzero
      case isFalse hne => exact iff_of_false hne fun h ↦ hne (h.2 hz rfl)
    | _ => exact hother nofun

/-- The speed is zero as long as nothing else was said. -/
theorem foldl_speedAfter_eq_zero_iff {us : List (Use BusAccess.Spi.methods)} :
    us.foldl speedAfter speed = 0 ↔ speed = 0 ∧ ∀ hz, .method (.setSpeed hz) ∈ us → hz = 0 := by
  induction us generalizing speed with
  | nil => exact (and_iff_left nofun).symm
  | cons u us ih =>
    simp only [List.foldl_cons, ih, speedAfter_eq_zero_iff, List.mem_cons, or_imp, forall_and,
      and_assoc]

theorem speed_of_use {u : Use BusAccess.Spi.methods} (hs : b.core = some s)
    (h : (Bus.use table u b).Runs t b') (hs' : b'.core = some s') :
    s'.speed = speedAfter s.speed u := by
  have hstored {m : BusAccess.Spi.Method} {r : Except Error m.Answer}
      (hx : ∀ x : Change, m ≠ x.method)
      (h : (BusAccess.Spi.methods.perform table m b).Runs t (r, b')) : s'.speed = s.speed :=
    Option.some.inj (congrArg Settings.speed? (stored_of_perform hx hs h hs'))
  cases u with
  | release =>
    obtain ⟨r, h₁⟩ := Bus.runs_use_release h
    obtain ⟨_, _, _, _, rfl⟩ := Bus.runs_release hs h₁
    exact absurd hs' nofun
  | method m =>
    obtain ⟨r, h₁⟩ := Bus.runs_use_method h
    cases m with
    | setSpeed hz =>
      have hcall : (Bus.call table (.setSpeed hz) b).Runs t (r, b') := h₁
      obtain ⟨s₁, h₂, rfl⟩ := Bus.runs_call hs hcall
      obtain rfl := Option.some.inj hs'
      obtain ⟨hzero, -, -, rfl⟩ | ⟨hne, rfl, -⟩ := runs_setSpeed h₂
      · exact (if_pos hzero).symm
      · exact (if_neg hne).symm
    | setMode mode =>
      have hcall : (Bus.call table (.setMode mode) b).Runs t (r, b') := h₁
      obtain ⟨s₁, h₂, rfl⟩ := Bus.runs_call hs hcall
      obtain rfl := Option.some.inj hs'
      obtain ⟨rfl, -⟩ := runs_setMode h₂
      rfl
    | _ => exact hstored (fun x ↦ by cases x <;> exact nofun) h₁

/-- **Every clock that is told in a use** is the speed after it. -/
theorem clock_of_use {u : Use BusAccess.Spi.methods} (hs : b.core = some s)
    (h : (Bus.use table u b).Runs t b') :
    ∀ q ∈ requests t, ∀ hz, q.clock? = some hz → hz = speedAfter s.speed u := by
  intro q hq hz hclock
  cases u with
  | release =>
    obtain ⟨r, h₁⟩ := Bus.runs_use_release h
    obtain ⟨v, _, h₂, rfl, rfl⟩ := Bus.runs_release hs h₁
    rw [requests_append, Program.requests_reported, Program.requests_nil, List.append_nil] at hq
    rw [clock?_of_release h₂ q hq] at hclock
    exact absurd hclock nofun
  | method m =>
    obtain ⟨r, h₁⟩ := Bus.runs_use_method h
    obtain ⟨c, r', s', -, h₂, hb'⟩ | ⟨rfl, -⟩ :=
      (BusAccess.Spi.methods.routes table m).runs hs h₁
    · have hs' : b'.core = some s' := congrArg Bus.core hb'
      rw [clock_of_call h₂ q hq hz hclock, speed_of_use hs h hs']
    · exact absurd hq List.not_mem_nil

/-- **The speed after some uses** is the last one that was set and is not zero, or else the first. -/
theorem speed_of_uses {us : List (Use BusAccess.Spi.methods)} (hs : b.core = some s)
    (h : (Bus.uses table us b).Runs t b') (hs' : b'.core = some s') :
    s'.speed = us.foldl speedAfter s.speed := by
  induction us generalizing b s t with
  | nil =>
    obtain ⟨-, rfl⟩ := Program.runs_done.1 h
    rw [Option.some.inj (hs'.symm.trans hs), List.foldl_nil]
  | cons u us ih =>
    obtain ⟨v, b₁, w, h₁, h₂, rfl⟩ := Program.runs_bind.1 h
    cases hs₁ : b₁.core with
    | none =>
      -- A bus that is gone does not come back.
      rw [Bus.uses_gone table us hs₁] at h₂
      obtain ⟨-, rfl⟩ := Program.runs_done.1 h₂
      exact absurd (hs₁.symm.trans hs') nofun
    | some s₁ => rw [ih hs₁ h₂, speed_of_use hs h₁ hs₁, List.foldl_cons]

theorem clock?_of_drop (h : (Bus.drop table b).Runs t ()) : ∀ q ∈ requests t, q.clock? = none := by
  cases hs : b.core with
  | none =>
    rw [Bus.runs_drop_gone hs h]
    exact nofun
  | some s =>
    obtain ⟨v, r, s', rest, h₁, rfl, hrest⟩ := Bus.runs_drop hs h
    rw [requests_append, Program.requests_eq_nil_iff.2 hrest, List.append_nil]
    exact clock?_of_release h₁

/-- Making a bus tells no clock. -/
theorem clock?_of_create {roots : Roots} {params : BusAccess.Spi.Params}
    {r : Except Error (Bus Core)} (h : (create roots params).Runs t r) :
    ∀ q ∈ requests t, q.clock? = none := by
  cases hb : chooseBus params.uri params.busnum with
  | error e =>
    rw [create_of_error hb] at h
    rw [(Program.runs_done.1 h).1]
    exact List.forall_mem_nil _
  | ok busnum => cases making_of_create hb h <;> simp [Request.clock?]

/-- **A zero is told after some uses** just if the bus was made with it and no other speed was set. -/
theorem clock_eq_zero_iff {us : List (Use BusAccess.Spi.methods)} {u : Use BusAccess.Spi.methods}
    {before : Trace interface} {b₁ : Bus Core} (hs : b.core = some s)
    (hbefore : (Bus.uses table us b).Runs before b₁) (h : (Bus.use table u b₁).Runs t b') :
    ∀ q ∈ requests t, ∀ hz, q.clock? = some hz →
      (hz = 0 ↔ s.speed = 0 ∧ ∀ hz', .method (.setSpeed hz') ∈ us ++ [u] → hz' = 0) := by
  intro q hq hz hclock
  cases hs₁ : b₁.core with
  | none =>
    rw [Bus.use_gone table u hs₁] at h
    obtain ⟨rfl, -⟩ := Program.runs_done.1 h
    exact absurd hq List.not_mem_nil
  | some s₁ =>
    have htold : hz = (us ++ [u]).foldl speedAfter s.speed := by
      rw [clock_of_use hs₁ h q hq hz hclock, speed_of_uses hs hbefore hs₁, List.foldl_concat]
    rw [htold, foldl_speedAfter_eq_zero_iff]

/-- Zero is refused where the speed is changed. -/
theorem setSpeed_zero (b : Bus Core) : Bus.call table (.setSpeed 0) b =
    .done (.error (if b.core = none then .invalidObject else .invalidArgument), b) := by
  cases hb : b.core with
  | none => exact Bus.call_gone table (.setSpeed 0) hb
  | some s => exact Bus.call_at_once hb rfl rfl

end Spi

end Node

/-! ## Where a zero comes from -/

/-- **A clock of zero comes from the parameters**, which are not looked at.  An adapter is opened at
their clock and is told no zero later.  A bus of device nodes tells a zero just if its parameters had
it and no other speed was set.  The methods that change the clock refuse zero, and do nothing. -/
theorem zero_clock_from_parameters (roots : Node.Roots) (named : I2c.Params) (params : Spi.Params) :
    (∀ (made : Trace Adapter.interface) r, (Adapter.create named).Runs made r →
      (∀ q ∈ requests made,
        q.clock? = some named.freq ∨ q.clock? = none ∧ (q = .reserve ∨ q = .close)) ∧
      ∀ b us trace, r = .ok b → (Bus.life (M := I2c.methods) Adapter.table us b).Runs trace () →
        ∀ q ∈ requests trace, q.clock? ≠ some 0) ∧
    (∀ (made : Trace Node.interface) r, (Node.Spi.create roots params).Runs made r →
      (∀ q ∈ requests made, q.clock? = none) ∧
      ∀ b us before b₁, r = .ok b →
        (Bus.uses (M := Spi.methods) Node.Spi.table us b).Runs before b₁ →
        (∀ u trace b₂, (Bus.use (M := Spi.methods) Node.Spi.table u b₁).Runs trace b₂ →
          ∀ q ∈ requests trace, ∀ hz, q.clock? = some hz →
            (hz = 0 ↔ params.speed = 0 ∧
              ∀ hz', .method (.setSpeed hz') ∈ us ++ [u] → hz' = 0)) ∧
        ∀ trace, (Bus.drop Node.Spi.table b₁).Runs trace () →
          ∀ q ∈ requests trace, q.clock? = none) ∧
    (∀ b, Bus.call Adapter.table (.setFreq 0) b =
      .done (.error (if b.core = none then .invalidObject else .invalidArgument), b)) ∧
    ∀ b, Bus.call Node.Spi.table (.setSpeed 0) b =
      .done (.error (if b.core = none then .invalidObject else .invalidArgument), b) := by
  refine ⟨fun made r h ↦ ?_, fun made r h ↦ ?_, Adapter.setFreq_zero, Node.Spi.setSpeed_zero⟩
  · exact ⟨Adapter.clock?_of_create h, fun _ _ _ _ hlife ↦ Adapter.clock?_of_life hlife⟩
  · refine ⟨Node.Spi.clock?_of_create h, ?_⟩
    rintro b us before b₁ rfl hbefore
    obtain ⟨busnum, rfl⟩ := Node.Spi.runs_create h
    refine ⟨fun u trace b₂ hu ↦ ?_, fun trace hdrop ↦ Node.Spi.clock?_of_drop hdrop⟩
    exact Node.Spi.clock_eq_zero_iff rfl hbefore hu

/-- An adapter that was opened at zero is told no zero any more.  A bus of device nodes with a speed of
zero tells it to its first device, and no more once it has another speed. -/
theorem zero_clock_from_parameters_until_set :
    let opened : Trace Node.interface := [.asked (.openNode (Node.Spi.nodePath "/dev" 0 0)) (some 3),
      .asked (.setMode 3 0) true, .asked (.setMaxSpeed 3 0) true]
    let s : Node.Spi.Core := { busnum := 0, directory := "/dev", speed := 0, mode := .mode0 }
    let b : Bus Node.Spi.Core := .new Node.name s
    let b₁ : Bus Node.Spi.Core := { b with core := some { s with devices := [⟨3⟩] }, openDevices := 1 }
    (∀ us trace, (Bus.life (M := I2c.methods) Adapter.table us
      (.new Adapter.name { clock := 0 })).Runs trace () → ∀ q ∈ requests trace, q.clock? ≠ some 0) ∧
    (Bus.use (M := Spi.methods) Node.Spi.table (.method (.openAt 0)) b).Runs opened b₁ ∧
    (∀ q ∈ requests opened, ∀ hz, q.clock? = some hz → hz = 0) ∧
    ∀ before b₂ u trace b₃, (Bus.uses (M := Spi.methods) Node.Spi.table
        [.method (.openAt 0), .method (.setSpeed 500000)] b).Runs before b₂ →
      (Bus.use (M := Spi.methods) Node.Spi.table u b₂).Runs trace b₃ →
      ∀ q ∈ requests trace, ∀ hz, q.clock? = some hz → hz ≠ 0 := by
  intro opened s b b₁
  obtain ⟨hadapters, hnodes, -⟩ := zero_clock_from_parameters {}
    { uri := some "mpsse://0403:6014/", freq := 0 } { speed := 0 }
  have hadapter := (hadapters _ _ (Adapter.create_runs rfl rfl)).2
  have hnode := (hnodes _ _ (@Node.Spi.create_runs {} _ 0 ["spidev0.0"] rfl (by decide))).2 b
  have hopened : (Bus.use (M := Spi.methods) Node.Spi.table (.method (.openAt 0)) b).Runs opened b₁ :=
    .ask (.ask (.ask (.done _)))
  refine ⟨fun us trace ↦ hadapter _ us trace rfl, hopened, ?_, ?_⟩
  · intro q hq hz hclock
    refine (((hnode [] [] b rfl (.done _)).1 _ _ _ hopened) q hq hz hclock).2 ⟨rfl, ?_⟩
    exact fun hz' h ↦ absurd (List.mem_singleton.1 h) nofun
  · intro before b₂ u trace b₃ hbefore hu q hq hz hclock hzero
    have hset := ((((hnode _ _ _ rfl hbefore).1 _ _ _ hu) q hq hz hclock).1 hzero).2 500000
    exact absurd (hset (List.mem_cons_of_mem _ List.mem_cons_self)) (by decide)

/-- **A zero is told** by a bus of either kind that is made with it: when the adapter is opened, and
when the first device is. -/
theorem zero_clock_told :
    (Adapter.create { uri := some "mpsse://0403:6014/", freq := 0 }).Runs
        [.asked (.openAdapter ⟨0x0403, 0x6014⟩ 0 true) (.ok ()), .asked .reserve true,
          .reported (.info "mpsse adapter opened")]
        (.ok (.new Adapter.name { clock := 0 })) ∧
      ∃ b made trace b', (Node.Spi.create {} { speed := 0 }).Runs made (.ok b) ∧
        (Bus.use (M := Spi.methods) Node.Spi.table (.method (.openAt 0)) b).Runs trace b' ∧
        Node.Request.setMaxSpeed 3 0 ∈ requests trace := by
  refine ⟨@Adapter.create_runs { uri := some "mpsse://0403:6014/", freq := 0 } _ _ rfl rfl, _, _,
    [.asked (.openNode (Node.Spi.nodePath "/dev" 0 0)) (some 3), .asked (.setMode 3 0) true,
      .asked (.setMaxSpeed 3 0) true], _,
    @Node.Spi.create_runs {} { speed := 0 } 0 ["spidev0.0"] rfl (by decide),
    Program.Runs.ask (Program.Runs.ask (Program.Runs.ask (Program.Runs.done _))), ?_⟩
  exact List.mem_cons_of_mem _ (List.mem_cons_of_mem _ List.mem_cons_self)

end BusAccess
