import BusAccess.Proofs.Node.Coherence

/-!
# Changes that fail

Changing the speed or the mode of an SPI bus is done in two steps: the new value is stored, and then
every open device is set up with it.  The second step can fail, and then the first is not taken back.
So a bus can have a value that it could not set on any device, and goes by it from then on
(`refused_change_stays`): messages carry the new speed, and devices that are opened are told the new
values, until there is another change.

A change that fails without asking the kernel leaves everything as it was.  There are two of these, a
speed of zero and a bus that is released.
-/

set_option autoImplicit false

namespace BusAccess.Node.Spi

open Program (Trace Step requests)

variable {t : Trace interface} {b b' : Bus Core} {s s' : Core}

/-! ## Changes -/

/-- A new value for one of the two that a bus stores. -/
inductive Change where
  | speed (hz : UInt32)
  | mode (mode : BusAccess.Spi.Mode)
  deriving DecidableEq, Repr

namespace Change

/-- The method that makes a change. -/
def method : Change → BusAccess.Spi.Method
  | speed hz => .setSpeed hz
  | mode m => .setMode m

/-- What a bus keeps if the new value is stored. -/
def store : Change → Core → Core
  | speed hz, s => { s with speed := hz }
  | mode m, s => { s with mode := m }

end Change

/-- What a device was asked in vain if setting up all of them failed. -/
theorem SetsUp.refused_of_error {l : List DeviceHandle} {order : Order l.length} {speed : UInt32}
    {mode : BusAccess.Spi.Mode} {e : Error} {u : Trace interface}
    (h : SetsUp (Order.arrange l order) speed mode u (.error e)) (q : Step interface) :
    e = .ioError ∧ ∃ d ∈ l, Refused speed mode (q :: u) d := by
  obtain ⟨hok, _⟩ | hio := h.ends
  · exact absurd hok nofun
  · obtain ⟨d, hd, hrefused⟩ := h.refused hio
    have hm : d ∈ l := (Order.arrange_perm l order).mem_iff.1 hd
    exact ⟨Except.error.inj hio, d, hm, hrefused.append_left (t := [q])⟩

/-- **A change that fails** asked for a speed of zero, or it was refused by a device that is open and
is stored all the same. -/
theorem core_of_failed_change {x : Change} {e : Error} (hs : b.core = some s)
    (h : (BusAccess.Spi.methods.perform table x.method b).Runs t (.error e, b')) :
    (x = .speed 0 ∧ e = .invalidArgument ∧ t = [] ∧ b' = b) ∨
      e = .ioError ∧ b' = { b with core := some (x.store s) } ∧
        ∃ d ∈ s.devices, Refused (x.store s).speed (x.store s).mode t d := by
  cases x with
  | speed hz =>
    have hcall : (Bus.call table (.setSpeed hz) b).Runs t (.error e, b') := h
    obtain ⟨s', h₁, rfl⟩ := Bus.runs_call hs hcall
    rcases runs_setSpeed h₁ with ⟨rfl, rfl, he, rfl⟩ | ⟨_, rfl, order, u, rfl, hset⟩
    · rw [← hs]
      exact .inl ⟨rfl, Except.error.inj he, rfl, rfl⟩
    · obtain ⟨he, hrefused⟩ := hset.refused_of_error (.asked (.order _) order)
      exact .inr ⟨he, rfl, hrefused⟩
  | mode m =>
    have hcall : (Bus.call table (.setMode m) b).Runs t (.error e, b') := h
    obtain ⟨s', h₁, rfl⟩ := Bus.runs_call hs hcall
    obtain ⟨rfl, order, u, rfl, hset⟩ := runs_setMode h₁
    obtain ⟨he, hrefused⟩ := hset.refused_of_error (.asked (.order _) order)
    exact .inr ⟨he, rfl, hrefused⟩

/-! ## What is stored stays -/

/-- Whether a call changes one of the two values. -/
def changes : BusAccess.Spi.Call → Bool
  | .setSpeed _ => true
  | .setMode _ => true
  | _ => false

/-- A call that changes neither value keeps what is stored. -/
theorem stored_of_call {c : BusAccess.Spi.Call} {r : Except Error c.Answer}
    (hc : changes c = false) (h : (table.call c s).Runs t (r, s')) : s'.stored = s.stored := by
  cases c with
  | openAt chipSelect =>
    rcases runs_openAt h with ⟨_, _, rfl⟩ | ⟨_, _, _, _, _, rfl⟩ | ⟨_, _, _, _, _, rfl⟩ <;> rfl
  | transfer device tx rx => rw [(runs_transfer h).1]
  | close device => rcases runs_close h with ⟨_, _, _, rfl⟩ | ⟨_, _, _, rfl⟩ <;> rfl
  | setSpeed hz => exact absurd hc nofun
  | setMode mode => exact absurd hc nofun

/-- A method that is no change keeps what is stored. -/
theorem stored_of_perform {m : BusAccess.Spi.Method} {r : Except Error m.Answer}
    (hx : ∀ x : Change, m ≠ x.method) (hs : b.core = some s)
    (h : (BusAccess.Spi.methods.perform table m b).Runs t (r, b')) (hs' : b'.core = some s') :
    s'.stored = s.stored := by
  have hcall (c : BusAccess.Spi.Call) {r : Except Error c.Answer} (hc : changes c = false)
      (h : (Bus.call table c b).Runs t (r, b')) : s'.stored = s.stored := by
    obtain ⟨s₁, h₁, rfl⟩ := Bus.runs_call hs h
    obtain rfl := Option.some.inj hs'
    exact stored_of_call hc h₁
  cases m with
  | openAt chipSelect => exact hcall (.openAt chipSelect) rfl h
  | transfer device tx rx =>
    rcases (BusAccess.Spi.methods.routes table (.transfer device tx rx)).runs hs h with
      ⟨c, r', s₁, hroute, h₁, rfl⟩ | ⟨_, rfl⟩
    · obtain rfl := BusAccess.Spi.Method.eq_of_route_transfer hroute
      obtain rfl := Option.some.inj hs'
      exact stored_of_call rfl h₁
    · rw [Option.some.inj (hs.symm.trans hs')]
  | read device length => exact hcall (.transfer device none (some length)) rfl h
  | write device data => exact hcall (.transfer device (some data) none) rfl h
  | close device => exact hcall (.close device) rfl h
  | setSpeed hz => exact absurd rfl (hx (.speed hz))
  | setMode mode => exact absurd rfl (hx (.mode mode))

/-- A use that is no change keeps what is stored. -/
theorem stored_of_act {use : Use BusAccess.Spi.methods} {d : Deed BusAccess.Spi.methods}
    (hx : ∀ x : Change, use ≠ .method x.method) (h : (Bus.act table use b).Runs t (d, b'))
    (hs' : b'.core = some s') : ∃ s, b.core = some s ∧ s'.stored = s.stored := by
  cases hs : b.core with
  | none =>
    obtain ⟨rfl, _⟩ := Bus.runs_act_gone hs h
    rw [hs] at hs'
    exact absurd hs' nofun
  | some s =>
    refine ⟨s, rfl, ?_⟩
    cases use with
    | release =>
      obtain ⟨r, rfl, h₁⟩ := Bus.runs_act_release h
      obtain ⟨_, _, _, _, rfl⟩ := Bus.runs_release hs h₁
      exact absurd hs' nofun
    | method m =>
      obtain ⟨r, rfl, h₁⟩ := Bus.runs_act_method h
      exact stored_of_perform (fun x hm ↦ hx x (congrArg Use.method hm)) hs h₁ hs'

/-- **What is stored stays** as long as there is no change. -/
theorem stored_of_acts {us : List (Use BusAccess.Spi.methods)}
    {ds : List (Deed BusAccess.Spi.methods)} (hx : ∀ x : Change, .method x.method ∉ us)
    (h : (Bus.acts table us b).Runs t (ds, b')) (hs' : b'.core = some s') :
    ∃ s, b.core = some s ∧ s'.stored = s.stored := by
  induction us generalizing b t ds with
  | nil =>
    obtain ⟨_, hb⟩ := Program.runs_done.1 h
    obtain ⟨-, rfl⟩ := Prod.mk.inj hb
    exact ⟨s', hs', rfl⟩
  | cons use us ih =>
    obtain ⟨v, ⟨d, b₁⟩, w, h₁, h₂, rfl⟩ := Program.runs_bind.1 h
    obtain ⟨v₁, ⟨ds₁, b₂⟩, v₂, h₃, h₄, rfl⟩ := Program.runs_bind.1 h₂
    obtain ⟨_, hb⟩ := Program.runs_done.1 h₄
    obtain ⟨-, rfl⟩ := Prod.mk.inj hb
    obtain ⟨s₁, hs₁, hstored₁⟩ := ih (fun x hm ↦ hx x (List.mem_cons_of_mem use hm)) h₃
    obtain ⟨s, hs, hstored⟩ := stored_of_act (fun x hu ↦ hx x (hu ▸ List.mem_cons_self)) h₁ hs₁
    exact ⟨s, hs, hstored₁.trans hstored⟩

/-! ## What a bus goes by -/

section Traffic

variable {stored : Settings} (hb : ∀ s, b.core = some s → s.stored = stored)

include hb

/-- **Every message** has the speed that is stored. -/
theorem message_of_stored {m : BusAccess.Spi.Method} {r : Except Error m.Answer}
    (h : (BusAccess.Spi.methods.perform table m b).Runs t (r, b')) {fd : Descriptor}
    {message : Message} (hm : .exchange fd message ∈ requests t) :
    stored.speed? = some message.speedHz := by
  have hroutes := BusAccess.Spi.methods.routes table m
  cases hs : b.core with
  | none =>
    rw [hroutes.run_gone hs] at h
    obtain ⟨rfl, _⟩ := Program.runs_done.1 h
    exact absurd hm List.not_mem_nil
  | some s =>
    rcases hroutes.runs hs h with ⟨c, r', s', _, h₁, rfl⟩ | ⟨rfl, _⟩
    · rw [← hb s hs, (message_of_call h₁ hm).1]
      rfl
    · exact absurd hm List.not_mem_nil

/-- **A device that is opened** is told what is stored. -/
theorem settings_of_stored {chipSelect : UInt32} {d : DeviceHandle} (past : Trace interface)
    (h : (Bus.call table (.openAt chipSelect) b).Runs t (.ok d, b')) :
    settings d (past ++ t) = some stored := by
  cases hs : b.core with
  | none =>
    obtain ⟨_, hr, _⟩ := Bus.runs_call_gone hs h
    exact absurd hr nofun
  | some s =>
    obtain ⟨s', h₁, _⟩ := Bus.runs_call hs h
    rw [settings_of_opened h₁, hb s hs]

end Traffic

/-- **Until the next change** messages go by what is stored, and so do devices that are opened. -/
theorem traffic_until_change {us : List (Use BusAccess.Spi.methods)} {u : Trace interface}
    {ds : List (Deed BusAccess.Spi.methods)} {b₁ : Bus Core} (hs : b.core = some s)
    (hx : ∀ x : Change, .method x.method ∉ us) (h : (Bus.acts table us b).Runs u (ds, b₁)) :
    (∀ m v r b₂, (BusAccess.Spi.methods.perform table m b₁).Runs v (r, b₂) →
      ∀ fd message, .exchange fd message ∈ requests v → message.speedHz = s.speed) ∧
    ∀ past chipSelect v d b₂, (Bus.call table (.openAt chipSelect) b₁).Runs v (.ok d, b₂) →
      settings d (past ++ v) = some ⟨some s.mode.bits, some s.speed⟩ := by
  have hstored : ∀ s₁, b₁.core = some s₁ → s₁.stored = s.stored := by
    intro s₁ hs₁
    obtain ⟨s', hs', hstored⟩ := stored_of_acts hx h hs₁
    rw [hstored, Option.some.inj (hs'.symm.trans hs)]
  refine ⟨?_, ?_⟩
  · intro m v r b₂ hperform fd message hm
    have hspeed := message_of_stored hstored hperform hm
    exact (Option.some.inj hspeed).symm
  · intro past chipSelect v d b₂ hopen
    exact settings_of_stored hstored past hopen

/-! ## What a change that fails comes to -/

/-- On a bus that is released a change fails at once. -/
theorem failed_change_gone {x : Change} {e : Error} (hs : b.core = none)
    (h : (BusAccess.Spi.methods.perform table x.method b).Runs t (.error e, b')) :
    e = .invalidObject ∧ t = [] ∧ b' = b := by
  have hgone : t = [] ∧ Except.error e = (.error .invalidObject : Except Error Unit) ∧ b' = b := by
    cases x with
    | speed hz => exact Bus.runs_call_gone hs h
    | mode m => exact Bus.runs_call_gone hs h
  exact ⟨Except.error.inj hgone.2.1, hgone.1, hgone.2.2⟩

/-- **A change that was refused stays.**  When changing the speed or the mode fails, either nothing is
changed, or some open device refused; then the new value is stored, and until the next change every
message goes by it, and so does every device that is opened. -/
theorem refused_change_stays {x : Change} {e : Error}
    (h : (BusAccess.Spi.methods.perform table x.method b).Runs t (.error e, b')) :
    match b.core with
    | none => e = .invalidObject ∧ t = [] ∧ b' = b
    | some s =>
      ∃ s', b' = { b with core := some s' } ∧
        (x = .speed 0 ∧ e = .invalidArgument ∧ t = [] ∧ s' = s ∨
          e = .ioError ∧ s' = x.store s ∧ ∃ d ∈ s.devices, Refused s'.speed s'.mode t d) ∧
        ∀ us u ds b₁, (∀ x : Change, .method x.method ∉ us) →
          (Bus.acts (M := BusAccess.Spi.methods) table us b').Runs u (ds, b₁) →
          (∀ m v r b₂, (BusAccess.Spi.methods.perform table m b₁).Runs v (r, b₂) →
            ∀ fd message, .exchange fd message ∈ requests v → message.speedHz = s'.speed) ∧
          ∀ past chipSelect v d b₂, (Bus.call table (.openAt chipSelect) b₁).Runs v (.ok d, b₂) →
            settings d (past ++ v) = some ⟨some s'.mode.bits, some s'.speed⟩ := by
  cases hs : b.core with
  | none => exact failed_change_gone hs h
  | some s =>
    rcases core_of_failed_change hs h with ⟨hx, he, ht, rfl⟩ | ⟨he, rfl, hrefused⟩
    · refine ⟨s, by rw [← hs], .inl ⟨hx, he, ht, rfl⟩, ?_⟩
      intro us u ds b₁ hx h₁
      exact traffic_until_change hs hx h₁
    · refine ⟨x.store s, rfl, .inr ⟨he, rfl, hrefused⟩, ?_⟩
      intro us u ds b₁ hx h₁
      exact traffic_until_change rfl hx h₁

/-- The second of two devices refuses a mode. -/
theorem refused_change_stays_mode :
    let core : Core := { busnum := 0, directory := "/dev", speed := 1000000, mode := .mode0 }
    let s : Core := { core with devices := [⟨3⟩, ⟨4⟩] }
    let b : Bus Core := { backend := name, core := some s, openDevices := 2 }
    let t : Trace interface := [.asked (.order 2) (.ascending 2), .asked (.setMode 3 3) true,
      .asked (.setMaxSpeed 3 1000000) true, .asked (.setMode 4 3) false,
      .reported (.error "ioctl SPI_IOC_WR_MODE failed"),
      .reported (.warn "failed to apply spi mode to open device")]
    let b' : Bus Core := { b with core := some { s with mode := .mode3 } }
    (BusAccess.Spi.methods.perform table (.setMode .mode3) b).Runs t (.error .ioError, b') ∧
      ∀ chipSelect v d b₂, (Bus.call table (.openAt chipSelect) b').Runs v (.ok d, b₂) →
        settings d (t ++ v) = some ⟨some 3, some 1000000⟩ := by
  intro core s b t b'
  have h : (BusAccess.Spi.methods.perform table (.setMode .mode3) b).Runs t
      (.error .ioError, b') := .ask (.ask (.ask (.ask (.report (.report (.done _))))))
  obtain ⟨s', hb', hs', hlater⟩ := refused_change_stays (x := .mode .mode3) h
  refine ⟨h, fun chipSelect v d b₂ hopen ↦ ?_⟩
  obtain rfl : { s with mode := .mode3 } = s' := Option.some.inj (congrArg Bus.core hb')
  exact (hlater [] [] [] b' (fun _ ↦ List.not_mem_nil) (.done _)).2 t chipSelect v d b₂ hopen

/-- A speed that the only device refused is the speed of its next message. -/
theorem refused_speed_used :
    let s : Core := { busnum := 0, directory := "/dev", speed := 1000000, mode := .mode0 }
    let opened : Trace interface := [.asked (.openNode (nodePath "/dev" 0 0)) (some 3),
      .asked (.setMode 3 0) true, .asked (.setMaxSpeed 3 1000000) true]
    let changed : Trace interface := [.asked (.order 1) (.ascending 1), .asked (.setMode 3 0) true,
      .asked (.setMaxSpeed 3 500000) false,
      .reported (.error "ioctl SPI_IOC_WR_MAX_SPEED_HZ failed")]
    let b₁ : Bus Core :=
      { backend := name, core := some { s with devices := [⟨3⟩] }, openDevices := 1 }
    let b₂ : Bus Core :=
      { backend := name, core := some { s with speed := 500000, devices := [⟨3⟩] }, openDevices := 1 }
    (create {} {}).Runs [.asked (.list "/dev") (some ["spidev0.0"]),
        .asked .reserve true, .reported (.debug "linuxdev spi bus created")] (.ok (.new name s)) ∧
      (Bus.call table (.openAt 0) (.new name s)).Runs opened (.ok ⟨3⟩, b₁) ∧
      (BusAccess.Spi.methods.perform table (.setSpeed 500000) b₁).Runs changed
        (.error .ioError, b₂) ∧
      (BusAccess.Spi.methods.perform table (.write ⟨3⟩ [1]) b₂).Runs
        [.asked (.exchange 3 { tx := some [1], rx := none, length := 1, speedHz := 500000 })
          (some ⟨1, []⟩)] (.ok ⟨1, []⟩, b₂) := by
  intro s opened changed b₁ b₂
  refine ⟨@create_runs {} {} 0 ["spidev0.0"] rfl (by decide), ?_, ?_, ?_⟩
  · exact .ask (.ask (.ask (.done _)))
  · exact .ask (.ask (.ask (.report (.done _))))
  · exact .ask (.done _)

end BusAccess.Node.Spi
