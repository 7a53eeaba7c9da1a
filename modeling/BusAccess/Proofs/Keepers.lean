import BusAccess.Proofs.Bus.Guard
import BusAccess.Proofs.Daemon.Life
import BusAccess.Proofs.Node.Descriptors
import BusAccess.Proofs.Node.Pins

/-!
# Backends that keep a table of what is open

Four backends look every handle up in a table of their own before they do anything with it: the one
that works through a daemon, and the three on the machine itself.  What is in their tables differs.
Two keep handles as they give them out.  The daemon and the pins have numbers of their own, without
sign, and a handle has to be turned into one first; the two agree where both are defined
(`DeviceHandle.ofUnsigned?_eq_some_iff`).

All four guard their devices (`Keeper.guards`), so the handle of a device that is not open is refused
on each of them, without a request and with the bus as it was (`stray_handle_refused`).  Nothing has
to be assumed about numbers that are handed out: one that is used again names the device that was
opened last.
-/

set_option autoImplicit false

namespace BusAccess

open Program (Trace)

/-! ## Handles and numbers without sign -/

/-- A number and the handle that is made of it lead to one another. -/
theorem DeviceHandle.ofUnsigned?_eq_some_iff {n : UInt32} {d : DeviceHandle} :
    DeviceHandle.ofUnsigned? n = some d ↔ d.unsigned? = some n := by
  rw [DeviceHandle.ofUnsigned?, DeviceHandle.unsigned?]
  constructor
  · intro h
    split at h
    case isTrue hn =>
      obtain rfl := Option.some.inj h
      have hint : (Int32.ofNat n.toNat).toInt = n.toNat := Int32.toInt_ofNat_of_lt hn
      rw [hint, if_pos (Int.natCast_nonneg _), Int.toNat_natCast, UInt32.ofNat_toNat]
    case isFalse => exact absurd h (Option.some_ne_none d).symm
  · intro h
    split at h
    case isTrue hd =>
      obtain rfl := Option.some.inj h
      have hlt : d.raw.toInt.toNat < 0x80000000 := by
        have := d.raw.toInt_lt
        omega
      have hnat : (UInt32.ofNat d.raw.toInt.toNat).toNat = d.raw.toInt.toNat :=
        UInt32.toNat_ofNat_of_lt' (by simp only [UInt32.size]; omega)
      rw [hnat, if_pos hlt]
      congr 2
      rw [← Int32.toInt_inj, Int32.toInt_ofNat_of_lt hlt, Int.toNat_of_nonneg hd]
    case isFalse => exact absurd h (Option.some_ne_none n).symm

/-! ## The daemon -/

namespace Daemon

variable {s s' : Core} {t : Trace interface} {d : DeviceHandle}

theorem named?_ne_none_iff : named? s d ≠ none ↔ ∃ g ∈ s.handles, d.unsigned? = some g := by
  rw [Option.ne_none_iff_exists']
  simp only [named?, Option.filter_eq_some_iff, List.contains_iff_mem]
  exact ⟨fun ⟨g, hg, hm⟩ ↦ ⟨g, hm, hg⟩, fun ⟨g, hm, hg⟩ ↦ ⟨g, hg, hm⟩⟩

theorem named?_of_call {c : I2c.Call} {r : Except Error c.Answer}
    (hs : s.handles.Pairwise (· < ·)) (h : (table.call c s).Runs t (r, s')) :
    s'.handles.Pairwise (· < ·) ∧ ∀ d, named? s' d ≠ none →
      Kind.i2c.opened? c r = some d ∨ named? s d ≠ none ∧ Kind.i2c.closed? c ≠ some d := by
  cases c with
  | openAt address =>
    obtain ⟨e, _, rfl, rfl⟩ | ⟨_, _, _, _, rfl, rfl⟩ | ⟨g, device, hg, _, rfl, rfl⟩ := runs_openAt h
    · exact ⟨hs, fun d hd ↦ .inr ⟨hd, nofun⟩⟩
    · exact ⟨hs, fun d hd ↦ .inr ⟨hd, nofun⟩⟩
    · refine ⟨pairwise_insertHandle hs, fun d hd ↦ ?_⟩
      obtain ⟨x, hx, hu⟩ := named?_ne_none_iff.1 hd
      obtain rfl | hx := mem_insertHandle.1 hx
      · exact .inl (hg.symm.trans (DeviceHandle.ofUnsigned?_eq_some_iff.2 hu))
      · exact .inr ⟨named?_ne_none_iff.2 ⟨x, hx, hu⟩, nofun⟩
  | read device n =>
    obtain ⟨rfl, _⟩ := runs_read h
    exact ⟨hs, fun d hd ↦ .inr ⟨hd, nofun⟩⟩
  | write device data =>
    obtain ⟨rfl, _⟩ := runs_write h
    exact ⟨hs, fun d hd ↦ .inr ⟨hd, nofun⟩⟩
  | close device =>
    obtain ⟨hnone, _, _, rfl⟩ | ⟨g, hg, _, rfl⟩ := runs_close h
    · refine ⟨hs, fun d hd ↦ .inr ⟨hd, fun he ↦ ?_⟩⟩
      obtain rfl := Option.some.inj he
      exact hd hnone
    · refine ⟨hs.sublist List.erase_sublist, fun d hd ↦ ?_⟩
      obtain ⟨x, hx, hu⟩ := named?_ne_none_iff.1 hd
      refine .inr ⟨named?_ne_none_iff.2 ⟨x, List.mem_of_mem_erase hx, hu⟩, fun he ↦ ?_⟩
      obtain rfl := Option.some.inj he
      obtain ⟨hg, _⟩ := Option.filter_eq_some_iff.1 hg
      obtain rfl := Option.some.inj (hg.symm.trans hu)
      have hnodup : s.handles.Nodup := hs.imp UInt32.ne_of_lt
      exact hnodup.not_mem_erase hx
  | setFreq hz =>
    obtain ⟨_, rfl, rfl⟩ := Action.runs_throw.1 h
    exact ⟨hs, fun d hd ↦ .inr ⟨hd, nofun⟩⟩
  | setClockStretch enable =>
    obtain ⟨_, rfl, rfl⟩ := Action.runs_throw.1 h
    exact ⟨hs, fun d hd ↦ .inr ⟨hd, nofun⟩⟩

/-- The backend of a daemon refuses what it does not know. -/
theorem guards : Guards .i2c table (fun s d ↦ named? s d ≠ none)
    fun s ↦ s.handles.Pairwise (· < ·) where
  step {b b' s m trace r} hs hb h := by
    obtain ⟨s', h₁, rfl⟩ := Bus.runs_call hb h
    exact ⟨s', rfl, named?_of_call hs h₁⟩
  refusal {s m d} hm hd := by
    have hnone : named? s d = none := not_not.1 hd
    cases m with
    | read device n =>
      obtain rfl := Option.some.inj hm
      exact ⟨_, rfl, handleOf_bind_of_none hnone⟩
    | write device data =>
      obtain rfl := Option.some.inj hm
      exact ⟨_, rfl, handleOf_bind_of_none hnone⟩
    | close device =>
      obtain rfl := Option.some.inj hm
      exact ⟨_, rfl, handleOf_bind_of_none hnone⟩
    | _ => exact absurd hm nofun

end Daemon

/-! ## Device nodes -/

namespace Node

namespace I2c

variable {s s' : Core} {t : Trace interface} {d : DeviceHandle}

theorem mem_devices_of_call {c : BusAccess.I2c.Call} {r : Except Error c.Answer}
    (hs : s.devices.Nodup) (h : (table.call c s).Runs t (r, s')) :
    s'.devices.Nodup ∧ ∀ d ∈ s'.devices,
      Kind.i2c.opened? c r = some d ∨ d ∈ s.devices ∧ Kind.i2c.closed? c ≠ some d := by
  cases c with
  | openAt address =>
    obtain ⟨_, rfl, rfl⟩ | ⟨_, rfl, rfl⟩ | ⟨_, _, rfl, rfl⟩ | ⟨fd, _, rfl, rfl⟩ := runs_openAt h
    · exact ⟨hs, fun d hd ↦ .inr ⟨hd, nofun⟩⟩
    · exact ⟨hs, fun d hd ↦ .inr ⟨hd, nofun⟩⟩
    · exact ⟨hs, fun d hd ↦ .inr ⟨hd, nofun⟩⟩
    · refine ⟨hs.insert, fun d hd ↦ ?_⟩
      obtain rfl | hd := List.mem_insert_iff.1 hd
      · exact .inl rfl
      · exact .inr ⟨hd, nofun⟩
  | read device n =>
    obtain ⟨rfl, _⟩ := runs_read h
    exact ⟨hs, fun d hd ↦ .inr ⟨hd, nofun⟩⟩
  | write device data =>
    obtain ⟨rfl, _⟩ := runs_write h
    exact ⟨hs, fun d hd ↦ .inr ⟨hd, nofun⟩⟩
  | close device =>
    obtain ⟨hnot, _, _, rfl⟩ | ⟨_, _, _, rfl⟩ := runs_close h
    · refine ⟨hs, fun d hd ↦ .inr ⟨hd, fun he ↦ ?_⟩⟩
      exact hnot (Option.some.inj he ▸ hd)
    · refine ⟨hs.erase device, fun d hd ↦ ?_⟩
      obtain ⟨hne, hd⟩ := hs.mem_erase_iff.1 hd
      exact .inr ⟨hd, fun he ↦ hne (Option.some.inj he).symm⟩
  | setFreq hz =>
    obtain ⟨_, rfl, rfl⟩ := Action.runs_throw.1 h
    exact ⟨hs, fun d hd ↦ .inr ⟨hd, nofun⟩⟩
  | setClockStretch enable =>
    obtain ⟨_, rfl, rfl⟩ := Action.runs_throw.1 h
    exact ⟨hs, fun d hd ↦ .inr ⟨hd, nofun⟩⟩

/-- The backend of I2C nodes refuses what is not in its table. -/
theorem guards : Guards .i2c table (fun s d ↦ d ∈ s.devices) fun s ↦ s.devices.Nodup where
  step {b b' s m trace r} hs hb h := by
    obtain ⟨s', h₁, rfl⟩ := Bus.runs_call hb h
    exact ⟨s', rfl, mem_devices_of_call hs h₁⟩
  refusal {s m d} hm hd := by
    cases m with
    | read device n =>
      obtain rfl := Option.some.inj hm
      exact ⟨_, rfl, expectOpen_bind_of_not_mem hd⟩
    | write device data =>
      obtain rfl := Option.some.inj hm
      exact ⟨_, rfl, expectOpen_bind_of_not_mem hd⟩
    | close device =>
      obtain rfl := Option.some.inj hm
      exact ⟨_, rfl, expectOpen_bind_of_not_mem hd⟩
    | _ => exact absurd hm nofun

end I2c

namespace Spi

variable {s s' : Core} {t : Trace interface} {d : DeviceHandle}

/-- A call that neither opens nor closes a device leaves the table as it is. -/
theorem devices_of_uses {c : BusAccess.Spi.Call} {r : Except Error c.Answer} (hc : c.role = .uses)
    (h : (table.call c s).Runs t (r, s')) : s'.devices = s.devices := by
  cases c with
  | openAt chipSelect => exact absurd hc nofun
  | close device => exact absurd hc nofun
  | transfer device tx rx =>
    obtain ⟨rfl, _⟩ := runs_transfer h
    rfl
  | setSpeed hz =>
    obtain ⟨_, _, _, rfl⟩ | ⟨_, rfl, _⟩ := runs_setSpeed h
    · rfl
    · rfl
  | setMode mode =>
    obtain ⟨rfl, _⟩ := runs_setMode h
    rfl

/-- A method whose call neither opens nor closes a device leaves the table as it is. -/
theorem devices_of_perform {m : BusAccess.Spi.Method} {b b' : Bus Core} {r : Except Error m.Answer}
    (hm : ∀ c, m.route = .ok c → c.role = .uses) (hb : b.core = some s)
    (h : (BusAccess.Spi.methods.perform table m b).Runs t (r, b')) :
    ∃ s', b'.core = some s' ∧ s'.devices = s.devices := by
  obtain ⟨c, _, s', hroute, h₁, rfl⟩ | ⟨_, rfl⟩ := (m.routes table).runs hb h
  · exact ⟨s', rfl, devices_of_uses (hm c hroute) h₁⟩
  · exact ⟨s, hb, rfl⟩

/-- The backend of SPI nodes refuses what is not in its table. -/
theorem guards : Guards .spi table (fun s d ↦ d ∈ s.devices) fun s ↦ Ascending s.devices where
  step {b b' s m trace r} hs hb h := by
    have other (hc : Kind.spi.closed? m = none) (hm : ∀ c, m.route = .ok c → c.role = .uses) :
        ∃ s', b'.core = some s' ∧ Ascending s'.devices ∧ ∀ d ∈ s'.devices,
          Kind.spi.opened? m r = some d ∨ d ∈ s.devices ∧ Kind.spi.closed? m ≠ some d := by
      obtain ⟨s', hb', hd⟩ := devices_of_perform hm hb h
      refine ⟨s', hb', hd ▸ hs, fun d hm ↦ .inr ⟨hd ▸ hm, ?_⟩⟩
      rw [hc]
      exact nofun
    cases m with
    | openAt chipSelect =>
      obtain ⟨s', h₁, rfl⟩ := Bus.runs_call hb h
      refine ⟨s', rfl, ?_⟩
      obtain ⟨_, _, rfl⟩ | ⟨_, _, _, _, _, rfl⟩ | ⟨fd, _, _, _, rfl, rfl⟩ := runs_openAt h₁
      · exact ⟨hs, fun d hd ↦ .inr ⟨hd, nofun⟩⟩
      · exact ⟨hs, fun d hd ↦ .inr ⟨hd, nofun⟩⟩
      · refine ⟨ascending_insertDevice hs, fun d hd ↦ ?_⟩
        obtain rfl | hd := mem_insertDevice.1 hd
        · exact .inl rfl
        · exact .inr ⟨hd, nofun⟩
    | close device =>
      obtain ⟨s', h₁, rfl⟩ := Bus.runs_call hb h
      refine ⟨s', rfl, ?_⟩
      obtain ⟨hnot, _, _, rfl⟩ | ⟨_, _, _, rfl⟩ := runs_close h₁
      · exact ⟨hs, fun d hd ↦ .inr ⟨hd, fun he ↦ hnot (Option.some.inj he ▸ hd)⟩⟩
      · refine ⟨hs.sublist List.erase_sublist, fun d hd ↦ ?_⟩
        obtain ⟨hne, hd⟩ := hs.nodup.mem_erase_iff.1 hd
        exact .inr ⟨hd, fun he ↦ hne (Option.some.inj he).symm⟩
    | transfer device tx rx =>
      refine other rfl fun c hc ↦ ?_
      rw [BusAccess.Spi.Method.eq_of_route_transfer hc]
      rfl
    | read device n => exact other rfl (by rintro _ ⟨⟩; rfl)
    | write device data => exact other rfl (by rintro _ ⟨⟩; rfl)
    | setSpeed hz => exact other rfl (by rintro _ ⟨⟩; rfl)
    | setMode mode => exact other rfl (by rintro _ ⟨⟩; rfl)
  refusal {s m d} hm hd := by
    cases m with
    | transfer device tx rx =>
      by_cases hlen : tx.length = rx
      · have hdevice : Kind.spi.device? (.transfer device tx rx) = some device := if_pos hlen
        obtain rfl := Option.some.inj (hdevice.symm.trans hm)
        exact ⟨.transfer device (some tx) (some rx), if_pos hlen, expectOpen_bind_of_not_mem hd⟩
      · have hnone : Kind.spi.device? (.transfer device tx rx) = none := if_neg hlen
        exact absurd (hnone.symm.trans hm) nofun
    | read device n =>
      obtain rfl := Option.some.inj hm
      exact ⟨_, rfl, expectOpen_bind_of_not_mem hd⟩
    | write device data =>
      obtain rfl := Option.some.inj hm
      exact ⟨_, rfl, expectOpen_bind_of_not_mem hd⟩
    | close device =>
      obtain rfl := Option.some.inj hm
      exact ⟨_, rfl, expectOpen_bind_of_not_mem hd⟩
    | _ => exact absurd hm nofun

end Spi

/-! ## Pins -/

namespace Gpio

variable {s s' : Core} {t : Trace interface} {d : DeviceHandle} {pin p : UInt32}

theorem named?_ne_none_iff : named? s d ≠ none ↔ ∃ p ∈ s.numbers, d.unsigned? = some p := by
  cases hd : d.unsigned? with
  | none =>
    rw [named?, hd]
    exact iff_of_false (fun h ↦ h rfl) nofun
  | some p =>
    rw [named?, hd, Option.bind_some, ne_eq, List.find?_eq_none]
    simp only [Core.numbers, List.mem_map, Option.some.injEq, exists_eq_right', beq_iff_eq,
      not_forall, not_not, exists_prop]

theorem mem_numbers_filter :
    p ∈ Core.numbers { s with pins := s.pins.filter fun q ↦ q.1 != pin } ↔
      p ∈ s.numbers ∧ p ≠ pin := by
  simp only [Core.numbers, List.mem_map, List.mem_filter, bne_iff_ne]
  constructor
  · rintro ⟨q, ⟨hq, hne⟩, rfl⟩
    exact ⟨⟨q, hq, rfl⟩, hne⟩
  · rintro ⟨⟨q, hq, rfl⟩, hne⟩
    exact ⟨q, ⟨hq, hne⟩, rfl⟩

theorem named?_of_call {c : BusAccess.Gpio.Call} {r : Except Error c.Answer}
    (h : (table.call c s).Runs t (r, s')) : ∀ d, named? s' d ≠ none →
      Kind.gpio.opened? c r = some d ∨ named? s d ≠ none ∧ Kind.gpio.closed? c ≠ some d := by
  cases c with
  | openPin pin mode =>
    obtain ⟨_, _, rfl, rfl⟩ | ⟨_, _, rfl, rfl⟩ | ⟨_, _, _, _, _, rfl, rfl⟩ |
      ⟨device, _, _, hdevice, _, _, rfl, rfl⟩ := runs_openPin h
    · exact fun d hd ↦ .inr ⟨hd, nofun⟩
    · exact fun d hd ↦ .inr ⟨hd, nofun⟩
    · exact fun d hd ↦ .inr ⟨hd, nofun⟩
    · intro d hd
      obtain ⟨p, hp, hu⟩ := named?_ne_none_iff.1 hd
      rw [numbers_append] at hp
      obtain hp | hp := List.mem_append.1 hp
      · exact .inr ⟨named?_ne_none_iff.2 ⟨p, hp, hu⟩, nofun⟩
      · obtain rfl := List.mem_singleton.1 hp
        exact .inl (hdevice.symm.trans (DeviceHandle.ofUnsigned?_eq_some_iff.2 hu))
  | read device =>
    obtain ⟨rfl, _⟩ := runs_read h
    exact fun d hd ↦ .inr ⟨hd, nofun⟩
  | write device value =>
    obtain ⟨rfl, _⟩ := runs_write h
    exact fun d hd ↦ .inr ⟨hd, nofun⟩
  | close device =>
    intro d hd
    obtain ⟨hnone, _, _, rfl⟩ | ⟨pin, mode, _, hpin, _, _, rfl⟩ := runs_close h
    · refine .inr ⟨hd, fun he ↦ ?_⟩
      obtain rfl := Option.some.inj he
      exact hd hnone
    · obtain ⟨p, hp, hu⟩ := named?_ne_none_iff.1 hd
      obtain ⟨hp, hne⟩ := mem_numbers_filter.1 hp
      refine .inr ⟨named?_ne_none_iff.2 ⟨p, hp, hu⟩, fun he ↦ ?_⟩
      obtain rfl := Option.some.inj he
      exact hne (Option.some.inj (hu.symm.trans (unsigned?_of_named? hpin).1))
  | setDriveStrength device drive =>
    obtain ⟨_, rfl, rfl⟩ := Action.runs_throw.1 h
    exact fun d hd ↦ .inr ⟨hd, nofun⟩

/-- The backend of pins refuses what it does not know. -/
theorem guards : Guards .gpio table (fun s d ↦ named? s d ≠ none) fun _ ↦ True where
  step {b b' s m trace r} _ hb h := by
    obtain ⟨s', h₁, rfl⟩ := Bus.runs_call hb h
    exact ⟨s', rfl, trivial, named?_of_call h₁⟩
  refusal {s m d} hm hd := by
    have hnone : named? s d = none := not_not.1 hd
    cases m with
    | read device =>
      obtain rfl := Option.some.inj hm
      exact ⟨_, rfl, pinOf_bind_of_none hnone⟩
    | write device value =>
      obtain rfl := Option.some.inj hm
      exact ⟨_, rfl, pinOf_bind_of_none hnone⟩
    | close device =>
      obtain rfl := Option.some.inj hm
      exact ⟨_, rfl, pinOf_bind_of_none hnone⟩
    | _ => exact absurd hm nofun

end Gpio

end Node

/-! ## All of them -/

/-- The backends that keep a table of what is open. -/
inductive Keeper where
  | daemon
  | node (p : Node.Port)
  | pins
  deriving DecidableEq, Repr

namespace Keeper

/-- The kind of bus. -/
def kind : Keeper → Kind
  | daemon => .i2c
  | node p => p.kind
  | pins => .gpio

/-- What the backend can ask for. -/
def interface : Keeper → Interface
  | daemon => Daemon.interface
  | node _ => Node.interface
  | pins => Node.interface

/-- What the backend keeps for a bus. -/
def Core : Keeper → Type
  | daemon => Daemon.Core
  | node p => p.Core
  | pins => Node.Gpio.Core

/-- What a bus is made from: where the partner is, and the parameters. -/
def Origin : Keeper → Type
  | daemon => Daemon.Source × I2c.Params
  | node p => Node.Roots × p.Params
  | pins => Node.Roots × Gpio.Params

/-- The operations of the backend. -/
def table : (K : Keeper) → Table K.kind.methods.operations K.interface K.Core
  | daemon => Daemon.table
  | node p => p.table
  | pins => Node.Gpio.table

/-- How the backend makes a bus. -/
def create : (K : Keeper) → K.Origin → Program K.interface (Except Error (Bus K.Core))
  | daemon, (source, params) => Daemon.create source params
  | node p, (roots, params) => p.create roots params
  | pins, (roots, params) => Node.Gpio.create roots params

/-- Each of them guards its devices, and knows none to begin with. -/
theorem guards (K : Keeper) : ∃ good Sound, Guards K.kind K.table good Sound ∧
    ∀ {origin : K.Origin} {made : Trace K.interface} {b : Bus K.Core},
      (K.create origin).Runs made (.ok b) → Guards.Standing K.kind good Sound [] b := by
  match K with
  | daemon =>
    refine ⟨_, _, Daemon.guards, fun h ↦ ?_⟩
    obtain ⟨_, _, link, busnum, _, _, rfl⟩ := Daemon.runs_create h
    rintro s ⟨⟩
    refine ⟨.nil, fun d hd ↦ ?_⟩
    obtain ⟨_, hg, _⟩ := Daemon.named?_ne_none_iff.1 hd
    exact absurd hg List.not_mem_nil
  | node .i2c =>
    refine ⟨_, _, Node.I2c.guards, fun h ↦ ?_⟩
    obtain ⟨path, rfl⟩ := Node.I2c.runs_create h
    rintro s ⟨⟩
    exact ⟨.nil, fun d hd ↦ absurd hd List.not_mem_nil⟩
  | node .spi =>
    refine ⟨_, _, Node.Spi.guards, fun h ↦ ?_⟩
    obtain ⟨busnum, rfl⟩ := Node.Spi.runs_create h
    rintro s ⟨⟩
    exact ⟨.nil, fun d hd ↦ absurd hd List.not_mem_nil⟩
  | pins =>
    refine ⟨_, _, Node.Gpio.guards, fun h ↦ ?_⟩
    obtain rfl := Node.Gpio.runs_create h
    rintro s ⟨⟩
    refine ⟨trivial, fun d hd ↦ ?_⟩
    obtain ⟨_, hp, _⟩ := Node.Gpio.named?_ne_none_iff.1 hd
    exact absurd hp List.not_mem_nil

end Keeper

/-- **The handle of a device that is not open reaches nothing.**  After any uses of a new bus, a
handle that no open has given out, or that was passed to a close since, is refused by every method
that is about a device: without a request or an event, and with the bus as it was.  It is refused as
an invalid handle, unless the bus is released and there is no backend to look it up. -/
theorem stray_handle_refused (K : Keeper) {origin : K.Origin} {made trace : Trace K.interface}
    {b₀ b : Bus K.Core} {us : List (Use K.kind.methods)} {ds : List (Deed K.kind.methods)}
    (hc : (K.create origin).Runs made (.ok b₀))
    (h : (Bus.acts K.table us b₀).Runs trace (ds, b)) {m : K.kind.methods.Method}
    {d : DeviceHandle} (hm : K.kind.device? m = some d) (hd : d ∉ K.kind.handles ds) :
    K.kind.methods.perform K.table m b =
      .done (.error (if b.core = none then .invalidObject else .invalidHandle), b) := by
  obtain ⟨_, _, hguards, hnew⟩ := K.guards
  exact hguards.refused (hnew hc) h hm hd

/-- Two devices are open, one of them is closed, and an empty transfer still names it. -/
theorem stray_handle_refused_closed :
    let origin : (Keeper.node .spi).Origin := ({}, ({} : Spi.Params))
    let made : Trace Node.interface := [.asked (.list "/dev") (some ["spidev0.0"]),
      .asked .reserve true, .reported (.debug "linuxdev spi bus created")]
    let core : Node.Spi.Core := { busnum := 0, directory := "/dev", speed := 1000000, mode := .mode0 }
    let trace : Trace Node.interface := [.asked (.openNode (Node.Spi.nodePath "/dev" 0 0)) (some 3),
      .asked (.setMode 3 0) true, .asked (.setMaxSpeed 3 1000000) true,
      .asked (.openNode (Node.Spi.nodePath "/dev" 0 1)) (some 4), .asked (.setMode 4 0) true,
      .asked (.setMaxSpeed 4 1000000) true, .asked (.close 3) ()]
    let us : List (Use Spi.methods) :=
      [.method (.openAt 0), .method (.openAt 1), .method (.close ⟨3⟩)]
    let ds : List (Deed Spi.methods) := [.method (.openAt 0) (.ok ⟨3⟩),
      .method (.openAt 1) (.ok ⟨4⟩), .method (.close ⟨3⟩) (.ok ())]
    let b : Bus Node.Spi.Core :=
      { backend := Node.name, core := some { core with devices := [⟨4⟩] }, openDevices := 1 }
    ((Keeper.node .spi).create origin).Runs made (.ok (.new Node.name core)) ∧
      (Bus.acts (M := Spi.methods) Node.Spi.table us (.new Node.name core)).Runs trace (ds, b) ∧
      Kind.spi.handles ds = [⟨4⟩] ∧
      Spi.transfer Node.Spi.table ⟨3⟩ [] 0 b = .done (.error .invalidHandle, b) := by
  intro origin made core trace us ds b
  have hc : ((Keeper.node .spi).create origin).Runs made (.ok (.new Node.name core)) :=
    @Node.Spi.create_runs {} {} 0 ["spidev0.0"] rfl (by decide)
  have h : (Bus.acts (M := Spi.methods) Node.Spi.table us (.new Node.name core)).Runs trace
      (ds, b) := .ask (.ask (.ask (.ask (.ask (.ask (.ask (.done _)))))))
  have hds : Kind.spi.handles ds = [⟨4⟩] := by decide
  have hd : (⟨3⟩ : DeviceHandle) ∉ Kind.spi.handles ds := by
    rw [hds]
    decide
  have hm : Kind.spi.device? (.transfer ⟨3⟩ [] 0) = some ⟨3⟩ := rfl
  exact ⟨hc, h, hds, stray_handle_refused (.node .spi) hc h hm hd⟩

/-- A bus that is released has no backend that could know a handle. -/
theorem stray_handle_after_release :
    ∃ trace ds, ∃ b : Bus Daemon.Core, (Bus.acts (M := I2c.methods) Daemon.table [.release]
        (.new Daemon.name { link := 0, busnum := 1 })).Runs trace (ds, b) ∧
      (⟨5⟩ : DeviceHandle) ∉ Kind.i2c.handles ds ∧
      Bus.call Daemon.table (.read ⟨5⟩ 1) b = .done (.error .invalidObject, b) :=
  ⟨[.asked (.stop 0) (), .reported (.debug "bus released")], [.release (.ok ())],
    { backend := Daemon.name, core := none }, .ask (.report (.done _)), List.not_mem_nil, rfl⟩

end BusAccess
