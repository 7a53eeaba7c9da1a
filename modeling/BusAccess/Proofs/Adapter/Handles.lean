import BusAccess.Proofs.Adapter.Exchange
import BusAccess.Proofs.Bus.Deeds
import BusAccess.Proofs.Everywhere

/-!
# Handles of an adapter

The backend has no table of open devices: a handle is an address as it is written on the wire, and
whether it is one shows in its bits.  So a handle that is no even number of eight bits is refused at
any time, with nothing asked of the adapter (`call_of_not_wire`), but an even one is taken for an
open device whether it is open or not.

`held` says which devices are open after some deeds, each as often as it was opened and not closed
since.  The bus counts a device down for every even number that is closed.  If it is one that is
open that is right, and if nothing is open there is nothing to count down; otherwise the count
becomes too small.  `Orderly` rules this out, and then the count is the number of open devices
(`count_eq_held`).
-/

set_option autoImplicit false

namespace BusAccess.Adapter

open Program (Trace)

variable {s : Core} {t : Trace interface}

/-! ## Handles that are none -/

/-- **A handle that is none** is refused with nothing asked of the adapter. -/
theorem call_of_not_wire {b : Bus Core} (hs : b.core = some s) {device : DeviceHandle}
    (hd : wireAddress? device = none) :
    (∀ n, Bus.call table (.read device n) b = .done (.error .invalidHandle, b)) ∧
      (∀ data, Bus.call table (.write device data) b = .done (.error .invalidHandle, b)) ∧
      Bus.call table (.close device) b = .done (.error .invalidHandle, b) := by
  refine ⟨fun n ↦ ?_, fun data ↦ ?_, ?_⟩
  · exact Bus.call_at_once hs (read_of_not_wire hd n) rfl
  · exact Bus.call_at_once hs (write_of_not_wire hd data) rfl
  · exact Bus.call_at_once hs (close_of_not_wire hd) rfl

/-! ## What is open -/

/-- The devices that are open after one more deed. -/
def heldAfter (held : List DeviceHandle) : Deed I2c.methods → List DeviceHandle
  | .method (.openAt _) (.ok device) => device :: held
  | .method (.close device) _ => held.erase device
  | .release _ => []
  | _ => held

/-- The devices that are open after some deeds, each as often as it was opened and not closed. -/
def held (ds : List (Deed I2c.methods)) : List DeviceHandle := ds.foldl heldAfter []

theorem held_concat (ds : List (Deed I2c.methods)) (d : Deed I2c.methods) :
    held (ds ++ [d]) = heldAfter (held ds) d := by
  rw [held, List.foldl_append]
  rfl

/-- Nothing is closed that could be open and is not, while something else is. -/
def Orderly (ds : List (Deed I2c.methods)) : Prop :=
  Everywhere (fun before d _ ↦ ∀ device r, d = .method (.close device) r →
    wireAddress? device ≠ none → device ∈ held before ∨ held before = []) ds

theorem Orderly.left {ds : List (Deed I2c.methods)} {d : Deed I2c.methods}
    (h : Orderly (ds ++ [d])) : Orderly ds := by
  intro before x after hx
  exact h before x (after ++ [d]) (by rw [hx, List.append_assoc, List.cons_append])

/-- What is known of a bus on an adapter after some deeds. -/
structure Tally (ds : List (Deed I2c.methods)) (b : Bus Core) : Prop where
  /-- A bus that is released has no open device, and counts none. -/
  gone : b.core = none → held ds = [] ∧ b.openDevices = 0
  /-- What was opened has an address on the wire. -/
  wire : ∀ device ∈ held ds, wireAddress? device ≠ none
  /-- The count never exceeds what is open. -/
  le : b.openDevices ≤ (held ds).length
  /-- If only open devices are closed, the count is what is open. -/
  eq : Orderly ds → b.openDevices = (held ds).length

theorem tally_new (clock : UInt32) : Tally [] (.new name { clock }) where
  gone := nofun
  wire := nofun
  le := Nat.le_refl 0
  eq _ := rfl

namespace Tally

variable {ds : List (Deed I2c.methods)} {d : Deed I2c.methods} {b b' : Bus Core}

/-- A deed that opens nothing and closes nothing. -/
theorem same (hb : Tally ds b) (hd : heldAfter (held ds) d = held ds) (hs : b'.core ≠ none)
    (hn : b'.openDevices = b.openDevices) : Tally (ds ++ [d]) b' := by
  refine ⟨fun h ↦ absurd h hs, ?_, ?_, fun ho ↦ ?_⟩
  · rw [held_concat, hd]
    exact hb.wire
  · rw [held_concat, hd, hn]
    exact hb.le
  · rw [held_concat, hd, hn]
    exact hb.eq ho.left

theorem after_gone (hb : Tally ds b) (hs : b.core = none) {e : Error}
    (hd : d = .release (.error e) ∨ ∃ m, d = .method m (.error e)) : Tally (ds ++ [d]) b := by
  obtain ⟨hh, hn⟩ := hb.gone hs
  have hd' : heldAfter (held ds) d = [] := by
    rw [hh]
    obtain rfl | ⟨m, rfl⟩ := hd
    · rfl
    · cases (m : I2c.Call) <;> rfl
  refine ⟨fun _ ↦ ⟨by rw [held_concat, hd'], hn⟩, ?_, ?_, fun _ ↦ ?_⟩
  · rw [held_concat, hd']
    exact nofun
  · rw [hn]
    exact Nat.zero_le _
  · rw [held_concat, hd', hn]
    rfl

theorem after_openAt (hb : Tally ds b) (hs : b.core = some s) {address : UInt16}
    {r : Except Error DeviceHandle} (h : (Bus.call table (.openAt address) b).Runs t (r, b')) :
    Tally (ds ++ [.method (.openAt address) r]) b' := by
  obtain ⟨s', h₁, rfl⟩ := Bus.runs_call hs h
  have h₂ : (openAt address s).Runs t (r, s') := h₁
  rw [openAt_eq] at h₂
  split at h₂
  case isTrue =>
    obtain ⟨_, h₃⟩ := Program.runs_done.1 h₂
    obtain ⟨rfl, _⟩ := Prod.mk.inj h₃
    exact hb.same rfl (Option.some_ne_none _) rfl
  case isFalse ha =>
    obtain ⟨_, h₃⟩ := Program.runs_done.1 h₂
    obtain ⟨rfl, _⟩ := Prod.mk.inj h₃
    refine ⟨nofun, ?_, ?_, fun ho ↦ ?_⟩
    · rw [held_concat]
      exact List.forall_mem_cons.2 ⟨wireAddress?_openAt ha, hb.wire⟩
    · rw [held_concat]
      exact Nat.succ_le_succ hb.le
    · rw [held_concat]
      exact congrArg Nat.succ (hb.eq ho.left)

theorem after_close (hb : Tally ds b) (hs : b.core = some s) {device : DeviceHandle}
    {r : Except Error Unit} (h : (Bus.call table (.close device) b).Runs t (r, b')) :
    Tally (ds ++ [.method (.close device) r]) b' := by
  obtain ⟨s', h₁, rfl⟩ := Bus.runs_call hs h
  have h₂ : (close device s).Runs t (r, s') := h₁
  by_cases hd : wireAddress? device = none
  · rw [close_of_not_wire hd] at h₂
    obtain ⟨_, h₃⟩ := Program.runs_done.1 h₂
    obtain ⟨rfl, _⟩ := Prod.mk.inj h₃
    refine hb.same ?_ (Option.some_ne_none _) rfl
    exact List.erase_of_not_mem fun hm ↦ hb.wire device hm hd
  · rw [close_of_wire hd] at h₂
    obtain ⟨_, h₃⟩ := Program.runs_done.1 h₂
    obtain ⟨rfl, _⟩ := Prod.mk.inj h₃
    refine ⟨nofun, ?_, ?_, fun ho ↦ ?_⟩
    · rw [held_concat]
      exact fun g hg ↦ hb.wire g (List.mem_of_mem_erase hg)
    · rw [held_concat]
      show b.openDevices - 1 ≤ ((held ds).erase device).length
      have hle := hb.le
      have herase := List.length_erase (a := device) (l := held ds)
      split at herase <;> omega
    · rw [held_concat]
      show b.openDevices - 1 = ((held ds).erase device).length
      rw [hb.eq ho.left]
      obtain hm | hnil := ho ds _ [] rfl device _ rfl hd
      · rw [List.length_erase_of_mem hm]
      · rw [hnil]
        rfl

/-- Any other call opens nothing and closes nothing. -/
theorem after_other (hb : Tally ds b) (hs : b.core = some s) {c : I2c.Call}
    {r : Except Error c.Answer} (hc : c.role = .uses)
    (hd : heldAfter (held ds) (.method c r) = held ds)
    (h : (Bus.call table c b).Runs t (r, b')) : Tally (ds ++ [.method c r]) b' := by
  obtain ⟨s', _, rfl⟩ := Bus.runs_call hs h
  refine hb.same hd (Option.some_ne_none _) ?_
  show c.role.count r b.openDevices = b.openDevices
  rw [hc]
  rfl

/-- **Every deed keeps the tally.** -/
theorem after_act (hb : Tally ds b) {u : Use I2c.methods}
    (h : (Bus.act table u b).Runs t (d, b')) : Tally (ds ++ [d]) b' := by
  cases hs : b.core with
  | none =>
    obtain ⟨rfl, e, hd⟩ := Bus.runs_act_gone hs h
    exact hb.after_gone hs hd
  | some s =>
    cases u with
    | release =>
      obtain ⟨r, rfl, h₁⟩ := Bus.runs_act_release h
      obtain ⟨_, _, _, _, rfl⟩ := Bus.runs_release hs h₁
      have hd : held (ds ++ [.release r]) = [] := by rw [held_concat]; rfl
      refine ⟨fun _ ↦ ⟨hd, rfl⟩, ?_, Nat.zero_le _, fun _ ↦ ?_⟩
      · rw [hd]
        exact nofun
      · rw [hd]
        rfl
    | method c =>
      obtain ⟨r, rfl, h₁⟩ := Bus.runs_act_method h
      cases (c : I2c.Call) with
      | openAt address => exact hb.after_openAt hs h₁
      | close device => exact hb.after_close hs h₁
      | read device n => exact hb.after_other hs rfl rfl h₁
      | write device data => exact hb.after_other hs rfl rfl h₁
      | setFreq hz => exact hb.after_other hs rfl rfl h₁
      | setClockStretch enable => exact hb.after_other hs rfl rfl h₁

end Tally

/-- **The count is the number of open devices** as long as what is closed is open.  After any uses
of a new bus, a handle that is no even number of eight bits is not open, and reading from it,
writing to it and closing it are refused with nothing asked of the adapter and the bus as it was.
The count is never larger than the number of devices that were opened and not closed, and it is this
number unless an even number was closed that was not open, while something else was. -/
theorem count_eq_held {clock : UInt32} {us : List (Use I2c.methods)} {trace : Trace interface}
    {ds : List (Deed I2c.methods)} {b : Bus Core}
    (h : (Bus.acts (M := I2c.methods) table us (.new name { clock })).Runs trace (ds, b)) :
    (∀ device, wireAddress? device = none → device ∉ held ds ∧
      (b.core ≠ none →
        (∀ n, Bus.call table (.read device n) b = .done (.error .invalidHandle, b)) ∧
        (∀ data, Bus.call table (.write device data) b = .done (.error .invalidHandle, b)) ∧
        Bus.call table (.close device) b = .done (.error .invalidHandle, b))) ∧
      b.openDevices ≤ (held ds).length ∧
      (Orderly ds →
        b.openDevices = (held ds).length ∧ (b.state = .unopened → held ds = [])) := by
  have hb : Tally ([] ++ ds) b :=
    Bus.acts_induction (P := Tally) (fun hb h ↦ hb.after_act h) (tally_new clock) h
  rw [List.nil_append] at hb
  refine ⟨fun device hd ↦ ⟨fun hm ↦ hb.wire device hm hd, fun hc ↦ ?_⟩, hb.le, fun ho ↦ ?_⟩
  · obtain ⟨s, hs⟩ := Option.ne_none_iff_exists'.1 hc
    exact call_of_not_wire hs hd
  · refine ⟨hb.eq ho, fun hu ↦ ?_⟩
    cases hs : b.core with
    | none =>
      rw [Bus.state, hs] at hu
      have hne : BusState.released = BusState.unopened := hu
      exact absurd hne (by decide)
    | some s =>
      have hn := (Bus.state_eq_unopened_iff hs).1 hu
      rw [hb.eq ho] at hn
      exact List.length_eq_zero_iff.1 hn

/-- A device is opened twice and closed once, and an odd number is closed. -/
theorem count_eq_held_odd :
    let ds : List (Deed I2c.methods) := [.method (.openAt 0x10) (.ok ⟨0x20⟩),
      .method (.openAt 0x10) (.ok ⟨0x20⟩), .method (.close ⟨0x20⟩) (.ok ()),
      .method (.close ⟨0x21⟩) (.error .invalidHandle)]
    let b : Bus Core := { backend := name, core := some ⟨400000⟩, openDevices := 1 }
    (Bus.acts (M := I2c.methods) table [.method (.openAt 0x10), .method (.openAt 0x10),
        .method (.close ⟨0x20⟩), .method (.close ⟨0x21⟩)]
        (.new name { clock := 400000 })).Runs [] (ds, b) ∧
      Orderly ds ∧ b.openDevices = (held ds).length ∧
      Bus.call table (.close ⟨0x21⟩) b = .done (.error .invalidHandle, b) := by
  intro ds b
  have h : (Bus.acts (M := I2c.methods) table [.method (.openAt 0x10), .method (.openAt 0x10),
      .method (.close ⟨0x20⟩), .method (.close ⟨0x21⟩)]
      (.new name { clock := 400000 })).Runs [] (ds, b) := .done _
  have ho : Orderly ds := by
    simp only [Orderly, ds, everywhere_cons]
    refine ⟨nofun, nofun, ?_, ?_, everywhere_nil⟩
    · rintro device r ⟨⟩ _
      exact .inl (by decide)
    · rintro device r ⟨⟩ hw
      exact absurd (by decide) hw
  obtain ⟨hw, _, hc⟩ := count_eq_held h
  exact ⟨h, ho, (hc ho).1, ((hw ⟨0x21⟩ (by decide)).2 nofun).2.2⟩

/-- One device is opened, and another is closed that never was. -/
theorem count_after_stray_close :
    ∃ ds, ∃ b : Bus Core,
      (Bus.acts (M := I2c.methods) table [.method (.openAt 0x10), .method (.close ⟨0x40⟩)]
        (.new name { clock := 400000 })).Runs [] (ds, b) ∧
      ds = [.method (.openAt 0x10) (.ok ⟨0x20⟩), .method (.close ⟨0x40⟩) (.ok ())] ∧
      held ds = [⟨0x20⟩] ∧ b.openDevices = 0 ∧ b.state = .unopened :=
  ⟨_, _, .done _, rfl, by decide, rfl, rfl⟩

end BusAccess.Adapter
