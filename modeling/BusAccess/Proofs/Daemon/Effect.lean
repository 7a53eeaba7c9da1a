import BusAccess.Daemon.I2c
import BusAccess.Proofs.Ascending
import BusAccess.Proofs.Bus.Invariant

/-!
# What a call does to a daemon and to the table

`Effect s t f s'` lists everything that a call to the backend can come to: from the table of `s` it
goes through the steps of `t`, changes the count of open devices by `f`, and leaves the table of
`s'`.  There are five ways.  Nothing happens (`idle`); one request is made that no device number
depends on (`passed`); the daemon hands out a number, which goes into the table (`opened`) or, if no
device handle can name it, back to the daemon at once (`refused`); or a number leaves the table and
then goes back to the daemon, whatever the daemon says to it (`closed`).

`effect_of_call` is the only place where the operations are opened.  What is to be known of the
backend beyond that is how it disconnects (`runs_release`): it gives back every number of the table
in the order in which they stand there, and stops.
-/

set_option autoImplicit false

namespace BusAccess.Daemon

open Log (Event)
open Program (Trace Step calls)
open BusAccess.Action

variable {s s' : Core} {t : Trace interface}

/-! ## The table -/

theorem insertHandle_eq (h : UInt32) (l : List UInt32) :
    insertHandle h l = insertAscending (· < ·) h l := by
  induction l with
  | nil => rfl
  | cons x l ih => rw [insertHandle, insertAscending, ih]

theorem mem_insertHandle {g h : UInt32} {l : List UInt32} :
    g ∈ insertHandle h l ↔ g = h ∨ g ∈ l := by
  rw [insertHandle_eq, mem_insertAscending]

theorem pairwise_insertHandle {h : UInt32} {l : List UInt32} (hl : l.Pairwise (· < ·)) :
    (insertHandle h l).Pairwise (· < ·) := by
  rw [insertHandle_eq]
  exact pairwise_insertAscending UInt32.lt_trans
    (fun hn hne ↦ UInt32.lt_of_le_of_ne (UInt32.not_lt.1 hn) (Ne.symm hne)) hl

theorem insertHandle_perm {h : UInt32} {l : List UInt32} (hh : h ∉ l) :
    (insertHandle h l).Perm (h :: l) := by
  rw [insertHandle_eq]
  exact insertAscending_perm hh

/-! ## Runs of the operations -/

/-- The open device that a handle names, if there is one. -/
def named? (s : Core) (device : DeviceHandle) : Option UInt32 :=
  device.unsigned?.filter fun h ↦ s.handles.contains h

theorem mem_of_named? {device : DeviceHandle} {h : UInt32} (hd : named? s device = some h) :
    h ∈ s.handles := by
  obtain ⟨_, hc⟩ := Option.filter_eq_some_iff.1 hd
  exact List.contains_iff_mem.1 hc

theorem runs_handleOf_bind {β : Type} {device : DeviceHandle} {f : UInt32 → Action interface Core β}
    {r : Except Error β} :
    ((handleOf device >>= f) s).Runs t (r, s') ↔
      (∃ h, named? s device = some h ∧ (f h s).Runs t (r, s')) ∨
        named? s device = none ∧ t = [] ∧ r = .error .invalidHandle ∧ s' = s :=
  runs_demand_bind

/-- A handle that names no open device is refused at once. -/
theorem handleOf_bind_of_none {β : Type} {device : DeviceHandle}
    {f : UInt32 → Action interface Core β} (hd : named? s device = none) :
    (handleOf device >>= f) s = .done (.error .invalidHandle, s) := by
  show (Action.demand (named? s device) .invalidHandle >>= f) s = _
  rw [hd]
  rfl

theorem runs_closeQuietly {link : Link} {h : UInt32} {m : String} {r : Except Error Unit}
    (hr : (closeQuietly link h m s).Runs t (r, s')) :
    r = .ok () ∧ s' = s ∧ ∃ reply, calls t = [.asked (.closeDevice link h) reply] := by
  rw [closeQuietly] at hr
  obtain ⟨reply, u, rfl, h₁⟩ := runs_ask_bind.1 hr
  cases reply with
  | ok _ =>
    obtain ⟨rfl, rfl, rfl⟩ := runs_pure.1 h₁
    exact ⟨rfl, rfl, _, rfl⟩
  | error e =>
    obtain ⟨rfl, rfl, rfl⟩ := runs_report.1 h₁
    exact ⟨rfl, rfl, _, rfl⟩

/-- **Opening a device** fails with the daemon, is undone because no handle can name the number, or
puts the number into the table. -/
theorem runs_openAt {address : UInt16} {r : Except Error DeviceHandle}
    (h : (openAt address s).Runs t (r, s')) :
    (∃ e, calls t = [.asked (.openDevice s.link s.busnum address 0) (.error e)] ∧
        r = .error e ∧ s' = s) ∨
      (∃ g reply, DeviceHandle.ofUnsigned? g = none ∧
        calls t = [.asked (.openDevice s.link s.busnum address 0) (.ok g),
          .asked (.closeDevice s.link g) reply] ∧ r = .error .backendFailure ∧ s' = s) ∨
      ∃ g device, DeviceHandle.ofUnsigned? g = some device ∧
        calls t = [.asked (.openDevice s.link s.busnum address 0) (.ok g)] ∧ r = .ok device ∧
        s' = { s with handles := insertHandle g s.handles } := by
  rw [openAt] at h
  obtain ⟨reply, u, rfl, h₁⟩ := runs_ask_bind.1 (runs_get_bind.1 h)
  obtain ⟨g, rfl, h₂⟩ | ⟨e, rfl, rfl, rfl, rfl⟩ := runs_ofExcept_bind.1 h₁
  · cases hg : DeviceHandle.ofUnsigned? g with
    | none =>
      rw [hg] at h₂
      obtain ⟨v, rfl, h₃⟩ := runs_report_bind.1 h₂
      obtain ⟨w, _, s₁, w', h₄, h₅, rfl⟩ | ⟨e, h₄, _⟩ := runs_bind.1 h₃
      · obtain ⟨_, rfl, reply, hw⟩ := runs_closeQuietly h₄
        obtain ⟨rfl, rfl, rfl⟩ := runs_throw.1 h₅
        refine .inr (.inl ⟨g, reply, hg, ?_, rfl, rfl⟩)
        rw [Program.calls_asked, Program.calls_reported, List.append_nil, hw]
      · exact absurd (runs_closeQuietly h₄).1 nofun
    | some device =>
      rw [hg] at h₂
      have h₃ := runs_set_bind.1 h₂
      obtain ⟨rfl, rfl, rfl⟩ := runs_pure.1 h₃
      exact .inr (.inr ⟨g, device, hg, rfl, rfl, rfl⟩)
  · exact .inl ⟨e, rfl, rfl, rfl⟩

theorem runs_read {device : DeviceHandle} {n : Nat} {r : Except Error Received}
    (h : (read device n s).Runs t (r, s')) :
    s' = s ∧ (t = [] ∧ r = .error .invalidHandle ∨
      ∃ g, g ∈ s.handles ∧ t = [.asked (.readDevice s.link g n) r]) := by
  rw [read] at h
  obtain ⟨g, hg, h₁⟩ | ⟨_, rfl, rfl, rfl⟩ := runs_handleOf_bind.1 h
  · obtain ⟨reply, u, rfl, h₂⟩ := runs_ask_bind.1 (runs_get_bind.1 h₁)
    obtain ⟨rfl, rfl, rfl⟩ := runs_ofExcept.1 h₂
    exact ⟨rfl, .inr ⟨g, mem_of_named? hg, rfl⟩⟩
  · exact ⟨rfl, .inl ⟨rfl, rfl⟩⟩

theorem runs_write {device : DeviceHandle} {data : Bytes} {r : Except Error Nat}
    (h : (write device data s).Runs t (r, s')) :
    s' = s ∧ (t = [] ∧ r = .error .invalidHandle ∨
      ∃ g reply, g ∈ s.handles ∧ t = [.asked (.writeDevice s.link g data) reply]) := by
  rw [write] at h
  obtain ⟨g, hg, h₁⟩ | ⟨_, rfl, rfl, rfl⟩ := runs_handleOf_bind.1 h
  · obtain ⟨reply, u, rfl, h₂⟩ := runs_ask_bind.1 (runs_get_bind.1 h₁)
    obtain ⟨_, rfl, h₃⟩ | ⟨e, rfl, rfl, rfl, rfl⟩ := runs_ofExcept_bind.1 h₂
    · obtain ⟨rfl, rfl, rfl⟩ := runs_pure.1 h₃
      exact ⟨rfl, .inr ⟨g, _, mem_of_named? hg, rfl⟩⟩
    · exact ⟨rfl, .inr ⟨g, _, mem_of_named? hg, rfl⟩⟩
  · exact ⟨rfl, .inl ⟨rfl, rfl⟩⟩

theorem runs_close {device : DeviceHandle} {r : Except Error Unit}
    (h : (close device s).Runs t (r, s')) :
    (named? s device = none ∧ t = [] ∧ r = .error .invalidHandle ∧ s' = s) ∨
      ∃ g, named? s device = some g ∧ t = [.asked (.closeDevice s.link g) r] ∧
        s' = { s with handles := s.handles.erase g } := by
  rw [close] at h
  obtain ⟨g, hg, h₁⟩ | ⟨hd, rfl, rfl, rfl⟩ := runs_handleOf_bind.1 h
  · have h₂ := runs_get_bind.1 h₁
    have h₃ := runs_set_bind.1 h₂
    obtain ⟨reply, u, rfl, h₄⟩ := runs_ask_bind.1 h₃
    obtain ⟨rfl, rfl, rfl⟩ := runs_ofExcept.1 h₄
    exact .inr ⟨g, hg, rfl, rfl⟩
  · exact .inl ⟨hd, rfl, rfl, rfl⟩

theorem runs_forM_closeQuietly {link : Link} {m : String} {l : List UInt32} {r : Except Error PUnit}
    (h : ((l.forM fun g ↦ closeQuietly link g m) s).Runs t (r, s')) :
    r = .ok () ∧ s' = s ∧ Program.requests t = l.map (.closeDevice link) := by
  induction l generalizing t with
  | nil =>
    obtain ⟨rfl, rfl, rfl⟩ := runs_pure.1 h
    exact ⟨rfl, rfl, rfl⟩
  | cons g l ih =>
    obtain ⟨t₁, _, s₁, t₂, h₁, h₂, rfl⟩ | ⟨e, h₁, _⟩ := runs_bind.1 h
    · obtain ⟨_, rfl, reply, ht⟩ := runs_closeQuietly h₁
      obtain ⟨hr, hs, ht₂⟩ := ih h₂
      refine ⟨hr, hs, ?_⟩
      rw [Program.requests_append, ht₂, ← Program.requests_calls, ht]
      rfl
    · exact absurd (runs_closeQuietly h₁).1 nofun

/-- **Disconnecting** gives back what is in the table, in its order, and stops. -/
theorem runs_release {r : Except Error Unit} (h : (release s).Runs t (r, s')) :
    r = .ok () ∧ Program.requests t = s.handles.map (.closeDevice s.link) ++ [.stop s.link] := by
  rw [release] at h
  have h₁ := runs_get_bind.1 h
  have h₂ := runs_set_bind.1 h₁
  obtain ⟨t₁, _, s₁, t₂, h₃, h₄, rfl⟩ | ⟨e, h₃, _⟩ := runs_bind.1 h₂
  · obtain ⟨_, rfl, ht⟩ := runs_forM_closeQuietly h₃
    obtain ⟨a, rfl, rfl, rfl⟩ := runs_ask.1 h₄
    refine ⟨rfl, ?_⟩
    rw [Program.requests_append, ht]
    rfl
  · exact absurd (runs_forM_closeQuietly h₃).1 nofun

/-! ## Effects -/

/-- Whether a step is a request on a connection that hands out no number and takes none back. -/
def Passive (link : Link) : Step interface → Prop
  | .asked (.openDevice l _ _ _) (.error _) => l = link
  | .asked (.readDevice l _ _) _ => l = link
  | .asked (.writeDevice l _ _) _ => l = link
  | _ => False

/-- What a call can come to: the requests, the change of the count, and what is kept. -/
inductive Effect (s : Core) : Trace interface → (Nat → Nat) → Core → Prop
  | idle : Effect s [] id s
  | passed {step : Step interface} (h : Passive s.link step) : Effect s [step] id s
  | opened {address : UInt16} {g : UInt32} (hg : (DeviceHandle.ofUnsigned? g).isSome) :
      Effect s [.asked (.openDevice s.link s.busnum address 0) (.ok g)] (· + 1)
        { s with handles := insertHandle g s.handles }
  | refused {address : UInt16} {g : UInt32} {reply : Except Error Unit}
      (hg : DeviceHandle.ofUnsigned? g = none) :
      Effect s [.asked (.openDevice s.link s.busnum address 0) (.ok g),
        .asked (.closeDevice s.link g) reply] id s
  | closed {g : UInt32} {reply : Except Error Unit} (hg : g ∈ s.handles) :
      Effect s [.asked (.closeDevice s.link g) reply] (Role.closes.count reply)
        { s with handles := s.handles.erase g }

/-- **Every call has one of these effects.** -/
theorem effect_of_call {c : I2c.Call} {r : Except Error c.Answer}
    (h : (table.call c s).Runs t (r, s')) : Effect s (calls t) (c.role.count r) s' := by
  cases c with
  | openAt address =>
    obtain ⟨e, ht, rfl, rfl⟩ | ⟨g, reply, hg, ht, rfl, rfl⟩ | ⟨g, device, hg, ht, rfl, rfl⟩ :=
      runs_openAt h
    · rw [ht]
      exact .passed rfl
    · rw [ht]
      exact .refused hg
    · rw [ht]
      exact .opened (Option.isSome_iff_exists.2 ⟨device, hg⟩)
  | read device n =>
    obtain ⟨rfl, ⟨rfl, rfl⟩ | ⟨g, _, rfl⟩⟩ := runs_read h
    · exact .idle
    · exact .passed rfl
  | write device data =>
    obtain ⟨rfl, ⟨rfl, rfl⟩ | ⟨g, reply, _, rfl⟩⟩ := runs_write h
    · exact .idle
    · exact .passed rfl
  | close device =>
    obtain ⟨_, rfl, rfl, rfl⟩ | ⟨g, hg, rfl, rfl⟩ := runs_close h
    · exact .idle
    · exact .closed (mem_of_named? hg)
  | setFreq hz =>
    obtain ⟨rfl, rfl, rfl⟩ := runs_throw.1 h
    exact .idle
  | setClockStretch enable =>
    obtain ⟨rfl, rfl, rfl⟩ := runs_throw.1 h
    exact .idle

end BusAccess.Daemon
