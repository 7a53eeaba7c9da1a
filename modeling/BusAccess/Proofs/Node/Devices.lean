import BusAccess.Node.I2c
import BusAccess.Node.Spi
import BusAccess.Proofs.Action
import BusAccess.Proofs.Ascending

/-!
# What is done with device nodes

The operations of the two backends that work through device nodes, line by line: for each of them
the requests that it makes, what it comes out with, and the state that it leaves.  The two are alike
in what they do to descriptors.  A device is opened in three steps, opening the node, setting up the
descriptor and putting it into the table, and if it cannot be set up the descriptor is closed again;
closing a device takes it from the table first.

Setting up an SPI device takes two control requests (`runs_configure`), and changing the speed or
the mode of a bus sets up all its devices anew, in any order, until one refuses
(`runs_forM_configure`).
-/

set_option autoImplicit false

namespace BusAccess.Node

open Log (Event)
open Program (Trace requests calls requests_append requests_reported requests_nil calls_append)
open BusAccess.Action

/-! ## Tables of devices -/

section Tables

variable {σ α β : Type} {s s' : σ} {t : Trace interface} {device : DeviceHandle}

theorem runs_walk_bind {l : List α} {f : List α → Action interface σ β} {r : Except Error β} :
    ((walk l >>= f) s).Runs t (r, s') ↔ ∃ order u, t = .asked (.order l.length) order :: u ∧
      (f (Order.arrange l order) s).Runs u (r, s') :=
  Program.runs_ask

/-- Devices are closed one after another, whatever they are. -/
theorem runs_forM_close {l : List DeviceHandle} {r : Except Error PUnit}
    (h : ((l.forM fun d ↦ ask (.close d.raw)) s).Runs t (r, s')) :
    r = .ok () ∧ s' = s ∧ t = l.map fun d ↦ .asked (.close d.raw) () := by
  induction l generalizing t with
  | nil =>
    obtain ⟨rfl, rfl, rfl⟩ := runs_pure.1 h
    exact ⟨rfl, rfl, rfl⟩
  | cons d l ih =>
    obtain ⟨reply, u, rfl, h₁⟩ := runs_ask_bind.1 h
    obtain ⟨hr, hs, rfl⟩ := ih h₁
    exact ⟨hr, hs, rfl⟩

variable (devices : σ → List DeviceHandle)

/-- Looking a device up in a table goes on if it is there. -/
theorem runs_expect_bind {f : Unit → Action interface σ β} {r : Except Error β} :
    (((do
        let s ← get
        if (devices s).contains device then return () else throw .invalidHandle :
        Action interface σ Unit) >>= f) s).Runs t (r, s') ↔
      device ∈ devices s ∧ (f () s).Runs t (r, s') ∨
        device ∉ devices s ∧ t = [] ∧ r = .error .invalidHandle ∧ s' = s := by
  refine (runs_guard_bind (p := fun s ↦ (devices s).contains device)).trans ?_
  rw [List.contains_iff_mem, ← Bool.not_eq_true, List.contains_iff_mem]

/-- A device that is not in the table is refused at once. -/
theorem expect_bind_of_not_mem {f : Unit → Action interface σ β} (hd : device ∉ devices s) :
    ((do
        let s ← get
        if (devices s).contains device then return () else throw .invalidHandle :
        Action interface σ Unit) >>= f) s = .done (.error .invalidHandle, s) := by
  show ((if (devices s).contains device = true then pure () else throw .invalidHandle :
    Action interface σ Unit) >>= f) s = _
  rw [if_neg (mt List.contains_iff_mem.1 hd)]
  rfl

/-- A table is put aside and what was in it is closed, in any order. -/
theorem runs_drain {cleared : σ → σ} {r : Except Error Unit}
    (h : ((do
        let s ← get
        set (cleared s)
        let order ← walk (devices s)
        order.forM fun d ↦ ask (.close d.raw) : Action interface σ Unit) s).Runs t (r, s')) :
    ∃ order, r = .ok () ∧ s' = cleared s ∧
      t = .asked (.order (devices s).length) order ::
        (Order.arrange (devices s) order).map fun d ↦ .asked (.close d.raw) () := by
  have h₁ := runs_get_bind.1 h
  have h₂ := runs_set_bind.1 h₁
  obtain ⟨order, u, rfl, h₃⟩ := runs_walk_bind.1 h₂
  obtain ⟨rfl, rfl, rfl⟩ := runs_forM_close h₃
  exact ⟨order, rfl, rfl, rfl⟩

/-- All that is asked for when a table is put aside is an order, and that devices are closed. -/
theorem requests_drain {n : Nat} {order : Order n} {l : List DeviceHandle} :
    requests (.asked (.order n) order :: l.map fun d ↦ .asked (.close d.raw) () : Trace interface) =
      .order n :: l.map fun d ↦ .close d.raw := by
  rw [Program.requests_asked, List.cons_inj_right]
  induction l with
  | nil => rfl
  | cons d l ih => rw [List.map_cons, Program.requests_asked, ih, List.map_cons]

end Tables

/-! ## I2C -/

namespace I2c

variable {s s' : Core} {t : Trace interface}

theorem runs_expectOpen_bind {β : Type} {device : DeviceHandle} {f : Unit → Action interface Core β}
    {r : Except Error β} :
    ((expectOpen device >>= f) s).Runs t (r, s') ↔
      device ∈ s.devices ∧ (f () s).Runs t (r, s') ∨
        device ∉ s.devices ∧ t = [] ∧ r = .error .invalidHandle ∧ s' = s :=
  runs_expect_bind Core.devices

/-- A handle that is not in the table is refused at once. -/
theorem expectOpen_bind_of_not_mem {β : Type} {device : DeviceHandle}
    {f : Unit → Action interface Core β} (hd : device ∉ s.devices) :
    (expectOpen device >>= f) s = .done (.error .invalidHandle, s) :=
  expect_bind_of_not_mem Core.devices hd

/-- **Opening a device** is refused for its address, fails with the node, is undone because the
descriptor does not take the address, or puts the descriptor into the table. -/
theorem runs_openAt {address : UInt16} {r : Except Error DeviceHandle}
    (h : (openAt address s).Runs t (r, s')) :
    t = [] ∧ r = .error .invalidArgument ∧ s' = s ∨
      (t = [.asked (.openNode s.path) none, .reported (.error "can't open i2c device")] ∧
        r = .error .noDevice ∧ s' = s) ∨
      (∃ fd, t = [.asked (.openNode s.path) (some fd), .asked (.setSlave fd address) false,
          .reported (.error "ioctl I2C_SLAVE failed"), .asked (.close fd) ()] ∧
        r = .error .ioError ∧ s' = s) ∨
      ∃ fd, t = [.asked (.openNode s.path) (some fd), .asked (.setSlave fd address) true] ∧
        r = .ok ⟨fd⟩ ∧ s' = { s with devices := s.devices.insert ⟨fd⟩ } := by
  rw [openAt] at h
  split at h
  case isTrue =>
    exact .inl (runs_throw_bind.1 h)
  case isFalse =>
    obtain ⟨node, u, rfl, h₁⟩ := runs_ask_bind.1 (runs_get_bind.1 h)
    cases node with
    | none =>
      obtain ⟨v, rfl, h₂⟩ := runs_report_bind.1 h₁
      obtain ⟨rfl, rfl, rfl⟩ := runs_throw.1 h₂
      exact .inr (.inl ⟨rfl, rfl, rfl⟩)
    | some fd =>
      obtain ⟨taken, v, rfl, h₂⟩ := runs_ask_bind.1 h₁
      cases taken with
      | true =>
        obtain ⟨rfl, rfl, rfl⟩ := Action.runs_pure.1 h₂
        exact .inr (.inr (.inr ⟨fd, rfl, rfl, rfl⟩))
      | false =>
        obtain ⟨w, rfl, h₃⟩ := runs_report_bind.1 h₂
        obtain ⟨reply, x, rfl, h₄⟩ := runs_ask_bind.1 h₃
        obtain ⟨rfl, rfl, rfl⟩ := runs_throw.1 h₄
        exact .inr (.inr (.inl ⟨fd, rfl, rfl, rfl⟩))

theorem runs_read {device : DeviceHandle} {n : Nat} {r : Except Error Received}
    (h : (read device n s).Runs t (r, s')) :
    s' = s ∧ (device ∉ s.devices ∧ t = [] ∧ r = .error .invalidHandle ∨
      ∃ reply, device ∈ s.devices ∧ calls t = [.asked (.read device.raw n) reply]) := by
  rw [read] at h
  obtain ⟨hd, h₁⟩ | ⟨hd, rfl, rfl, rfl⟩ := runs_expectOpen_bind.1 h
  · obtain ⟨reply, u, rfl, h₂⟩ := runs_ask_bind.1 h₁
    cases reply with
    | some received =>
      obtain ⟨rfl, rfl, rfl⟩ := runs_pure.1 h₂
      exact ⟨rfl, .inr ⟨_, hd, rfl⟩⟩
    | none =>
      obtain ⟨v, rfl, h₃⟩ := runs_report_bind.1 h₂
      obtain ⟨rfl, rfl, rfl⟩ := runs_throw.1 h₃
      exact ⟨rfl, .inr ⟨_, hd, rfl⟩⟩
  · exact ⟨rfl, .inl ⟨hd, rfl, rfl⟩⟩

theorem runs_write {device : DeviceHandle} {data : Bytes} {r : Except Error Nat}
    (h : (write device data s).Runs t (r, s')) :
    s' = s ∧ (device ∉ s.devices ∧ t = [] ∧ r = .error .invalidHandle ∨
      ∃ reply, device ∈ s.devices ∧ calls t = [.asked (.write device.raw data) reply]) := by
  rw [write] at h
  obtain ⟨hd, h₁⟩ | ⟨hd, rfl, rfl, rfl⟩ := runs_expectOpen_bind.1 h
  · obtain ⟨reply, u, rfl, h₂⟩ := runs_ask_bind.1 h₁
    cases reply with
    | some count =>
      obtain ⟨rfl, rfl, rfl⟩ := runs_pure.1 h₂
      exact ⟨rfl, .inr ⟨_, hd, rfl⟩⟩
    | none =>
      obtain ⟨v, rfl, h₃⟩ := runs_report_bind.1 h₂
      obtain ⟨rfl, rfl, rfl⟩ := runs_throw.1 h₃
      exact ⟨rfl, .inr ⟨_, hd, rfl⟩⟩
  · exact ⟨rfl, .inl ⟨hd, rfl, rfl⟩⟩

theorem runs_close {device : DeviceHandle} {r : Except Error Unit}
    (h : (close device s).Runs t (r, s')) :
    device ∉ s.devices ∧ t = [] ∧ r = .error .invalidHandle ∧ s' = s ∨
      device ∈ s.devices ∧ t = [.asked (.close device.raw) ()] ∧ r = .ok () ∧
        s' = { s with devices := s.devices.erase device } := by
  rw [close] at h
  obtain ⟨hd, h₁⟩ | ⟨hd, rfl, rfl, rfl⟩ := runs_expectOpen_bind.1 h
  · have h₂ := runs_modify_bind.1 h₁
    obtain ⟨reply, rfl, rfl, rfl⟩ := runs_ask.1 h₂
    exact .inr ⟨hd, rfl, rfl, rfl⟩
  · exact .inl ⟨hd, rfl, rfl, rfl⟩

theorem runs_release {r : Except Error Unit} (h : (release s).Runs t (r, s')) :
    ∃ order, r = .ok () ∧ s' = { s with devices := [] } ∧
      t = .asked (.order s.devices.length) order ::
        (Order.arrange s.devices order).map fun d ↦ .asked (.close d.raw) () :=
  runs_drain Core.devices h

end I2c

/-! ## SPI -/

namespace Spi

variable {s s' : Core} {t : Trace interface}

theorem runs_expectOpen_bind {β : Type} {device : DeviceHandle} {f : Unit → Action interface Core β}
    {r : Except Error β} :
    ((expectOpen device >>= f) s).Runs t (r, s') ↔
      device ∈ s.devices ∧ (f () s).Runs t (r, s') ∨
        device ∉ s.devices ∧ t = [] ∧ r = .error .invalidHandle ∧ s' = s :=
  runs_expect_bind Core.devices

/-- A handle that is not in the table is refused at once. -/
theorem expectOpen_bind_of_not_mem {β : Type} {device : DeviceHandle}
    {f : Unit → Action interface Core β} (hd : device ∉ s.devices) :
    (expectOpen device >>= f) s = .done (.error .invalidHandle, s) :=
  expect_bind_of_not_mem Core.devices hd

/-- Whether devices are in ascending order. -/
def Ascending (l : List DeviceHandle) : Prop := l.Pairwise fun d e ↦ d.raw < e.raw

theorem Ascending.nodup {l : List DeviceHandle} (hl : Ascending l) : l.Nodup :=
  hl.imp fun hlt he ↦ Int32.ne_of_lt hlt (congrArg DeviceHandle.raw he)

theorem insertDevice_eq (d : DeviceHandle) (l : List DeviceHandle) :
    insertDevice d l = insertAscending (fun d e ↦ d.raw < e.raw) d l := by
  induction l with
  | nil => rfl
  | cons e l ih => rw [insertDevice, insertAscending, ih]

theorem mem_insertDevice {d e : DeviceHandle} {l : List DeviceHandle} :
    e ∈ insertDevice d l ↔ e = d ∨ e ∈ l := by
  rw [insertDevice_eq, mem_insertAscending]

theorem insertDevice_perm {d : DeviceHandle} {l : List DeviceHandle} (hd : d ∉ l) :
    (insertDevice d l).Perm (d :: l) := by
  rw [insertDevice_eq]
  exact insertAscending_perm hd

theorem ascending_insertDevice {d : DeviceHandle} {l : List DeviceHandle} (hl : Ascending l) :
    Ascending (insertDevice d l) := by
  rw [insertDevice_eq]
  refine pairwise_insertAscending Int32.lt_trans (fun {a b} hn hne ↦ ?_) hl
  exact Int32.lt_of_le_of_ne (Int32.not_lt.1 hn) fun h ↦ hne (congrArg DeviceHandle.mk h.symm)

/-- The two requests that set up a device, granted. -/
def setUp (speed : UInt32) (mode : BusAccess.Spi.Mode) (d : DeviceHandle) : Trace interface :=
  [.asked (.setMode d.raw mode.bits) true, .asked (.setMaxSpeed d.raw speed) true]

/-- Whether a device refused to be set up in a run. -/
def Refused (speed : UInt32) (mode : BusAccess.Spi.Mode) (t : Trace interface) (d : DeviceHandle) :
    Prop :=
  .asked (.setMode d.raw mode.bits) false ∈ t ∨ .asked (.setMaxSpeed d.raw speed) false ∈ t

/-- Whether a run sets up devices one after another, and ends with a failure if one refuses. -/
structure SetsUp (devices : List DeviceHandle) (speed : UInt32) (mode : BusAccess.Spi.Mode)
    (t : Trace interface) (r : Except Error PUnit) : Prop where
  /-- Only these devices are asked to be set up. -/
  asked : ∀ q ∈ requests t, ∃ d ∈ devices,
    q = .setMode d.raw mode.bits ∨ q = .setMaxSpeed d.raw speed
  /-- All of them are set up, in order, or the run fails. -/
  ends : r = .ok () ∧ calls t = devices.flatMap (setUp speed mode) ∨ r = .error .ioError
  /-- A failure is due to one that refused. -/
  refused : r = .error .ioError → ∃ d ∈ devices, Refused speed mode t d

variable {speed : UInt32} {mode : BusAccess.Spi.Mode}

theorem Refused.append_left {d : DeviceHandle} {u : Trace interface} (h : Refused speed mode u d) :
    Refused speed mode (t ++ u) d :=
  h.imp (List.mem_append_right t) (List.mem_append_right t)

theorem Refused.append_right {d : DeviceHandle} {u : Trace interface} (h : Refused speed mode t d) :
    Refused speed mode (t ++ u) d :=
  h.imp (List.mem_append_left u) (List.mem_append_left u)

theorem runs_configure {d : DeviceHandle} {r : Except Error Unit}
    (h : (configure d.raw speed mode s).Runs t (r, s')) : s' = s ∧ SetsUp [d] speed mode t r := by
  rw [configure] at h
  obtain ⟨reply, u, rfl, h₁⟩ := runs_ask_bind.1 h
  cases reply with
  | false =>
    obtain ⟨v, rfl, h₂⟩ := runs_report_bind.1 h₁
    obtain ⟨rfl, rfl, rfl⟩ := runs_throw_bind.1 h₂
    refine ⟨rfl, ?_, .inr rfl, fun _ ↦ ⟨d, List.mem_singleton_self d, .inl ?_⟩⟩
    · exact List.forall_mem_singleton.2 ⟨d, List.mem_singleton_self d, .inl rfl⟩
    · exact List.mem_cons_self
  | true =>
    obtain ⟨reply, v, rfl, h₂⟩ := runs_ask_bind.1 h₁
    have hq : ∀ q ∈ [Request.setMode d.raw mode.bits, .setMaxSpeed d.raw speed], ∃ e ∈ [d],
        q = .setMode e.raw mode.bits ∨ q = .setMaxSpeed e.raw speed := by
      simp
    cases reply with
    | false =>
      obtain ⟨w, rfl, h₃⟩ := runs_report_bind.1 h₂
      obtain ⟨rfl, rfl, rfl⟩ := runs_throw.1 h₃
      refine ⟨rfl, hq, .inr rfl, fun _ ↦ ⟨d, List.mem_singleton_self d, .inr ?_⟩⟩
      exact List.mem_cons_of_mem _ List.mem_cons_self
    | true =>
      obtain ⟨rfl, rfl, rfl⟩ := runs_pure.1 h₂
      exact ⟨rfl, hq, .inl ⟨rfl, rfl⟩, nofun⟩

/-- Setting up a device with a remark if it refuses. -/
theorem runs_configure_noisily {d : DeviceHandle} {r : Except Error Unit} {e : Event}
    (h : ((do
      match ← Action.attempt (configure d.raw speed mode) with
      | .ok _ => return ()
      | .error e' =>
        Action.report e
        throw e' : Action interface Core Unit) s).Runs t (r, s')) :
    s' = s ∧ SetsUp [d] speed mode t r := by
  obtain ⟨u, result, s₁, v, h₁, h₂, rfl⟩ := runs_attempt_bind.1 h
  obtain ⟨rfl, hset⟩ := runs_configure h₁
  cases result with
  | ok _ =>
    obtain ⟨rfl, rfl, rfl⟩ := runs_pure.1 h₂
    rw [List.append_nil]
    exact ⟨rfl, hset⟩
  | error e' =>
    obtain ⟨w, rfl, h₃⟩ := runs_report_bind.1 h₂
    obtain ⟨rfl, rfl, rfl⟩ := runs_throw.1 h₃
    refine ⟨rfl, ?_, hset.ends.imp nofun id, fun he ↦ ?_⟩
    · rw [requests_append, requests_reported, requests_nil, List.append_nil]
      exact hset.asked
    · obtain ⟨e', he', hrefused⟩ := hset.refused he
      exact ⟨e', he', hrefused.append_right⟩

/-- **Setting up devices** goes on until one refuses. -/
theorem runs_forM_configure {x : DeviceHandle → Action interface Core Unit}
    (hx : ∀ {d : DeviceHandle} {s s' : Core} {t : Trace interface} {r : Except Error Unit},
      (x d s).Runs t (r, s') → s' = s ∧ SetsUp [d] speed mode t r)
    {l : List DeviceHandle} {r : Except Error PUnit} (h : (l.forM x s).Runs t (r, s')) :
    s' = s ∧ SetsUp l speed mode t r := by
  induction l generalizing t with
  | nil =>
    obtain ⟨rfl, rfl, rfl⟩ := runs_pure.1 h
    exact ⟨rfl, nofun, .inl ⟨rfl, rfl⟩, nofun⟩
  | cons d l ih =>
    obtain ⟨u, _, s₁, v, h₁, h₂, rfl⟩ | ⟨e, h₁, rfl⟩ := runs_bind.1 h
    · obtain ⟨rfl, hd⟩ := hx h₁
      obtain ⟨rfl, hl⟩ := ih h₂
      refine ⟨rfl, ?_, ?_, fun he ↦ ?_⟩
      · rw [requests_append]
        refine List.forall_mem_append.2 ⟨fun q hq ↦ ?_, fun q hq ↦ ?_⟩
        · obtain ⟨e, he, hq⟩ := hd.asked q hq
          exact ⟨e, List.mem_cons.2 (.inl (List.mem_singleton.1 he)), hq⟩
        · obtain ⟨e, he, hq⟩ := hl.asked q hq
          exact ⟨e, List.mem_cons_of_mem d he, hq⟩
      · refine hl.ends.imp_left fun ⟨hr, hv⟩ ↦ ⟨hr, ?_⟩
        obtain ⟨_, hu⟩ | hu := hd.ends
        · rw [calls_append, hu, hv, ← List.flatMap_append, List.singleton_append]
        · exact absurd hu nofun
      · obtain ⟨e, hm, hrefused⟩ := hl.refused he
        exact ⟨e, List.mem_cons_of_mem d hm, hrefused.append_left⟩
    · obtain ⟨rfl, hd⟩ := hx h₁
      refine ⟨rfl, fun q hq ↦ ?_, hd.ends.imp nofun id, fun he ↦ ?_⟩
      · obtain ⟨e, he, hq⟩ := hd.asked q hq
        exact ⟨e, List.mem_cons.2 (.inl (List.mem_singleton.1 he)), hq⟩
      · obtain ⟨e, hm, hrefused⟩ := hd.refused he
        exact ⟨e, List.mem_cons.2 (.inl (List.mem_singleton.1 hm)), hrefused⟩

/-- **Opening a device** fails with the node, is undone because the descriptor cannot be set up, or
puts the descriptor into the table. -/
theorem runs_openAt {chipSelect : UInt32} {r : Except Error DeviceHandle}
    (h : (openAt chipSelect s).Runs t (r, s')) :
    let path := nodePath s.directory s.busnum chipSelect
    (t = [.asked (.openNode path) none, .reported (.error "can't open spi device")] ∧
        r = .error .noDevice ∧ s' = s) ∨
      (∃ fd u, SetsUp [⟨fd⟩] s.speed s.mode u (.error .ioError) ∧
        t = .asked (.openNode path) (some fd) :: (u ++ [.asked (.close fd) ()]) ∧
        r = .error .ioError ∧ s' = s) ∨
      ∃ fd u, SetsUp [⟨fd⟩] s.speed s.mode u (.ok ()) ∧
        t = .asked (.openNode path) (some fd) :: u ∧
        r = .ok ⟨fd⟩ ∧ s' = { s with devices := insertDevice ⟨fd⟩ s.devices } := by
  intro path
  rw [openAt] at h
  obtain ⟨node, u, rfl, h₁⟩ := runs_ask_bind.1 (runs_get_bind.1 h)
  cases node with
  | none =>
    obtain ⟨v, rfl, h₂⟩ := runs_report_bind.1 h₁
    obtain ⟨rfl, rfl, rfl⟩ := runs_throw.1 h₂
    exact .inl ⟨rfl, rfl, rfl⟩
  | some fd =>
    obtain ⟨v, result, s₁, w, h₂, h₃, rfl⟩ := runs_attempt_bind.1 h₁
    obtain ⟨rfl, hset⟩ := runs_configure (d := ⟨fd⟩) h₂
    cases result with
    | ok _ =>
      have h₄ := runs_set_bind.1 h₃
      obtain ⟨rfl, rfl, rfl⟩ := runs_pure.1 h₄
      rw [List.append_nil]
      exact .inr (.inr ⟨fd, v, hset, rfl, rfl, rfl⟩)
    | error e =>
      obtain rfl : e = .ioError := by
        obtain ⟨he, _⟩ | he := hset.ends
        · exact absurd he nofun
        · exact Except.error.inj he
      obtain ⟨reply, x, rfl, h₄⟩ := runs_ask_bind.1 h₃
      obtain ⟨rfl, rfl, rfl⟩ := runs_throw.1 h₄
      exact .inr (.inl ⟨fd, v, hset, rfl, rfl, rfl⟩)

/-- **An exchange** reaches the kernel as one message at most, which has the speed of the bus. -/
theorem runs_transfer {device : DeviceHandle} {tx : Option Bytes} {rx : Option Nat}
    {r : Except Error Received} (h : (transfer device tx rx s).Runs t (r, s')) :
    s' = s ∧ (device ∉ s.devices ∧ t = [] ∧ r = .error .invalidHandle ∨
      device ∈ s.devices ∧ (calls t = [] ∨ ∃ message reply, message.speedHz = s.speed ∧
        calls t = [.asked (.exchange device.raw message) reply])) := by
  rw [transfer] at h
  obtain ⟨hd, h₁⟩ | ⟨hd, rfl, rfl, rfl⟩ := runs_expectOpen_bind.1 h
  · obtain ⟨length, _, h₂⟩ | ⟨_, rfl, rfl, rfl⟩ := runs_demand_bind.1 (runs_get_bind.1 h₁)
    · split at h₂
      · obtain ⟨rfl, rfl, rfl⟩ := runs_pure.1 h₂
        exact ⟨rfl, .inr ⟨hd, .inl rfl⟩⟩
      · split at h₂
        · obtain ⟨rfl, rfl, rfl⟩ := runs_throw.1 h₂
          exact ⟨rfl, .inr ⟨hd, .inl rfl⟩⟩
        · obtain ⟨reply, u, rfl, h₃⟩ := runs_ask_bind.1 h₂
          cases reply with
          | some exchanged =>
            obtain ⟨rfl, rfl, rfl⟩ := runs_pure.1 h₃
            exact ⟨rfl, .inr ⟨hd, .inr ⟨_, _, rfl, rfl⟩⟩⟩
          | none =>
            obtain ⟨v, rfl, h₄⟩ := runs_report_bind.1 h₃
            obtain ⟨rfl, rfl, rfl⟩ := runs_throw.1 h₄
            exact ⟨rfl, .inr ⟨hd, .inr ⟨_, _, rfl, rfl⟩⟩⟩
    · exact ⟨rfl, .inr ⟨hd, .inl rfl⟩⟩
  · exact ⟨rfl, .inl ⟨hd, rfl, rfl⟩⟩

theorem runs_close {device : DeviceHandle} {r : Except Error Unit}
    (h : (close device s).Runs t (r, s')) :
    device ∉ s.devices ∧ t = [] ∧ r = .error .invalidHandle ∧ s' = s ∨
      device ∈ s.devices ∧ t = [.asked (.close device.raw) ()] ∧ r = .ok () ∧
        s' = { s with devices := s.devices.erase device } := by
  rw [close] at h
  obtain ⟨hd, h₁⟩ | ⟨hd, rfl, rfl, rfl⟩ := runs_expectOpen_bind.1 h
  · have h₂ := runs_modify_bind.1 h₁
    obtain ⟨reply, rfl, rfl, rfl⟩ := runs_ask.1 h₂
    exact .inr ⟨hd, rfl, rfl, rfl⟩
  · exact .inl ⟨hd, rfl, rfl, rfl⟩

theorem runs_setSpeed {hz : UInt32} {r : Except Error Unit} (h : (setSpeed hz s).Runs t (r, s')) :
    hz = 0 ∧ t = [] ∧ r = .error .invalidArgument ∧ s' = s ∨
      hz ≠ 0 ∧ s' = { s with speed := hz } ∧ ∃ order u,
        t = .asked (.order s.devices.length) order :: u ∧
        SetsUp (Order.arrange s.devices order) hz s.mode u r := by
  rw [setSpeed] at h
  split at h
  case isTrue hz => exact .inl ⟨hz, runs_throw_bind.1 h⟩
  case isFalse hz =>
    have h₁ := runs_modify_bind.1 h
    have h₂ := runs_get_bind.1 h₁
    obtain ⟨order, u, rfl, h₃⟩ := runs_walk_bind.1 h₂
    obtain ⟨rfl, hset⟩ := runs_forM_configure runs_configure h₃
    exact .inr ⟨hz, rfl, order, u, rfl, hset⟩

theorem runs_setMode {r : Except Error Unit} (h : (setMode mode s).Runs t (r, s')) :
    s' = { s with mode := mode } ∧ ∃ order u,
      t = .asked (.order s.devices.length) order :: u ∧
      SetsUp (Order.arrange s.devices order) s.speed mode u r := by
  rw [setMode] at h
  have h₁ := runs_modify_bind.1 h
  have h₂ := runs_get_bind.1 h₁
  obtain ⟨order, u, rfl, h₃⟩ := runs_walk_bind.1 h₂
  obtain ⟨rfl, hset⟩ := runs_forM_configure runs_configure_noisily h₃
  exact ⟨rfl, order, u, rfl, hset⟩

theorem runs_release {r : Except Error Unit} (h : (release s).Runs t (r, s')) :
    ∃ order, r = .ok () ∧ s' = { s with devices := [] } ∧
      t = .asked (.order s.devices.length) order ::
        (Order.arrange s.devices order).map fun d ↦ .asked (.close d.raw) () :=
  runs_drain Core.devices h

end Spi

end BusAccess.Node
