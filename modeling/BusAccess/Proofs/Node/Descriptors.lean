import BusAccess.Proofs.Book
import BusAccess.Proofs.Everywhere
import BusAccess.Proofs.Node.Creation
import BusAccess.Proofs.Node.Devices

/-!
# The descriptors of a bus

The descriptors that a bus has open can be read off its requests: the kernel hands one out when a
node is opened, and has it back when it is closed.  `descriptors` is the book on this.  The kernel
uses a number again once it has it back; all that is asked of it is that it hands out no descriptor
that is open (`Fresh`).

`Port` are the two kinds of bus that are reached through device nodes.  Each of their operations has
one of the four effects that a book knows (`effect_of_call`), and they close in the end what is still
open, in any order, so both keep the book (`kept`).  Therefore the table of the backend, what is open
in the kernel and the count of the bus never differ, and no descriptor is lost or closed twice
(`descriptors_conserved`).  The place where one could be lost is between opening a node and putting
the descriptor into the table: if it cannot be set up, opening the device fails, and closes what it
has opened itself.
-/

set_option autoImplicit false

namespace BusAccess.Node

open Program (Trace Step requests)

variable {t u : Trace interface} {d : DeviceHandle} {fd : Descriptor}

/-! ## The book -/

/-- What can happen to a descriptor. -/
inductive Fate where
  | opened
  | closed
  deriving DecidableEq, Repr

/-- What a step does to the descriptor of a device. -/
def fate? (d : DeviceHandle) : Step interface → Option Fate
  | .asked (.openNode _) (some fd) => if ⟨fd⟩ = d then some .opened else none
  | .asked (.close fd) _ => if ⟨fd⟩ = d then some .closed else none
  | _ => none

/-- The book on what is open in the kernel. -/
def descriptors : Book interface DeviceHandle Fate where
  entry? := fate?
  out := .opened
  back := .closed
  out_ne_back := nofun
  entry?_reported _ _ := rfl

@[simp] theorem entries_opened {path : String} :
    descriptors.entries d (.asked (.openNode path) (some fd) :: t) =
      (if ⟨fd⟩ = d then [.opened] else []) ++ descriptors.entries d t := by
  rw [Book.entries_cons]
  show (if ⟨fd⟩ = d then some Fate.opened else none).toList ++ _ = _
  split <;> rfl

@[simp] theorem entries_closed :
    descriptors.entries d (.asked (.close fd) () :: t) =
      (if ⟨fd⟩ = d then [.closed] else []) ++ descriptors.entries d t := by
  rw [Book.entries_cons]
  show (if ⟨fd⟩ = d then some Fate.closed else none).toList ++ _ = _
  split <;> rfl

/-- Whether a request opens or closes a descriptor. -/
def Request.moves : Request → Bool
  | .openNode _ => true
  | .close _ => true
  | _ => false

/-- Nothing happens to descriptors in a run that opens and closes none. -/
theorem entries_of_still (h : ∀ q ∈ requests t, q.moves = false) :
    descriptors.entries d t = [] := by
  induction t with
  | nil => rfl
  | cons x t ih =>
    cases x with
    | reported e => exact (Book.entries_reported _).trans (ih h)
    | asked q r =>
      obtain ⟨hq, ht⟩ := List.forall_mem_cons.1 h
      have hx : fate? d (.asked q r) = none := by
        cases q with
        | openNode path => exact absurd hq nofun
        | close fd => exact absurd hq nofun
        | _ => rfl
      rw [Book.entries_cons, ih ht, List.append_nil]
      exact congrArg Option.toList hx

theorem entries_of_opening {path : String} (hu : ∀ q ∈ requests u, q.moves = false) :
    descriptors.entries d (.asked (.openNode path) (some fd) :: u) =
      if ⟨fd⟩ = d then [.opened] else [] := by
  rw [entries_opened, entries_of_still hu, List.append_nil]

/-- A descriptor that is opened and closed again. -/
theorem entries_of_undoing {path : String} (hu : ∀ q ∈ requests u, q.moves = false) :
    descriptors.entries d (.asked (.openNode path) (some fd) :: (u ++ [.asked (.close fd) ()])) =
      if ⟨fd⟩ = d then [.opened, .closed] else [] := by
  rw [entries_opened, Book.entries_append, entries_of_still hu, entries_closed, List.nil_append]
  split <;> rfl

/-- Every device that is closed is closed as often as it is listed. -/
theorem entries_of_closing (l : List DeviceHandle) :
    descriptors.entries d (l.map fun e ↦ .asked (.close e.raw) ()) =
      List.replicate (l.count d) .closed := by
  induction l with
  | nil => rfl
  | cons e l ih =>
    rw [List.map_cons, entries_closed, ih, List.count_cons]
    by_cases he : e = d
    · rw [if_pos he, if_pos (beq_iff_eq.2 he), List.replicate_succ, List.singleton_append]
    · rw [if_neg he, if_neg (mt beq_iff_eq.1 he), List.nil_append, Nat.add_zero]

/-- Going through a table in any order and closing everything. -/
theorem entries_of_clearing {l : List DeviceHandle} (hl : l.Nodup) (order : Order l.length) :
    descriptors.entries d (.asked (.order l.length) order ::
        (Order.arrange l order).map fun e ↦ .asked (.close e.raw) ()) =
      if d ∈ l then [.closed] else [] := by
  rw [Book.entries_cons, entries_of_closing, (Order.arrange_perm l order).count_eq, hl.count]
  split <;> rfl

/-! ## A kernel that hands out only what is closed -/

/-- The device that a step hands out, if it hands out one. -/
def handedOut? : Step interface → Option DeviceHandle
  | .asked (.openNode _) (some fd) => some ⟨fd⟩
  | _ => none

/-- The kernel never hands out a descriptor that is open. -/
def Fresh (t : Trace interface) : Prop :=
  Everywhere (fun before x _ ↦ ∀ d ∈ handedOut? x, ¬ descriptors.IsOut d before) t

-- Only the descriptor that is handed out is to be looked at, and not every one there is.
instance (t : Trace interface) : Decidable (Fresh t) :=
  @Everywhere.decidable _ _ (fun _ x _ ↦ Option.decidableForallMem (handedOut? x)) t

theorem Fresh.left (hf : Fresh (t ++ u)) : Fresh t := (everywhere_append.1 hf).1

/-- What has just been handed out was not open before. -/
theorem Fresh.not_isOut {path : String} (hf : Fresh (t ++ .asked (.openNode path) (some fd) :: u)) :
    ¬ descriptors.IsOut ⟨fd⟩ t :=
  hf t _ u rfl ⟨fd⟩ rfl

/-! ## The effects of calls -/

namespace I2c

variable {s s' : Core} {past : Trace interface}

/-- **Every call has an effect** that keeps the book. -/
theorem effect_of_call {c : BusAccess.I2c.Call} {r : Except Error c.Answer}
    (hf : Fresh (past ++ t)) (hb : descriptors.Balanced s.devices past)
    (h : (table.call c s).Runs t (r, s')) :
    descriptors.Effect s.devices t (c.role.count r) s'.devices := by
  cases c with
  | openAt address =>
    obtain ⟨rfl, rfl, rfl⟩ | ⟨rfl, rfl, rfl⟩ | ⟨fd, rfl, rfl, rfl⟩ | ⟨fd, rfl, rfl, rfl⟩ :=
      runs_openAt h
    · exact .idle fun _ ↦ rfl
    · exact .idle fun _ ↦ rfl
    · let u : Trace interface :=
        [.asked (.setSlave fd address) false, .reported (.error "ioctl I2C_SLAVE failed")]
      have hu : ∀ q ∈ requests u, q.moves = false := List.forall_mem_singleton.2 rfl
      exact .undone (hb.not_mem_of_not_isOut hf.not_isOut) fun _ ↦ entries_of_undoing hu
    · let u : Trace interface := [.asked (.setSlave fd address) true]
      have hu : ∀ q ∈ requests u, q.moves = false := List.forall_mem_singleton.2 rfl
      have hd := hb.not_mem_of_not_isOut hf.not_isOut
      exact .opened hd (.of_eq (List.insert_of_not_mem hd)) fun _ ↦ entries_of_opening hu
  | read device n =>
    obtain ⟨rfl, ⟨_, rfl, _⟩ | ⟨reply, _, ht⟩⟩ := runs_read h
    · exact .idle fun _ ↦ rfl
    · refine .idle fun _ ↦ entries_of_still ?_
      rw [← Program.requests_calls, ht]
      exact List.forall_mem_singleton.2 rfl
  | write device data =>
    obtain ⟨rfl, ⟨_, rfl, _⟩ | ⟨reply, _, ht⟩⟩ := runs_write h
    · exact .idle fun _ ↦ rfl
    · refine .idle fun _ ↦ entries_of_still ?_
      rw [← Program.requests_calls, ht]
      exact List.forall_mem_singleton.2 rfl
  | close device =>
    obtain ⟨_, rfl, rfl, rfl⟩ | ⟨hd, rfl, rfl, rfl⟩ := runs_close h
    · exact .idle fun _ ↦ rfl
    · refine .closed (List.perm_cons_erase hd) fun j ↦ ?_
      rw [entries_closed]
      exact List.append_nil _
  | setFreq hz =>
    obtain ⟨rfl, rfl, rfl⟩ := Action.runs_throw.1 h
    exact .idle fun _ ↦ rfl
  | setClockStretch enable =>
    obtain ⟨rfl, rfl, rfl⟩ := Action.runs_throw.1 h
    exact .idle fun _ ↦ rfl

theorem kept : descriptors.Kept table Core.devices Fresh (fun _ ↦ True) where
  left := Fresh.left
  sound _ _ := trivial
  call hf _ := effect_of_call hf
  release _ hd h j := by
    obtain ⟨order, _, _, rfl⟩ := runs_release h
    exact entries_of_clearing hd order

end I2c

namespace Spi

variable {s s' : Core} {past : Trace interface}

/-- Setting up devices opens and closes nothing. -/
theorem SetsUp.still {l : List DeviceHandle} {speed : UInt32} {mode : BusAccess.Spi.Mode}
    {r : Except Error PUnit} (h : SetsUp l speed mode t r) : ∀ q ∈ requests t, q.moves = false := by
  intro q hq
  obtain ⟨d, _, rfl | rfl⟩ := h.asked q hq
  · rfl
  · rfl

/-- **Every call has an effect** that keeps the book. -/
theorem effect_of_call {c : BusAccess.Spi.Call} {r : Except Error c.Answer}
    (hf : Fresh (past ++ t)) (hb : descriptors.Balanced s.devices past)
    (h : (table.call c s).Runs t (r, s')) :
    descriptors.Effect s.devices t (c.role.count r) s'.devices := by
  cases c with
  | openAt chipSelect =>
    obtain ⟨rfl, rfl, rfl⟩ | ⟨fd, u, hu, rfl, rfl, rfl⟩ | ⟨fd, u, hu, rfl, rfl, rfl⟩ := runs_openAt h
    · exact .idle fun _ ↦ rfl
    · exact .undone (hb.not_mem_of_not_isOut hf.not_isOut) fun _ ↦ entries_of_undoing hu.still
    · have hd := hb.not_mem_of_not_isOut hf.not_isOut
      exact .opened hd (insertDevice_perm hd) fun _ ↦ entries_of_opening hu.still
  | transfer device tx rx =>
    obtain ⟨rfl, ⟨_, rfl, _⟩ | ⟨_, ht⟩⟩ := runs_transfer h
    · exact .idle fun _ ↦ rfl
    · refine .idle fun _ ↦ entries_of_still ?_
      rw [← Program.requests_calls]
      obtain ht | ⟨message, reply, _, ht⟩ := ht
      · rw [ht]
        exact nofun
      · rw [ht]
        exact List.forall_mem_singleton.2 rfl
  | close device =>
    obtain ⟨_, rfl, rfl, rfl⟩ | ⟨hd, rfl, rfl, rfl⟩ := runs_close h
    · exact .idle fun _ ↦ rfl
    · refine .closed (List.perm_cons_erase hd) fun j ↦ ?_
      rw [entries_closed]
      exact List.append_nil _
  | setSpeed hz =>
    obtain ⟨_, rfl, rfl, rfl⟩ | ⟨_, rfl, order, u, rfl, hu⟩ := runs_setSpeed h
    · exact .idle fun _ ↦ rfl
    · exact .idle fun _ ↦ entries_of_still (List.forall_mem_cons.2 ⟨rfl, hu.still⟩)
  | setMode mode =>
    obtain ⟨rfl, order, u, rfl, hu⟩ := runs_setMode h
    exact .idle fun _ ↦ entries_of_still (List.forall_mem_cons.2 ⟨rfl, hu.still⟩)

theorem kept : descriptors.Kept table Core.devices Fresh (fun _ ↦ True) where
  left := Fresh.left
  sound _ _ := trivial
  call hf _ := effect_of_call hf
  release _ hd h j := by
    obtain ⟨order, _, _, rfl⟩ := runs_release h
    exact entries_of_clearing hd order

end Spi

/-! ## Buses that are reached through device nodes -/

/-- The two kinds of bus that are reached through device nodes. -/
inductive Port where
  | i2c
  | spi
  deriving DecidableEq, Repr

namespace Port

/-- The kind of bus. -/
def kind : Port → Kind
  | i2c => .i2c
  | spi => .spi

/-- What the backend keeps for a bus. -/
def Core : Port → Type
  | i2c => I2c.Core
  | spi => Spi.Core

/-- What to connect to. -/
def Params : Port → Type
  | i2c => BusAccess.I2c.Params
  | spi => BusAccess.Spi.Params

/-- The operations of the backend. -/
def table : (p : Port) → Table p.kind.methods.operations interface p.Core
  | i2c => I2c.table
  | spi => Spi.table

/-- How the backend makes a bus. -/
def create (r : Roots) : (p : Port) → p.Params → Program interface (Except Error (Bus p.Core))
  | i2c => I2c.create r
  | spi => Spi.create r

/-- The table of the backend. -/
def devices : (p : Port) → p.Core → List DeviceHandle
  | i2c => I2c.Core.devices
  | spi => Spi.Core.devices

/-- Both backends keep the book. -/
theorem kept (p : Port) : descriptors.Kept p.table p.devices Fresh (fun _ ↦ True) := by
  cases p with
  | i2c => exact I2c.kept
  | spi => exact Spi.kept

/-- Nothing is open on a bus that has just been made. -/
theorem agrees_of_create {p : Port} {roots : Roots} {params : p.Params} {made : Trace interface}
    {b : Bus p.Core} (h : (create roots p params).Runs made (.ok b)) :
    descriptors.Agrees p.devices (fun _ ↦ True) [] b := by
  cases p with
  | i2c =>
    obtain ⟨path, rfl⟩ := I2c.runs_create h
    exact Book.agrees_new trivial rfl
  | spi =>
    obtain ⟨busnum, rfl⟩ := Spi.runs_create h
    exact Book.agrees_new trivial rfl

end Port

/-- **No descriptor is lost, and none is closed twice.**  After any uses of a new bus, what it has
open in the kernel is what is in its table, and the count is the size of the table.  Every
descriptor was closed as often as it was opened, once after each time, but for one more time if it is
still in the table; so a bus that is released has nothing open.  A device that fails to open leaves
nothing behind, and when the bus is given up everything is closed. -/
theorem descriptors_conserved (p : Port) {roots : Roots} {params : p.Params}
    {made trace : Trace interface} {b₀ b : Bus p.Core} {us : List (Use p.kind.methods)}
    (hc : (p.create roots params).Runs made (.ok b₀))
    (h : (Bus.uses p.table us b₀).Runs trace b) (hf : Fresh trace) :
    (∀ d, descriptors.IsOut d trace ↔ d ∈ b.held p.devices) ∧ (b.held p.devices).Nodup ∧
      b.openDevices = (b.held p.devices).length ∧
      (∀ d, ∃ n, descriptors.entries d trace =
        (List.replicate n [.opened, .closed]).flatten ++
          if d ∈ b.held p.devices then [.opened] else []) ∧
      (∀ c e t b', p.kind.methods.operations.role c = .opens →
        (Bus.call p.table c b).Runs t (.error e, b') → Fresh (trace ++ t) →
        b'.held p.devices = b.held p.devices ∧
          ∀ d, descriptors.entries d t = [] ∨ descriptors.entries d t = [.opened, .closed]) ∧
      ∀ u, (Bus.drop p.table b).Runs u () → ∀ d, ∃ n,
        descriptors.entries d (trace ++ u) = (List.replicate n [.opened, .closed]).flatten := by
  have hb := p.kept.agrees (Port.agrees_of_create hc) h hf
  refine ⟨fun d ↦ hb.balanced.isOut_iff, hb.balanced.nodup, hb.count, hb.balanced.alternates, ?_, ?_⟩
  · intro c e t b' ho hr hft
    have he := hb.effect_of_call p.kept hr hft
    rw [ho] at he
    exact he.of_eq_id rfl
  · intro u hu d
    exact ((hb.after_drop p.kept hu).alternates d).eq_rounds List.not_mem_nil

/-- A device fails to open at its second control request, its descriptor is used again for another
one, and two are open when the bus is released, which closes the later one first. -/
theorem descriptors_conserved_despite_failure :
    let params : BusAccess.Spi.Params := {}
    let made : Trace interface := [.asked (.list "/dev") (some ["spidev0.0"]),
      .asked .reserve true, .reported (.debug "linuxdev spi bus created")]
    let b₀ : Bus Spi.Core :=
      .new name { busnum := 0, directory := "/dev", speed := 1000000, mode := .mode0 }
    let us : List (Use Spi.methods) :=
      [.method (.openAt 0), .method (.openAt 1), .method (.openAt 0), .release]
    let order : Order 2 := ⟨[1, 0], by decide⟩
    let trace : Trace interface := [.asked (.openNode (Spi.nodePath "/dev" 0 0)) (some 3),
      .asked (.setMode 3 0) true, .asked (.setMaxSpeed 3 1000000) false,
      .reported (.error "ioctl SPI_IOC_WR_MAX_SPEED_HZ failed"), .asked (.close 3) (),
      .asked (.openNode (Spi.nodePath "/dev" 0 1)) (some 3), .asked (.setMode 3 0) true,
      .asked (.setMaxSpeed 3 1000000) true, .asked (.openNode (Spi.nodePath "/dev" 0 0)) (some 4),
      .asked (.setMode 4 0) true, .asked (.setMaxSpeed 4 1000000) true, .asked (.order 2) order,
      .asked (.close 4) (), .asked (.close 3) (), .reported (.debug "bus released")]
    let b : Bus Spi.Core := { backend := name, core := none }
    (Port.spi.create {} params).Runs made (.ok b₀) ∧
      (Bus.uses Port.spi.table us b₀).Runs trace b ∧ Fresh trace ∧
      descriptors.entries ⟨3⟩ trace = [.opened, .closed, .opened, .closed] ∧
      ∀ d, ¬ descriptors.IsOut d trace := by
  intro params made b₀ us order trace b
  have hc : (Port.spi.create {} params).Runs made (.ok b₀) :=
    @Spi.create_runs {} params 0 ["spidev0.0"] rfl (by decide)
  have h : (Bus.uses Port.spi.table us b₀).Runs trace b :=
    .ask (.ask (.ask (.report (.ask (.ask (.ask (.ask (.ask (.ask (.ask (.ask
      (.ask (.ask (.report (.done _)))))))))))))))
  have hf : Fresh trace := by decide
  obtain ⟨hopen, _⟩ := descriptors_conserved .spi hc h hf
  exact ⟨hc, h, hf, by decide, fun d ↦ (hopen d).not.2 List.not_mem_nil⟩

end BusAccess.Node
