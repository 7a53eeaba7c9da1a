import BusAccess.Proofs.Bus.Deeds
import BusAccess.Proofs.Node.Descriptors
import Mathlib.Data.List.Induction

/-!
# Mode and speed of SPI devices

A bus has one mode and one speed, and the kernel has a mode and a speed for each device.  What the
kernel was told last about a device can be read off a run (`settings`); a device that is opened has
been told nothing yet.

The two agree as long as nothing goes wrong (`Coherent`).  A device that is opened is set up with
what the bus has, and if that fails it is not open.  Changing the mode or the speed sets up every
device anew, with both values, in any order, until one refuses; then some devices have the new value
and some the old one.  What brings them together again is the next change that succeeds, of either
value, because it tells every device both.  So all devices are as the bus says whenever the last
change succeeded, or there was none (`settled_coherent`).
-/

set_option autoImplicit false

namespace BusAccess.Node.Spi

open Program (Trace Step requests calls requests_append)

variable {t u past : Trace interface} {d e : DeviceHandle} {s s' : Core} {speed : UInt32}
  {mode : BusAccess.Spi.Mode} {l : List DeviceHandle}

/-! ## What the kernel was told -/

/-- What the kernel was told last about a device: the bits of its mode, and its speed. -/
structure Settings where
  mode? : Option UInt8 := none
  speed? : Option UInt32 := none
  deriving DecidableEq, Repr

/-- What the kernel was told about a device, if it is open, after one more step. -/
def settingsAfter (d : DeviceHandle) (told : Option Settings) : Step interface → Option Settings
  | .asked (.openNode _) (some fd) => if ⟨fd⟩ = d then some {} else told
  | .asked (.close fd) _ => if ⟨fd⟩ = d then none else told
  | .asked (.setMode fd bits) true =>
    if ⟨fd⟩ = d then told.map fun c ↦ { c with mode? := some bits } else told
  | .asked (.setMaxSpeed fd hz) true =>
    if ⟨fd⟩ = d then told.map fun c ↦ { c with speed? := some hz } else told
  | _ => told

/-- What the kernel was told about a device, if it is open, after some more steps. -/
def settingsFrom (d : DeviceHandle) (told : Option Settings) (t : Trace interface) :
    Option Settings :=
  t.foldl (settingsAfter d) told

/-- What the kernel was told about a device in a run, if it is open. -/
def settings (d : DeviceHandle) (t : Trace interface) : Option Settings := settingsFrom d none t

variable {told : Option Settings} {c : Settings}

theorem settingsFrom_append :
    settingsFrom d told (t ++ u) = settingsFrom d (settingsFrom d told t) u :=
  List.foldl_append

theorem settings_append : settings d (t ++ u) = settingsFrom d (settings d t) u :=
  settingsFrom_append

theorem settingsFrom_calls : settingsFrom d told (calls t) = settingsFrom d told t := by
  induction t generalizing told with
  | nil => rfl
  | cons x t ih =>
    cases x with
    | reported e => exact ih
    | asked q r => exact ih

/-- Whether a request says something about a device, or may do so. -/
def touches (d : DeviceHandle) : Request → Bool
  | .openNode _ => true
  | .close fd => ⟨fd⟩ = d
  | .setMode fd _ => ⟨fd⟩ = d
  | .setMaxSpeed fd _ => ⟨fd⟩ = d
  | _ => false

/-- Requests that say nothing about a device change nothing about it. -/
theorem settingsFrom_of_untouched (h : ∀ q ∈ requests t, touches d q = false) :
    settingsFrom d told t = told := by
  induction t generalizing told with
  | nil => rfl
  | cons x t ih =>
    cases x with
    | reported e => exact ih h
    | asked q r =>
      obtain ⟨hq, ht⟩ := List.forall_mem_cons.1 h
      have hx : settingsAfter d told (.asked q r) = told := by
        cases q with
        | openNode path => exact absurd hq nofun
        | close fd => exact if_neg (of_decide_eq_false hq)
        | setMode fd bits =>
          cases r with
          | true => exact if_neg (of_decide_eq_false hq)
          | false => rfl
        | setMaxSpeed fd hz =>
          cases r with
          | true => exact if_neg (of_decide_eq_false hq)
          | false => rfl
        | _ => rfl
      show settingsFrom d (settingsAfter d told (.asked q r)) t = told
      rw [hx]
      exact ih ht

/-! ### Which devices are open -/

theorem isSome_settingsAfter {x : Step interface} : (settingsAfter d told x).isSome =
    match fate? d x with
    | some .opened => true
    | some .closed => false
    | none => told.isSome := by
  cases x with
  | reported e => rfl
  | asked q r =>
    cases q with
    | openNode path =>
      cases r with
      | none => rfl
      | some fd =>
        simp only [settingsAfter, fate?]
        split <;> rfl
    | close fd =>
      simp only [settingsAfter, fate?]
      split <;> rfl
    | setMode fd bits =>
      cases r with
      | false => rfl
      | true =>
        simp only [settingsAfter, fate?]
        split
        · exact Option.isSome_map
        · rfl
    | setMaxSpeed fd hz =>
      cases r with
      | false => rfl
      | true =>
        simp only [settingsAfter, fate?]
        split
        · exact Option.isSome_map
        · rfl
    | _ => rfl

/-- The kernel was told something about the devices that are open. -/
theorem isSome_settings : (settings d t).isSome = true ↔ descriptors.IsOut d t := by
  induction t using List.reverseRecOn with
  | nil => exact iff_of_false nofun nofun
  | append_singleton t x ih =>
    have hx : descriptors.entries d [x] = (fate? d x).toList :=
      (Book.entries_cons _).trans (List.append_nil _)
    rw [settings_append, Book.IsOut, Book.entries_append, hx]
    show (settingsAfter d (settings d t) x).isSome = true ↔ _
    rw [isSome_settingsAfter]
    cases fate? d x with
    | none => rw [Option.toList_none, List.append_nil, ih, Book.IsOut]
    | some f =>
      rw [Option.toList_some, List.getLast?_concat]
      cases f with
      | opened => exact iff_of_true rfl rfl
      | closed => exact iff_of_false nofun nofun

/-- A run that opens and closes nothing leaves open what is open. -/
theorem isSome_settings_append (ht : ∀ q ∈ requests t, q.moves = false) :
    (settings d (past ++ t)).isSome = (settings d past).isSome := by
  rw [Bool.eq_iff_iff, isSome_settings, isSome_settings, Book.IsOut, Book.IsOut,
    Book.entries_append, entries_of_still ht, List.append_nil]

/-! ### Setting up devices -/

theorem settingsFrom_setUp : settingsFrom d (some c) (setUp speed mode e) =
    some (if e = d then ⟨some mode.bits, some speed⟩ else c) := by
  show settingsAfter d (settingsAfter d (some c) (.asked (.setMode e.raw mode.bits) true))
    (.asked (.setMaxSpeed e.raw speed) true) = _
  simp only [settingsAfter]
  split <;> rfl

/-- Devices that are set up one after another are all told the same. -/
theorem settingsFrom_flatMap_setUp : settingsFrom d (some c) (l.flatMap (setUp speed mode)) =
    some (if d ∈ l then ⟨some mode.bits, some speed⟩ else c) := by
  induction l generalizing c with
  | nil => rfl
  | cons e l ih =>
    rw [List.flatMap_cons, settingsFrom_append, settingsFrom_setUp, ih]
    by_cases he : e = d
    · rw [if_pos he, if_pos (List.mem_cons.2 (.inl he.symm)), ite_self]
    · rw [if_neg he]
      simp only [List.mem_cons, Ne.symm he, false_or]

theorem settingsFrom_of_setsUp (h : SetsUp l speed mode t (.ok ())) (hd : d ∈ l) :
    settingsFrom d (some c) t = some ⟨some mode.bits, some speed⟩ := by
  obtain ⟨_, ht⟩ | ht := h.ends
  · rw [← settingsFrom_calls, ht, settingsFrom_flatMap_setUp, if_pos hd]
  · exact absurd ht nofun

/-- Other devices are told nothing. -/
theorem SetsUp.untouched {r : Except Error PUnit} (h : SetsUp l speed mode t r) (hd : d ∉ l) :
    ∀ q ∈ requests t, touches d q = false := by
  intro q hq
  obtain ⟨e, he, rfl | rfl⟩ := h.asked q hq
  · exact decide_eq_false fun hed ↦ hd (hed ▸ he)
  · exact decide_eq_false fun hed ↦ hd (hed ▸ he)

/-! ## Coherence -/

/-- What the bus has, as the kernel is to be told. -/
def Core.stored (s : Core) : Settings := ⟨some s.mode.bits, some s.speed⟩

/-- Whether the kernel was told what the bus has, of every device that is open. -/
def Coherent (s : Core) (past : Trace interface) : Prop :=
  ∀ d ∈ s.devices, ∀ c, settings d past = some c → c = s.stored

/-- What happened to a device that is not touched any more. -/
theorem Coherent.eq_stored (h : Coherent s past) (hd : d ∈ s.devices)
    (ht : ∀ q ∈ requests t, touches d q = false)
    (hc : settingsFrom d (settings d past) t = some c) : c = s.stored := by
  rw [settingsFrom_of_untouched ht] at hc
  exact h d hd c hc

/-- Nothing changes if no device is touched. -/
theorem Coherent.of_untouched (h : Coherent s past)
    (ht : ∀ d, ∀ q ∈ requests t, touches d q = false) : Coherent s (past ++ t) := by
  intro d hd c hc
  rw [settings_append] at hc
  exact h.eq_stored hd (ht d) hc

theorem settingsFrom_opened {path : String} {fd : Descriptor} :
    settingsFrom d told (.asked (.openNode path) (some fd) :: t) =
      settingsFrom d (if ⟨fd⟩ = d then some {} else told) t := rfl

theorem settingsFrom_closed {fd : Descriptor} :
    settingsFrom d told (.asked (.close fd) () :: t) =
      settingsFrom d (if ⟨fd⟩ = d then none else told) t := rfl

/-- **A device that is opened** is told what the bus has. -/
theorem settings_of_opened {chipSelect : UInt32} (h : (openAt chipSelect s).Runs t (.ok d, s')) :
    settings d (past ++ t) = some s.stored := by
  obtain ⟨_, hr, _⟩ | ⟨_, _, _, _, hr, _⟩ | ⟨fd, u, hu, rfl, hr, _⟩ := runs_openAt h
  · exact absurd hr nofun
  · exact absurd hr nofun
  · obtain rfl := Except.ok.inj hr
    rw [settings_append, settingsFrom_opened, if_pos rfl]
    exact settingsFrom_of_setsUp hu (List.mem_singleton_self _)

theorem coherent_of_openAt {chipSelect : UInt32} {r : Except Error DeviceHandle}
    (hs : Coherent s past) (h : (openAt chipSelect s).Runs t (r, s')) :
    Coherent s' (past ++ t) := by
  intro d hd c hc
  obtain ⟨rfl, rfl, rfl⟩ | ⟨fd, u, hu, rfl, rfl, rfl⟩ | ⟨fd, u, hu, rfl, rfl, rfl⟩ := runs_openAt h
  · rw [settings_append] at hc
    exact hs d hd c hc
  · rw [settings_append, settingsFrom_opened] at hc
    by_cases he : (⟨fd⟩ : DeviceHandle) = d
    · -- The descriptor is closed again, and nothing is told about it any more.
      rw [settingsFrom_append, settingsFrom_closed, if_pos he] at hc
      exact absurd hc nofun
    · rw [if_neg he] at hc
      refine hs.eq_stored hd ?_ hc
      rw [requests_append]
      refine List.forall_mem_append.2 ⟨hu.untouched (mt List.mem_singleton.1 (Ne.symm he)), ?_⟩
      exact List.forall_mem_singleton.2 (decide_eq_false he)
  · by_cases he : (⟨fd⟩ : DeviceHandle) = d
    · subst he
      rw [settings_of_opened h] at hc
      exact (Option.some.inj hc).symm
    · rw [settings_append, settingsFrom_opened, if_neg he] at hc
      have hd' : d ∈ s.devices := (mem_insertDevice.1 hd).resolve_left (Ne.symm he)
      exact hs.eq_stored hd' (hu.untouched (mt List.mem_singleton.1 (Ne.symm he))) hc

theorem coherent_of_close {device : DeviceHandle} {r : Except Error Unit} (hs : Coherent s past)
    (h : (close device s).Runs t (r, s')) : Coherent s' (past ++ t) := by
  obtain ⟨_, rfl, _, rfl⟩ | ⟨_, rfl, _, rfl⟩ := runs_close h
  · rwa [List.append_nil]
  · intro d hd c hc
    rw [settings_append, settingsFrom_closed] at hc
    by_cases he : (⟨device.raw⟩ : DeviceHandle) = d
    · rw [if_pos he] at hc
      exact absurd hc nofun
    · rw [if_neg he] at hc
      exact hs d (List.mem_of_mem_erase hd) c hc

theorem coherent_of_transfer {device : DeviceHandle} {tx : Option Bytes} {rx : Option Nat}
    {r : Except Error Received} (hs : Coherent s past)
    (h : (transfer device tx rx s).Runs t (r, s')) : Coherent s' (past ++ t) := by
  obtain ⟨rfl, ht⟩ := runs_transfer h
  refine hs.of_untouched fun d ↦ ?_
  rw [← Program.requests_calls]
  obtain ⟨_, rfl, _⟩ | ⟨_, ht | ⟨_, _, _, ht⟩⟩ := ht
  · exact nofun
  · rw [ht]
    exact nofun
  · rw [ht]
    exact List.forall_mem_singleton.2 rfl

/-- **A change that succeeds** tells every open device both values, whatever it was told before. -/
theorem coherent_of_setsUp {order : Order l.length} {r : Except Error PUnit}
    (h : SetsUp (Order.arrange l order) speed mode t r) (hr : r ≠ .error .ioError)
    (hl : s.devices = l) (hs : s.stored = ⟨some mode.bits, some speed⟩) :
    Coherent s (past ++ .asked (.order l.length) order :: t) := by
  obtain ⟨rfl, _⟩ | hio := h.ends
  · intro d hd c hc
    have hm : d ∈ Order.arrange l order := (Order.arrange_perm l order).mem_iff.2 (hl ▸ hd)
    let w : Trace interface := .asked (.order l.length) order :: t
    have hstill : ∀ q ∈ requests w, q.moves = false := List.forall_mem_cons.2 ⟨rfl, h.still⟩
    have hsome := congrArg Option.isSome hc
    rw [isSome_settings_append hstill] at hsome
    obtain ⟨c₀, hc₀⟩ := Option.isSome_iff_exists.1 hsome
    rw [settings_append, hc₀] at hc
    have hc' : settingsFrom d (some c₀) t = some c := hc
    rw [settingsFrom_of_setsUp h hm] at hc'
    rw [hs]
    exact (Option.some.inj hc').symm
  · exact absurd hio hr

/-! ## Through all uses -/

/-- Whether a deed that changes the mode or the speed succeeded.  A value that is refused for what
it is changes nothing. -/
def changed? : Deed BusAccess.Spi.methods → Option Bool
  | .method (.setSpeed _) (.ok _) => some true
  | .method (.setSpeed _) (.error .invalidArgument) => none
  | .method (.setSpeed _) (.error _) => some false
  | .method (.setMode _) (.ok _) => some true
  | .method (.setMode _) (.error .invalidArgument) => none
  | .method (.setMode _) (.error _) => some false
  | _ => none

/-- Whether the last change succeeded, if there was one. -/
def Settled (ds : List (Deed BusAccess.Spi.methods)) : Prop :=
  (ds.filterMap changed?).getLast? ≠ some false

instance (ds : List (Deed BusAccess.Spi.methods)) : Decidable (Settled ds) :=
  inferInstanceAs (Decidable (_ ≠ _))

variable {ds : List (Deed BusAccess.Spi.methods)} {x : Deed BusAccess.Spi.methods}

theorem settled_of_none (hx : changed? x = none) (h : Settled (ds ++ [x])) : Settled ds := by
  rwa [Settled, List.filterMap_append, List.filterMap_cons_none hx, List.filterMap_nil,
    List.append_nil] at h

theorem not_settled (hx : changed? x = some false) : ¬ Settled (ds ++ [x]) := by
  rw [Settled, List.filterMap_append, List.filterMap_cons_some hx, List.filterMap_nil,
    List.getLast?_concat]
  exact fun h ↦ h rfl

/-- What is known of a bus after some deeds. -/
def Standing (past : Trace interface) (ds : List (Deed BusAccess.Spi.methods)) (b : Bus Core) :
    Prop :=
  ∀ s, b.core = some s → Settled ds → Coherent s past

theorem standing_new {backend : String} (hs : s.devices = []) :
    Standing [] [] (.new backend s) := by
  rintro _ ⟨⟩ _ d hd
  rw [hs] at hd
  exact absurd hd List.not_mem_nil

/-- **Every deed** keeps it up that the devices are coherent if the last change succeeded. -/
theorem standing_after_act {b b' : Bus Core} {use : Use BusAccess.Spi.methods}
    (hb : Standing past ds b) (h : (Bus.act table use b).Runs t (x, b')) :
    Standing (past ++ t) (ds ++ [x]) b' := by
  cases hs : b.core with
  | none =>
    obtain ⟨rfl, _⟩ := Bus.runs_act_gone hs h
    intro s hs'
    rw [hs] at hs'
    exact absurd hs' nofun
  | some s =>
    have hcoherent (hx : changed? x = none) (hset : Settled (ds ++ [x])) : Coherent s past :=
      hb s hs (settled_of_none hx hset)
    cases use with
    | release =>
      obtain ⟨r, rfl, h₁⟩ := Bus.runs_act_release h
      obtain ⟨_, _, _, _, rfl⟩ := Bus.runs_release hs h₁
      exact nofun
    | method m =>
      obtain ⟨r, rfl, h₁⟩ := Bus.runs_act_method h
      cases m with
      | openAt chipSelect =>
        obtain ⟨s', h₄, rfl⟩ := Bus.runs_call hs h₁
        rintro _ ⟨⟩ hset
        exact coherent_of_openAt (hcoherent rfl hset) h₄
      | close device =>
        obtain ⟨s', h₄, rfl⟩ := Bus.runs_call hs h₁
        rintro _ ⟨⟩ hset
        exact coherent_of_close (hcoherent rfl hset) h₄
      | transfer device tx rx =>
        obtain ⟨c, r', s', hroute, h₄, rfl⟩ | ⟨rfl, rfl⟩ :=
          (BusAccess.Spi.methods.routes table (.transfer device tx rx)).runs hs h₁
        · obtain rfl := BusAccess.Spi.Method.eq_of_route_transfer hroute
          rintro _ ⟨⟩ hset
          exact coherent_of_transfer (hcoherent rfl hset) h₄
        · intro s₁ hs₁ hset
          obtain rfl := Option.some.inj (hs.symm.trans hs₁)
          rw [List.append_nil]
          exact hcoherent rfl hset
      | read device n =>
        obtain ⟨s', h₄, rfl⟩ := Bus.runs_call hs h₁
        rintro _ ⟨⟩ hset
        exact coherent_of_transfer (hcoherent rfl hset) h₄
      | write device data =>
        obtain ⟨s', h₄, rfl⟩ := Bus.runs_call hs h₁
        rintro _ ⟨⟩ hset
        exact coherent_of_transfer (hcoherent rfl hset) h₄
      | setSpeed hz =>
        obtain ⟨s', h₄, rfl⟩ := Bus.runs_call hs h₁
        rintro _ ⟨⟩ hset
        obtain ⟨_, rfl, rfl, rfl⟩ | ⟨_, rfl, order, u, rfl, hu⟩ := runs_setSpeed h₄
        · rw [List.append_nil]
          exact hcoherent rfl hset
        · exact coherent_of_setsUp hu (fun hr ↦ not_settled (by rw [hr]; rfl) hset) rfl rfl
      | setMode mode =>
        obtain ⟨s', h₄, rfl⟩ := Bus.runs_call hs h₁
        rintro _ ⟨⟩ hset
        obtain ⟨rfl, order, u, rfl, hu⟩ := runs_setMode h₄
        exact coherent_of_setsUp hu (fun hr ↦ not_settled (by rw [hr]; rfl) hset) rfl rfl

/-- Setting up devices exchanges nothing. -/
theorem SetsUp.exchange_not_mem {r : Except Error PUnit} (h : SetsUp l speed mode t r)
    {fd : Descriptor} {message : Message} : .exchange fd message ∉ requests t := by
  intro hm
  obtain ⟨_, _, hq | hq⟩ := h.asked _ hm
  · exact absurd hq nofun
  · exact absurd hq nofun

/-- **Every message** has the speed of the bus, and goes to a device that is open. -/
theorem message_of_call {call : BusAccess.Spi.Call} {r : Except Error call.Answer}
    (h : (table.call call s).Runs t (r, s')) {fd : Descriptor} {message : Message}
    (hm : .exchange fd message ∈ requests t) : message.speedHz = s.speed ∧ ⟨fd⟩ ∈ s.devices := by
  cases call with
  | openAt chipSelect =>
    obtain ⟨rfl, _⟩ | ⟨_, u, hu, rfl, _⟩ | ⟨_, u, hu, rfl, _⟩ := runs_openAt h
    · exact absurd (List.mem_singleton.1 hm) nofun
    · obtain hm | hm := List.mem_cons.1 hm
      · exact absurd hm nofun
      · rw [requests_append] at hm
        obtain hm | hm := List.mem_append.1 hm
        · exact absurd hm hu.exchange_not_mem
        · exact absurd (List.mem_singleton.1 hm) nofun
    · obtain hm | hm := List.mem_cons.1 hm
      · exact absurd hm nofun
      · exact absurd hm hu.exchange_not_mem
  | transfer device tx rx =>
    obtain ⟨_, ⟨_, rfl, _⟩ | ⟨hd, ht | ⟨_, _, hspeed, ht⟩⟩⟩ := runs_transfer h
    · exact absurd hm List.not_mem_nil
    · rw [← Program.requests_calls, ht] at hm
      exact absurd hm List.not_mem_nil
    · rw [← Program.requests_calls, ht] at hm
      obtain ⟨rfl, rfl⟩ := Request.exchange.inj (List.mem_singleton.1 hm)
      exact ⟨hspeed, hd⟩
  | close device =>
    obtain ⟨_, rfl, _⟩ | ⟨_, rfl, _⟩ := runs_close h
    · exact absurd hm List.not_mem_nil
    · exact absurd (List.mem_singleton.1 hm) nofun
  | setSpeed hz =>
    obtain ⟨_, rfl, _⟩ | ⟨_, _, order, u, rfl, hu⟩ := runs_setSpeed h
    · exact absurd hm List.not_mem_nil
    · obtain hm | hm := List.mem_cons.1 hm
      · exact absurd hm nofun
      · exact absurd hm hu.exchange_not_mem
  | setMode mode =>
    obtain ⟨_, order, u, rfl, hu⟩ := runs_setMode h
    obtain hm | hm := List.mem_cons.1 hm
    · exact absurd hm nofun
    · exact absurd hm hu.exchange_not_mem

/-- **Devices are set as the bus says.**  After any uses of a new bus, whatever the kernel grants
and refuses and in whatever order devices are gone through: if the last change of mode or speed
succeeded, or there was none, the kernel was told last, of every device that is open, the mode and
the speed that the bus has.  Whether or not it succeeded, every message has the speed of the bus, and
a device that is opened is told its mode and speed at once. -/
theorem settled_coherent {roots : Roots} {params : BusAccess.Spi.Params}
    {made trace : Trace interface} {b₀ b : Bus Core} {us : List (Use BusAccess.Spi.methods)}
    {ds : List (Deed BusAccess.Spi.methods)} (hc : (create roots params).Runs made (.ok b₀))
    (h : (Bus.acts (M := BusAccess.Spi.methods) table us b₀).Runs trace (ds, b)) {s : Core}
    (hs : b.core = some s) :
    (Settled ds → ∀ d ∈ s.devices,
        (∀ c, settings d trace = some c → c = ⟨some s.mode.bits, some s.speed⟩) ∧
        (Fresh trace → settings d trace = some ⟨some s.mode.bits, some s.speed⟩)) ∧
      (∀ m t r b', (BusAccess.Spi.methods.perform table m b).Runs t (r, b') → ∀ fd message,
        .exchange fd message ∈ requests t → message.speedHz = s.speed ∧ ⟨fd⟩ ∈ s.devices) ∧
      ∀ chipSelect t d b', (Bus.call table (.openAt chipSelect) b).Runs t (.ok d, b') →
        settings d (trace ++ t) = some ⟨some s.mode.bits, some s.speed⟩ := by
  have hagrees : descriptors.Agrees Core.devices (fun _ ↦ True) [] b₀ :=
    Port.agrees_of_create (p := .spi) hc
  obtain ⟨busnum, rfl⟩ := runs_create hc
  have hb : Standing ([] ++ trace) ([] ++ ds) b := Bus.acts_trace_induction
    (P := Standing) (fun hb h ↦ standing_after_act hb h) [] (standing_new rfl) h
  refine ⟨fun hset d hd ↦ ?_, fun m t r b' hr fd message hm ↦ ?_, fun chipSelect t d b' hr ↦ ?_⟩
  · have hcoherent : Coherent s trace := hb s hs hset
    refine ⟨hcoherent d hd, fun hf ↦ ?_⟩
    have hout := (kept.agrees hagrees (Bus.uses_of_acts h) hf).balanced
    rw [Bus.held_of_core hs] at hout
    obtain ⟨c, hc⟩ := Option.isSome_iff_exists.1 (isSome_settings.2 (hout.isOut_iff.2 hd))
    rw [hc, hcoherent d hd c hc]
    rfl
  · obtain ⟨c, r', s', _, h₁, rfl⟩ | ⟨rfl, _⟩ := (BusAccess.Spi.methods.routes table m).runs hs hr
    · exact message_of_call h₁ hm
    · exact absurd hm List.not_mem_nil
  · obtain ⟨s', h₁, _⟩ := Bus.runs_call hs hr
    exact settings_of_opened h₁

/-- The speed is changed for the later of two devices only, a third one is opened, and changing the
mode brings all three together. -/
theorem settled_coherent_again :
    let params : BusAccess.Spi.Params := {}
    let made : Trace interface := [.asked (.list "/dev") (some ["spidev0.0"]),
      .asked .reserve true, .reported (.debug "linuxdev spi bus created")]
    let core : Core := { busnum := 0, directory := "/dev", speed := 1000000, mode := .mode0 }
    let reversed : Order 2 := ⟨[1, 0], by decide⟩
    let trace : Trace interface := [.asked (.openNode (nodePath "/dev" 0 0)) (some 3),
      .asked (.setMode 3 0) true, .asked (.setMaxSpeed 3 1000000) true,
      .asked (.openNode (nodePath "/dev" 0 1)) (some 4), .asked (.setMode 4 0) true,
      .asked (.setMaxSpeed 4 1000000) true, .asked (.order 2) reversed, .asked (.setMode 4 0) true,
      .asked (.setMaxSpeed 4 500000) true, .asked (.setMode 3 0) true,
      .asked (.setMaxSpeed 3 500000) false,
      .reported (.error "ioctl SPI_IOC_WR_MAX_SPEED_HZ failed"),
      .asked (.openNode (nodePath "/dev" 0 2)) (some 5), .asked (.setMode 5 0) true,
      .asked (.setMaxSpeed 5 500000) true, .asked (.order 3) (.ascending 3),
      .asked (.setMode 3 3) true, .asked (.setMaxSpeed 3 500000) true, .asked (.setMode 4 3) true,
      .asked (.setMaxSpeed 4 500000) true, .asked (.setMode 5 3) true,
      .asked (.setMaxSpeed 5 500000) true]
    let us : List (Use BusAccess.Spi.methods) := [.method (.openAt 0), .method (.openAt 1),
      .method (.setSpeed 500000), .method (.openAt 2), .method (.setMode .mode3)]
    let ds : List (Deed BusAccess.Spi.methods) := [.method (.openAt 0) (.ok ⟨3⟩),
      .method (.openAt 1) (.ok ⟨4⟩), .method (.setSpeed 500000) (.error .ioError),
      .method (.openAt 2) (.ok ⟨5⟩), .method (.setMode .mode3) (.ok ())]
    let s : Core := { core with speed := 500000, mode := .mode3, devices := [⟨3⟩, ⟨4⟩, ⟨5⟩] }
    let b : Bus Core := { backend := name, core := some s, openDevices := 3 }
    (create {} params).Runs made (.ok (.new name core)) ∧
      (Bus.acts (M := BusAccess.Spi.methods) table us (.new name core)).Runs trace (ds, b) ∧
      Settled ds ∧ Fresh trace ∧
      ∀ d ∈ s.devices, settings d trace = some ⟨some 3, some 500000⟩ := by
  intro params made core reversed trace us ds s b
  have hc : (create {} params).Runs made (.ok (.new name core)) :=
    @create_runs {} params 0 ["spidev0.0"] rfl (by decide)
  have h : (Bus.acts (M := BusAccess.Spi.methods) table us (.new name core)).Runs trace (ds, b) :=
    .ask (.ask (.ask (.ask (.ask (.ask (.ask (.ask (.ask (.ask (.ask (.report
      (.ask (.ask (.ask (.ask (.ask (.ask (.ask (.ask (.ask (.ask (.done _))))))))))))))))))))))
  have hset : Settled ds := by decide
  have hf : Fresh trace := by decide
  obtain ⟨hcoherent, _⟩ := settled_coherent hc h rfl
  exact ⟨hc, h, hset, hf, fun d hd ↦ (hcoherent hset d hd).2 hf⟩

end BusAccess.Node.Spi
