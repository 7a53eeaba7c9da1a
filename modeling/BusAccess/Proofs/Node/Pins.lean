import BusAccess.Proofs.Book
import BusAccess.Proofs.Node.Creation
import BusAccess.Proofs.Node.Devices
import BusAccess.Proofs.Uri.Numeral

/-!
# Pins that are claimed

A pin is claimed by writing its number to one file and given back by writing it to another one, and
either write may fail without anybody minding.  So it cannot be known whether a pin *is* claimed.
What can be known is what was attempted, and `controls` is the book on that: an attempt to claim a
pin is an entry, and one to give it back is another.

A pin is given back in three places: when its direction cannot be set while it is opened, when it is
closed, and when the bus is released.  Each call has one of the effects that a book knows
(`effect_of_call`), so attempts to claim a pin and attempts to give it back take turns, whatever is
refused in between (`claims_balanced`).

Two things come in with the files.  Numbers have to be told apart by what is written
(`numeral_inj`), and an attribute of a pin must not be taken for a control file
(`attribute_ne_control`).
-/

set_option autoImplicit false

namespace BusAccess.Node.Gpio

open BusAccess.Action
open BusAccess.Gpio (PinMode PinValue)
open Program (Trace Step calls calls_append)

variable {s s' : Core} {t : Trace interface} {directory : String} {pin p : UInt32}

/-! ## What is written, and where -/

theorem toList_loop (bytes : ByteArray) (i : Nat) (r : List UInt8) :
    ByteArray.toList.loop bytes i r = r.reverse ++ bytes.data.toList.drop i := by
  induction i, r using ByteArray.toList.loop.induct bytes with
  | case1 i r hi ih =>
    have hlt : i < bytes.data.toList.length := by simpa using hi
    have hget : bytes.get! i = bytes.data.toList[i] := by
      rw [Array.getElem_toList]
      exact getElem!_pos bytes.data i hlt
    rw [ByteArray.toList.loop, if_pos hi, ih, List.drop_eq_getElem_cons hlt, hget,
      List.reverse_cons, List.append_assoc, List.singleton_append]
  | case2 i r hi =>
    have hle : bytes.data.toList.length ≤ i := by simpa using hi
    rw [ByteArray.toList.loop, if_neg hi, List.drop_eq_nil_of_le hle, List.append_nil]

/-- Different texts make different files. -/
theorem fileBytes_inj {a b : String} : fileBytes a = fileBytes b ↔ a = b := by
  refine ⟨fun h ↦ ?_, congrArg fileBytes⟩
  rw [fileBytes, fileBytes, ByteArray.toList, ByteArray.toList, toList_loop, toList_loop] at h
  exact String.toByteArray_inj.1 (ByteArray.ext (Array.ext' h))

/-- Different pins are written differently. -/
theorem numeral_inj : fileBytes (toString pin.toNat) = fileBytes (toString p.toNat) ↔ pin = p := by
  refine ⟨fun h ↦ ?_, fun h ↦ by rw [h]⟩
  have hdigits : (toString pin.toNat).toList = (toString p.toNat).toList :=
    congrArg String.toList (fileBytes_inj.1 h)
  simp only [Nat.toString_eq_repr, Nat.toList_repr] at hdigits
  exact UInt32.toNat_inj.1 (Uri.toDigits_inj.1 hdigits)

/-- What can be attempted with a pin. -/
inductive Control where
  | claim
  | giveBack
  deriving DecidableEq, Repr

/-- The file to write the number of a pin to. -/
def Control.file : Control → String
  | claim => "export"
  | giveBack => "unexport"

/-- An attempt, and whether it was granted. -/
def Control.step (w : Control) (directory : String) (pin : UInt32) (granted : Bool) :
    Step interface :=
  .asked (.writeFile (inDirectory directory w.file) (fileBytes (toString pin.toNat))) granted

/-- Writing an attribute of a pin, and whether it was granted. -/
def attributeStep (directory : String) (pin : UInt32) (file value : String) (granted : Bool) :
    Step interface :=
  .asked (.writeFile (inDirectory (pinDirectory directory pin) file) (fileBytes value)) granted

/-- A number ends in a digit, so a slash goes behind the directory of a pin. -/
theorem separator_pinDirectory : separator (pinDirectory directory pin) = "/" := by
  have hne : Nat.toDigits 10 pin.toNat ≠ [] := Nat.toDigits_ne_nil
  have hdigit : ((Nat.toDigits 10 pin.toNat).getLast hne).isDigit = true :=
    Nat.isDigit_of_mem_toDigits (by decide) (by decide) (List.getLast_mem hne)
  refine separator_of_getLast? (c := (Nat.toDigits 10 pin.toNat).getLast hne) ?_ fun hslash ↦ ?_
  · simp only [pinDirectory, inDirectory, String.toList_append, Nat.toString_eq_repr,
      Nat.toList_repr, List.getLast?_append, List.getLast?_eq_some_getLast hne, Option.some_or]
  · rw [hslash] at hdigit
    exact absurd hdigit (by decide)

theorem Control.file_inj {v w : Control} : v.file = w.file ↔ v = w := by
  cases v <;> cases w <;> decide

/-- No attribute of a pin is a control file. -/
theorem attribute_ne_control {file : String} {w : Control} :
    inDirectory (pinDirectory directory pin) file ≠ inDirectory directory w.file := by
  intro h
  rw [inDirectory, separator_pinDirectory, pinDirectory, inDirectory, inDirectory] at h
  simp only [String.append_assoc, String.append_right_inj] at h
  have hg : w.file.toList.head? = some 'g' := by
    rw [← h, String.toList_append]
    rfl
  cases w <;> exact absurd hg (by decide)

/-! ## The book -/

/-- What a step attempts with a pin. -/
def control? (directory : String) (pin : UInt32) : Step interface → Option Control
  | .asked (.writeFile path data) _ =>
    if data = fileBytes (toString pin.toNat) then
      if path = inDirectory directory Control.claim.file then some .claim
      else if path = inDirectory directory Control.giveBack.file then some .giveBack
      else none
    else none
  | _ => none

/-- The book on what is attempted in a directory. -/
def controls (directory : String) : Book interface UInt32 Control where
  entry? := control? directory
  out := .claim
  back := .giveBack
  out_ne_back := nofun
  entry?_reported _ _ := rfl

@[simp] theorem entries_control {w : Control} {granted : Bool} :
    (controls directory).entries p (w.step directory pin granted :: t) =
      (if pin = p then [w] else []) ++ (controls directory).entries p t := by
  rw [Book.entries_cons]
  have hw : control? directory p (w.step directory pin granted) =
      if pin = p then some w else none := by
    simp only [Control.step, control?, numeral_inj, inDirectory_inj, Control.file_inj]
    cases w <;> rfl
  show (control? directory p (w.step directory pin granted)).toList ++ _ = _
  rw [hw]
  split <;> rfl

@[simp] theorem entries_attribute {file value : String} {granted : Bool} :
    (controls directory).entries p (attributeStep directory pin file value granted :: t) =
      (controls directory).entries p t := by
  rw [Book.entries_cons]
  have hw : control? directory p (attributeStep directory pin file value granted) = none := by
    simp only [attributeStep, control?, if_neg attribute_ne_control, ite_self]
  show (control? directory p (attributeStep directory pin file value granted)).toList ++ _ = _
  rw [hw]
  rfl

/-! ## Runs of the operations -/

/-- The numbers of the pins that are open. -/
def Core.numbers (s : Core) : List UInt32 := s.pins.map Prod.fst

/-- The open pin that a handle names, with its mode, if there is one. -/
def named? (s : Core) (device : DeviceHandle) : Option (UInt32 × PinMode) :=
  device.unsigned?.bind fun pin ↦ s.pins.find? fun p ↦ p.1 == pin

theorem unsigned?_of_named? {device : DeviceHandle} {mode : PinMode}
    (h : named? s device = some (pin, mode)) : device.unsigned? = some pin ∧ pin ∈ s.numbers := by
  obtain ⟨p, hu, hf⟩ := Option.bind_eq_some_iff.1 h
  have hp : (pin == p) = true := by simpa using List.find?_some hf
  rw [hu, ← beq_iff_eq.1 hp]
  exact ⟨rfl, List.mem_map_of_mem (List.mem_of_find?_eq_some hf)⟩

theorem any_eq_true_iff : (s.pins.any fun q ↦ q.1 == pin) = true ↔ pin ∈ s.numbers := by
  simp only [List.any_eq_true, beq_iff_eq, Core.numbers, List.mem_map]

theorem runs_pinOf_bind {β : Type} {device : DeviceHandle}
    {f : UInt32 × PinMode → Action interface Core β} {r : Except Error β} :
    ((pinOf device >>= f) s).Runs t (r, s') ↔
      (∃ q, named? s device = some q ∧ (f q s).Runs t (r, s')) ∨
        named? s device = none ∧ t = [] ∧ r = .error .invalidHandle ∧ s' = s :=
  runs_demand_bind

/-- A handle that names no open pin is refused at once. -/
theorem pinOf_bind_of_none {β : Type} {device : DeviceHandle}
    {f : UInt32 × PinMode → Action interface Core β} (hd : named? s device = none) :
    (pinOf device >>= f) s = .done (.error .invalidHandle, s) := by
  show (Action.demand (named? s device) .invalidHandle >>= f) s = _
  rw [hd]
  rfl

theorem runs_control {w : Control} {r : Except Error Unit}
    (h : (control w.file pin s).Runs t (r, s')) :
    r = .ok () ∧ s' = s ∧ ∃ granted, calls t = [w.step s.directory pin granted] := by
  rw [control] at h
  obtain ⟨granted, u, rfl, h₁⟩ := runs_ask_bind.1 (runs_get_bind.1 h)
  cases granted with
  | true =>
    obtain ⟨rfl, rfl, rfl⟩ := runs_pure.1 h₁
    exact ⟨rfl, rfl, _, rfl⟩
  | false =>
    obtain ⟨rfl, rfl, rfl⟩ := runs_report.1 h₁
    exact ⟨rfl, rfl, _, rfl⟩

theorem runs_control_bind {β : Type} {w : Control} {f : Unit → Action interface Core β}
    {r : Except Error β} (h : ((control w.file pin >>= f) s).Runs t (r, s')) :
    ∃ granted u, calls t = w.step s.directory pin granted :: calls u ∧
      (f () s).Runs u (r, s') := by
  obtain ⟨t₁, _, _, t₂, h₁, h₂, rfl⟩ := runs_bind_of_ok (fun hu ↦ ⟨_, (runs_control hu).1⟩) h
  obtain ⟨_, rfl, granted, ht₁⟩ := runs_control h₁
  refine ⟨granted, t₂, ?_, h₂⟩
  rw [calls_append, ht₁, List.singleton_append]

theorem runs_writeAttribute {file value : String} {r : Except Error Unit}
    (h : (writeAttribute pin file value s).Runs t (r, s')) :
    s' = s ∧ ∃ granted, calls t = [attributeStep s.directory pin file value granted] ∧
      r = if granted then .ok () else .error .ioError := by
  rw [writeAttribute] at h
  obtain ⟨granted, u, rfl, h₁⟩ := runs_ask_bind.1 (runs_get_bind.1 h)
  cases granted with
  | true =>
    obtain ⟨rfl, rfl, rfl⟩ := runs_pure.1 h₁
    exact ⟨rfl, _, rfl, rfl⟩
  | false =>
    obtain ⟨v, rfl, h₂⟩ := runs_report_bind.1 h₁
    obtain ⟨rfl, rfl, rfl⟩ := runs_throw.1 h₂
    exact ⟨rfl, _, rfl, rfl⟩

theorem runs_direction {mode : PinMode} {r : Except Error String}
    (h : (direction mode s).Runs t (r, s')) : (∃ value, r = .ok value) ∧ s' = s ∧ calls t = [] := by
  cases mode with
  | input =>
    obtain ⟨rfl, rfl, rfl⟩ := runs_pure.1 h
    exact ⟨⟨_, rfl⟩, rfl, rfl⟩
  | output =>
    obtain ⟨rfl, rfl, rfl⟩ := runs_pure.1 h
    exact ⟨⟨_, rfl⟩, rfl, rfl⟩
  | inputPullUp =>
    obtain ⟨u, rfl, h₁⟩ := runs_report_bind.1 h
    obtain ⟨rfl, rfl, rfl⟩ := runs_pure.1 h₁
    exact ⟨⟨_, rfl⟩, rfl, rfl⟩
  | inputPullDown =>
    obtain ⟨u, rfl, h₁⟩ := runs_report_bind.1 h
    obtain ⟨rfl, rfl, rfl⟩ := runs_pure.1 h₁
    exact ⟨⟨_, rfl⟩, rfl, rfl⟩

theorem runs_direction_bind {β : Type} {mode : PinMode} {f : String → Action interface Core β}
    {r : Except Error β} (h : ((direction mode >>= f) s).Runs t (r, s')) :
    ∃ value u, calls t = calls u ∧ (f value s).Runs u (r, s') := by
  obtain ⟨t₁, value, _, t₂, h₁, h₂, rfl⟩ := runs_bind_of_ok (fun hu ↦ (runs_direction hu).1) h
  obtain ⟨_, rfl, ht₁⟩ := runs_direction h₁
  refine ⟨value, t₂, ?_, h₂⟩
  rw [calls_append, ht₁, List.nil_append]

theorem openPin_of_none {mode : PinMode} (hp : DeviceHandle.ofUnsigned? pin = none) :
    openPin pin mode s = .done (.error .invalidArgument, s) := by
  rw [openPin, hp]
  rfl

theorem openPin_of_mem {mode : PinMode} (hp : DeviceHandle.ofUnsigned? pin ≠ none)
    (hm : pin ∈ s.numbers) : openPin pin mode s = .done (.error .busy, s) := by
  obtain ⟨device, hd⟩ := Option.ne_none_iff_exists'.1 hp
  rw [openPin, hd]
  show (if (s.pins.any fun q ↦ q.1 == pin) = true then _ else _ : Action interface Core _) s = _
  rw [if_pos (any_eq_true_iff.2 hm)]
  rfl

/-- **Opening a pin** is refused for its number or because it is open, is undone because it does
not take its direction, or puts the pin into the table. -/
theorem runs_openPin {mode : PinMode} {r : Except Error DeviceHandle}
    (h : (openPin pin mode s).Runs t (r, s')) :
    (DeviceHandle.ofUnsigned? pin = none ∧ t = [] ∧ r = .error .invalidArgument ∧ s' = s) ∨
      (pin ∈ s.numbers ∧ t = [] ∧ r = .error .busy ∧ s' = s) ∨
      (∃ g₁ g₂ value, pin ∉ s.numbers ∧
        calls t = [Control.claim.step s.directory pin g₁,
          attributeStep s.directory pin "direction" value false,
          Control.giveBack.step s.directory pin g₂] ∧ r = .error .ioError ∧ s' = s) ∨
      ∃ device g₁ value, DeviceHandle.ofUnsigned? pin = some device ∧ pin ∉ s.numbers ∧
        calls t = [Control.claim.step s.directory pin g₁,
          attributeStep s.directory pin "direction" value true] ∧ r = .ok device ∧
        s' = { s with pins := s.pins ++ [(pin, mode)] } := by
  rw [openPin] at h
  obtain ⟨device, hd, h₁⟩ | ⟨hd, rfl, rfl, rfl⟩ := runs_demand_bind.1 h
  · have h₂ := runs_get_bind.1 h₁
    split at h₂
    case isTrue hp => exact .inr (.inl ⟨any_eq_true_iff.1 hp, runs_throw_bind.1 h₂⟩)
    case isFalse hp =>
      have hn : pin ∉ s.numbers := mt any_eq_true_iff.2 hp
      obtain ⟨g₁, u, ht, h₃⟩ := runs_control_bind (w := .claim) h₂
      obtain ⟨value, v, hu, h₄⟩ := runs_direction_bind h₃
      obtain ⟨w₁, result, _, w₂, h₅, h₆, rfl⟩ := runs_attempt_bind.1 h₄
      obtain ⟨rfl, granted, hw₁, rfl⟩ := runs_writeAttribute h₅
      rw [hu, calls_append, hw₁, List.singleton_append] at ht
      cases granted with
      | true =>
        have h₇ := runs_set_bind.1 h₆
        obtain ⟨rfl, rfl, rfl⟩ := runs_pure.1 h₇
        exact .inr (.inr (.inr ⟨device, g₁, value, hd, hn, ht, rfl, rfl⟩))
      | false =>
        obtain ⟨g₂, x, hw₂, h₇⟩ := runs_control_bind (w := .giveBack) h₆
        obtain ⟨rfl, rfl, rfl⟩ := runs_throw.1 h₇
        rw [hw₂] at ht
        exact .inr (.inr (.inl ⟨g₁, g₂, value, hn, ht, rfl, rfl⟩))
  · exact .inl ⟨hd, rfl, rfl, rfl⟩

/-- Reading the value of a pin, and what came of it. -/
def readStep (directory : String) (pin : UInt32) (reply : Option Bytes) : Step interface :=
  .asked (.readFile (inDirectory (pinDirectory directory pin) "value")) reply

theorem runs_read {device : DeviceHandle} {r : Except Error PinValue}
    (h : (read device s).Runs t (r, s')) :
    s' = s ∧ (named? s device = none ∧ t = [] ∧ r = .error .invalidHandle ∨
      ∃ pin mode reply, named? s device = some (pin, mode) ∧
        calls t = [readStep s.directory pin reply] ∧ r = match reply with
          | some content => .ok (.ofBool (content.head? == some 0x31))
          | none => .error .ioError) := by
  rw [read] at h
  obtain ⟨⟨pin, mode⟩, hd, h₁⟩ | ⟨hd, rfl, rfl, rfl⟩ := runs_pinOf_bind.1 h
  · obtain ⟨reply, u, rfl, h₂⟩ := runs_ask_bind.1 (runs_get_bind.1 h₁)
    cases reply with
    | some content =>
      obtain ⟨rfl, rfl, rfl⟩ := runs_pure.1 h₂
      exact ⟨rfl, .inr ⟨pin, mode, some content, hd, rfl, rfl⟩⟩
    | none =>
      obtain ⟨v, rfl, h₃⟩ := runs_report_bind.1 h₂
      obtain ⟨rfl, rfl, rfl⟩ := runs_throw.1 h₃
      exact ⟨rfl, .inr ⟨pin, mode, none, hd, rfl, rfl⟩⟩
  · exact ⟨rfl, .inl ⟨hd, rfl, rfl⟩⟩

theorem runs_write {device : DeviceHandle} {value : PinValue} {r : Except Error Unit}
    (h : (write device value s).Runs t (r, s')) :
    s' = s ∧ (named? s device = none ∧ t = [] ∧ r = .error .invalidHandle ∨
      ∃ pin mode, named? s device = some (pin, mode) ∧
        (mode.isOutput = false ∧ t = [] ∧ r = .error .invalidArgument ∨ ∃ granted,
          calls t = [attributeStep s.directory pin "value" (if value.toBool then "1" else "0")
            granted] ∧ r = if granted then .ok () else .error .ioError)) := by
  rw [write] at h
  obtain ⟨⟨pin, mode⟩, hd, h₁⟩ | ⟨hd, rfl, rfl, rfl⟩ := runs_pinOf_bind.1 h
  · dsimp only at h₁
    split at h₁
    case isTrue =>
      obtain ⟨rfl, granted, ht, hr⟩ := runs_writeAttribute h₁
      exact ⟨rfl, .inr ⟨pin, mode, hd, .inr ⟨granted, ht, hr⟩⟩⟩
    case isFalse hmode =>
      obtain ⟨rfl, rfl, rfl⟩ := runs_throw.1 h₁
      exact ⟨rfl, .inr ⟨pin, mode, hd, .inl ⟨Bool.not_eq_true _ ▸ hmode, rfl, rfl⟩⟩⟩
  · exact ⟨rfl, .inl ⟨hd, rfl, rfl⟩⟩

theorem runs_close {device : DeviceHandle} {r : Except Error Unit}
    (h : (close device s).Runs t (r, s')) :
    (named? s device = none ∧ t = [] ∧ r = .error .invalidHandle ∧ s' = s) ∨
      ∃ pin mode granted, named? s device = some (pin, mode) ∧
        calls t = [Control.giveBack.step s.directory pin granted] ∧ r = .ok () ∧
        s' = { s with pins := s.pins.filter fun q ↦ q.1 != pin } := by
  rw [close] at h
  obtain ⟨⟨pin, mode⟩, hd, h₁⟩ | ⟨hd, rfl, rfl, rfl⟩ := runs_pinOf_bind.1 h
  · have h₂ := runs_modify_bind.1 h₁
    obtain ⟨rfl, rfl, granted, ht⟩ := runs_control (w := .giveBack) h₂
    exact .inr ⟨pin, mode, granted, hd, ht, rfl, rfl⟩
  · exact .inl ⟨hd, rfl, rfl, rfl⟩

/-- Pins are given back one after another, whatever becomes of it. -/
theorem runs_forM_giveBack {l : List (UInt32 × PinMode)} {r : Except Error PUnit}
    (h : ((l.forM fun q ↦ control "unexport" q.1) s).Runs t (r, s')) :
    r = .ok () ∧ s' = s ∧ (controls s.directory).entries p t =
      List.replicate ((l.map Prod.fst).count p) .giveBack := by
  induction l generalizing t with
  | nil =>
    obtain ⟨rfl, rfl, rfl⟩ := runs_pure.1 h
    exact ⟨rfl, rfl, rfl⟩
  | cons q l ih =>
    obtain ⟨granted, u, ht, h₁⟩ := runs_control_bind (w := .giveBack) h
    obtain ⟨hr, hs, hu⟩ := ih h₁
    refine ⟨hr, hs, ?_⟩
    rw [← Book.entries_calls, ht, entries_control, Book.entries_calls, hu, List.map_cons,
      List.count_cons]
    by_cases hq : q.1 = p
    · rw [if_pos hq, if_pos (beq_iff_eq.2 hq), List.replicate_succ, List.singleton_append]
    · rw [if_neg hq, if_neg (mt beq_iff_eq.1 hq), List.nil_append, Nat.add_zero]

/-- **Disconnecting** gives back every pin that is open. -/
theorem entries_of_release {r : Except Error Unit} (hn : s.numbers.Nodup)
    (h : (release s).Runs t (r, s')) :
    (controls s.directory).entries p t = if p ∈ s.numbers then [.giveBack] else [] := by
  rw [release] at h
  have h₁ := runs_get_bind.1 h
  have h₂ := runs_set_bind.1 h₁
  obtain ⟨order, u, rfl, h₃⟩ := runs_walk_bind.1 h₂
  have hu := (runs_forM_giveBack (p := p) h₃).2.2
  have hperm : ((Order.arrange s.pins order).map Prod.fst).Perm s.numbers :=
    (Order.arrange_perm s.pins order).map Prod.fst
  rw [hperm.count_eq, hn.count] at hu
  refine Eq.trans ?_ (hu.trans ?_)
  · exact Book.entries_cons (controls s.directory)
  · split <;> rfl

/-! ## The effects of calls -/

/-- Whether a state is one of a controller in a directory, with pins that handles can name. -/
def Sound (directory : String) (s : Core) : Prop :=
  s.directory = directory ∧ ∀ p ∈ s.numbers, DeviceHandle.ofUnsigned? p ≠ none

theorem numbers_append {mode : PinMode} :
    Core.numbers { s with pins := s.pins ++ [(pin, mode)] } = s.numbers ++ [pin] :=
  List.map_append

theorem numbers_filter (hn : s.numbers.Nodup) :
    Core.numbers { s with pins := s.pins.filter fun q ↦ q.1 != pin } = s.numbers.erase pin := by
  rw [hn.erase_eq_filter, Core.numbers, Core.numbers, List.filter_map]
  rfl

theorem sound_of_call {c : BusAccess.Gpio.Call} {r : Except Error c.Answer}
    (hs : Sound directory s) (h : (table.call c s).Runs t (r, s')) : Sound directory s' := by
  cases c with
  | openPin pin mode =>
    obtain ⟨_, _, _, rfl⟩ | ⟨_, _, _, rfl⟩ | ⟨_, _, _, _, _, _, rfl⟩ |
      ⟨device, _, _, hd, _, _, _, rfl⟩ := runs_openPin h
    · exact hs
    · exact hs
    · exact hs
    · refine ⟨hs.1, ?_⟩
      rw [numbers_append]
      refine List.forall_mem_append.2 ⟨hs.2, List.forall_mem_singleton.2 ?_⟩
      rw [hd]
      exact nofun
  | read device =>
    obtain ⟨rfl, _⟩ := runs_read h
    exact hs
  | write device value =>
    obtain ⟨rfl, _⟩ := runs_write h
    exact hs
  | close device =>
    obtain ⟨_, _, _, rfl⟩ | ⟨pin, _, _, _, _, _, rfl⟩ := runs_close h
    · exact hs
    · refine ⟨hs.1, fun p hp ↦ hs.2 p ?_⟩
      obtain ⟨q, hq, rfl⟩ := List.mem_map.1 hp
      exact List.mem_map_of_mem (List.mem_filter.1 hq).1
  | setDriveStrength device drive =>
    obtain ⟨_, _, rfl⟩ := runs_throw.1 h
    exact hs

/-- **Every call has an effect** that keeps the book. -/
theorem effect_of_call {c : BusAccess.Gpio.Call} {r : Except Error c.Answer}
    (hn : s.numbers.Nodup) (h : (table.call c s).Runs t (r, s')) :
    (controls s.directory).Effect s.numbers t (c.role.count r) s'.numbers := by
  cases c with
  | openPin pin mode =>
    obtain ⟨_, rfl, rfl, rfl⟩ | ⟨_, rfl, rfl, rfl⟩ | ⟨g₁, g₂, value, hp, ht, rfl, rfl⟩ |
      ⟨device, g₁, value, hd, hp, ht, rfl, rfl⟩ := runs_openPin h
    · exact .idle fun _ ↦ rfl
    · exact .idle fun _ ↦ rfl
    · refine .undone hp fun j ↦ ?_
      rw [← Book.entries_calls, ht, entries_control, entries_attribute, entries_control,
        Book.entries_nil, List.append_nil]
      split <;> rfl
    · refine .opened hp ?_ fun j ↦ ?_
      · rw [numbers_append]
        exact List.perm_append_singleton pin s.numbers
      · rw [← Book.entries_calls, ht, entries_control, entries_attribute, Book.entries_nil,
          List.append_nil]
        rfl
  | read device =>
    obtain ⟨rfl, ⟨_, rfl, _⟩ | ⟨pin, mode, reply, _, ht, _⟩⟩ := runs_read h
    · exact .idle fun _ ↦ rfl
    · refine .idle fun j ↦ ?_
      rw [← Book.entries_calls, ht]
      rfl
  | write device value =>
    obtain ⟨rfl, ⟨_, rfl, _⟩ | ⟨pin, mode, _, ⟨_, rfl, _⟩ | ⟨granted, ht, _⟩⟩⟩ := runs_write h
    · exact .idle fun _ ↦ rfl
    · exact .idle fun _ ↦ rfl
    · refine .idle fun j ↦ ?_
      rw [← Book.entries_calls, ht, entries_attribute, Book.entries_nil]
  | close device =>
    obtain ⟨_, rfl, rfl, rfl⟩ | ⟨pin, mode, granted, hd, ht, rfl, rfl⟩ := runs_close h
    · exact .idle fun _ ↦ rfl
    · refine .closed (k := pin) ?_ fun j ↦ ?_
      · rw [numbers_filter hn]
        exact List.perm_cons_erase (unsigned?_of_named? hd).2
      · rw [← Book.entries_calls, ht, entries_control, Book.entries_nil, List.append_nil]
        rfl
  | setDriveStrength device drive =>
    obtain ⟨rfl, rfl, rfl⟩ := runs_throw.1 h
    exact .idle fun _ ↦ rfl

theorem kept (directory : String) :
    (controls directory).Kept table Core.numbers (fun _ ↦ True) (Sound directory) where
  left _ := trivial
  sound := sound_of_call
  call {past s c trace r s'} _ hs hb h := by
    obtain ⟨rfl, _⟩ := hs
    exact effect_of_call hb.nodup h
  release {s trace r s'} hs hn h j := by
    obtain ⟨rfl, _⟩ := hs
    exact entries_of_release hn h

/-! ## Claiming and giving back take turns -/

/-- The numbers that no handle can have are those that take more than 31 bits. -/
theorem ofUnsigned?_eq_none_iff : DeviceHandle.ofUnsigned? pin = none ↔ 0x7fffffff < pin := by
  rw [DeviceHandle.ofUnsigned?, UInt32.lt_iff_toNat_lt]
  show (if pin.toNat < 0x80000000 then _ else none) = none ↔ 0x7fffffff < pin.toNat
  split
  case isTrue hp => exact iff_of_false nofun (by omega)
  case isFalse hp => exact iff_of_true rfl (by omega)

/-- **Every pin that is claimed is given back once.**  After any uses of a new controller, whatever
files take and give, attempts to claim a pin and to give it back have taken turns, claiming first,
and the last one was to claim it just if it is in the table.  The count is the size of the table.
A pin that is open is busy, and one whose number takes more than 31 bits is refused, unless the
controller is released; neither touches a file.  When the controller is given up, every pin is given
back. -/
theorem claims_balanced {roots : Roots} {params : BusAccess.Gpio.Params}
    {made trace : Trace interface} {b₀ b : Bus Core} {us : List (Use BusAccess.Gpio.methods)}
    (hc : (create roots params).Runs made (.ok b₀))
    (h : (Bus.uses (M := BusAccess.Gpio.methods) table us b₀).Runs trace b) :
    (∀ p, ∃ n, (controls roots.gpio).entries p trace =
        (List.replicate n [.claim, .giveBack]).flatten ++
          if p ∈ b.held Core.numbers then [.claim] else []) ∧
      (b.held Core.numbers).Nodup ∧ b.openDevices = (b.held Core.numbers).length ∧
      (∀ p ∈ b.held Core.numbers, p ≤ 0x7fffffff) ∧
      (∀ p ∈ b.held Core.numbers, ∀ mode,
        Bus.call table (.openPin p mode) b = .done (.error .busy, b)) ∧
      (∀ p mode, 0x7fffffff < p → Bus.call table (.openPin p mode) b =
        .done (.error (if b.core = none then .invalidObject else .invalidArgument), b)) ∧
      ∀ u, (Bus.drop table b).Runs u () → ∀ p, ∃ n,
        (controls roots.gpio).entries p (trace ++ u) =
          (List.replicate n [.claim, .giveBack]).flatten := by
  obtain rfl := runs_create hc
  have hk := kept roots.gpio
  have hnew : Sound roots.gpio { directory := roots.gpio } :=
    ⟨rfl, fun p hp ↦ absurd hp List.not_mem_nil⟩
  have hb := hk.agrees (M := BusAccess.Gpio.methods) (Book.agrees_new hnew rfl) h trivial
  have hheld (p : UInt32) (hp : p ∈ b.held Core.numbers) :
      ∃ s, b.core = some s ∧ p ∈ s.numbers ∧ DeviceHandle.ofUnsigned? p ≠ none := by
    cases hs : b.core with
    | none =>
      rw [Bus.held_of_gone hs] at hp
      exact absurd hp List.not_mem_nil
    | some s =>
      rw [Bus.held_of_core hs] at hp
      exact ⟨s, rfl, hp, (hb.sound s hs).2 p hp⟩
  refine ⟨hb.balanced.alternates, hb.balanced.nodup, hb.count, fun p hp ↦ ?_, fun p hp mode ↦ ?_,
    fun p mode hp ↦ ?_, fun u hu p ↦ ?_⟩
  · obtain ⟨_, _, _, hd⟩ := hheld p hp
    exact UInt32.not_lt.1 (mt ofUnsigned?_eq_none_iff.2 hd)
  · obtain ⟨s, hs, hm, hd⟩ := hheld p hp
    exact Bus.call_at_once hs (openPin_of_mem hd hm) rfl
  · cases hs : b.core with
    | none =>
      rw [if_pos rfl]
      exact Bus.call_gone table _ hs
    | some s =>
      rw [if_neg (Option.some_ne_none s)]
      exact Bus.call_at_once hs (openPin_of_none (ofUnsigned?_eq_none_iff.2 hp)) rfl
  · exact ((hb.after_drop hk hu).alternates p).eq_rounds List.not_mem_nil

/-- A pin is open although claiming it was refused, another one does not take its direction, and the
first is open when the controller is given up. -/
theorem claims_balanced_despite_refusals :
    let made : Trace interface :=
      [.asked (.present (inDirectory "/sys/class/gpio" "export")) true, .asked .reserve true]
    let b₀ : Bus Core := .new name { directory := "/sys/class/gpio" }
    let us : List (Use BusAccess.Gpio.methods) := [.method (.openPin 7 .output),
      .method (.openPin 7 .input), .method (.openPin 8 .input), .method (.write ⟨7⟩ .high)]
    let trace : Trace interface := [Control.claim.step "/sys/class/gpio" 7 false,
      .reported (.debug "sysfs write ignored"),
      attributeStep "/sys/class/gpio" 7 "direction" "out" true,
      Control.claim.step "/sys/class/gpio" 8 true,
      attributeStep "/sys/class/gpio" 8 "direction" "in" false,
      .reported (.error "sysfs gpio write failed"), Control.giveBack.step "/sys/class/gpio" 8 true,
      attributeStep "/sys/class/gpio" 7 "value" "1" true]
    let s : Core := { directory := "/sys/class/gpio", pins := [(7, .output)] }
    let b : Bus Core := { backend := name, core := some s, openDevices := 1 }
    let u : Trace interface :=
      [.asked (.order 1) (.ascending 1), Control.giveBack.step "/sys/class/gpio" 7 true]
    (create {} {}).Runs made (.ok b₀) ∧
      (Bus.uses (M := BusAccess.Gpio.methods) table us b₀).Runs trace b ∧
      (Bus.drop table b).Runs u () ∧
      Bus.call table (.openPin 7 .input) b = .done (.error .busy, b) ∧
      ∀ p, ∃ n, (controls "/sys/class/gpio").entries p (trace ++ u) =
        (List.replicate n [.claim, .giveBack]).flatten := by
  intro made b₀ us trace s b u
  have hc : (create {} {}).Runs made (.ok b₀) := .ask (.ask (.done _))
  have h : (Bus.uses (M := BusAccess.Gpio.methods) table us b₀).Runs trace b :=
    .ask (.report (.ask (.ask (.ask (.report (.ask (.ask (.done _))))))))
  have hu : (Bus.drop table b).Runs u () := .ask (.ask (.done _))
  obtain ⟨_, _, _, _, hbusy, _, hdrop⟩ := claims_balanced hc h
  exact ⟨hc, h, hu, hbusy 7 (by decide) .input, hdrop u hu⟩

/-- A controller that is released no longer looks at the number. -/
theorem wide_pin_after_release :
    ∃ trace, ∃ b : Bus Core, (Bus.uses (M := BusAccess.Gpio.methods) table [.release]
        (.new name { directory := "/sys/class/gpio" })).Runs trace b ∧
      Bus.call table (.openPin 0x80000000 .input) b = .done (.error .invalidObject, b) :=
  ⟨[.asked (.order 0) (.ascending 0), .reported (.debug "bus released")],
    { backend := name, core := none }, .ask (.report (.done _)), rfl⟩

end BusAccess.Node.Gpio
