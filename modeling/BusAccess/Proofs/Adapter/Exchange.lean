import BusAccess.Adapter.I2c
import BusAccess.Proofs.Action

/-!
# What a call does on the wire

Reading and writing are the two calls that put something on the wire, and both do it in a frame.  A
frame can be cut short at any of its steps: the address cannot be sent or nobody answers to it, the
bytes cannot be sent or are not acknowledged.  `Exchange byte w` lists all the forms that come of
this, as the calls `w` that are made to the adapter; `byte` is what goes first into the frame.  Two
more forms are no frames, a start that fails and a change of the clock.

That every call is one of these, whatever the adapter answers, is `exchange_of_call`.  The
operations are opened in this module and nowhere else; those that take no traffic are settled by
equations.
-/

set_option autoImplicit false

namespace BusAccess.Adapter

open Program (Trace calls)
open BusAccess.Action

variable {s s' : Core} {t : Trace interface} {α : Type} {byte : UInt8}

/-! ## The first byte of a frame -/

/-- The first byte that a call puts into a frame: the address with the lowest bit set for a read and
clear for a write. -/
def firstByte? : I2c.Call → Option UInt8
  | .read device _ => (wireAddress? device).map (· ||| 1)
  | .write device _ => wireAddress? device
  | _ => none

/-- An address on the wire is the number of its handle, with the lowest bit clear. -/
theorem wireAddress?_eq_some {device : DeviceHandle} {address : UInt8}
    (h : wireAddress? device = some address) :
    (address.toNat : Int) = device.raw.toInt ∧ address &&& 1 = 0 := by
  rw [wireAddress?] at h
  split at h
  case isTrue hn =>
    obtain rfl := Option.some.inj h
    have hnat : (UInt8.ofNat device.raw.toInt.toNat).toNat = device.raw.toInt.toNat := by
      rw [UInt8.toNat_ofNat']
      exact Nat.mod_eq_of_lt (by omega)
    refine ⟨by omega, UInt8.toNat_inj.1 ?_⟩
    rw [UInt8.toNat_and, hnat, UInt8.toNat_one, Nat.and_one_is_mod, UInt8.toNat_zero]
    omega
  case isFalse => exact absurd h nofun

theorem or_one_and_one (address : UInt8) : (address ||| 1) &&& 1 = 1 := by
  apply UInt8.toNat_inj.1
  rw [UInt8.toNat_and, UInt8.toNat_or, UInt8.toNat_one, Nat.and_one_is_mod, Nat.or_mod_two_eq_one]
  exact .inr rfl

/-- **The lowest bit of the first byte** is set exactly for reads. -/
theorem firstByte?_odd_iff {c : I2c.Call} (h : firstByte? c = some byte) :
    byte &&& 1 = 1 ↔ ∃ device n, c = .read device n := by
  cases c with
  | read device n =>
    obtain ⟨address, _, rfl⟩ := Option.map_eq_some_iff.1 h
    exact iff_of_true (or_one_and_one address) ⟨device, n, rfl⟩
  | write device data =>
    refine iff_of_false ?_ nofun
    rw [(wireAddress?_eq_some h).2]
    decide
  | openAt _ => exact absurd h nofun
  | close _ => exact absurd h nofun
  | setFreq _ => exact absurd h nofun
  | setClockStretch _ => exact absurd h nofun

/-! ## Operations without traffic -/

theorem wireAddress?_openAt {address : UInt16} (ha : ¬ maxAddress < address) :
    wireAddress? ⟨Int32.ofNat (2 * address.toNat)⟩ ≠ none := by
  have hle : address.toNat ≤ 127 := UInt16.le_iff_toNat_le.1 (UInt16.not_lt.1 ha)
  have hint : (Int32.ofNat (2 * address.toNat)).toInt = 2 * address.toNat := by
    rw [Int32.toInt_ofNat_of_lt (by omega)]
    omega
  rw [wireAddress?, hint, if_pos (by omega)]
  exact Option.some_ne_none _

theorem openAt_eq (address : UInt16) :
    openAt address s =
      if maxAddress < address then .done (.error .invalidArgument, s)
      else .done (.ok ⟨Int32.ofNat (2 * address.toNat)⟩, s) := by
  rw [openAt]
  split <;> rfl

theorem close_of_wire {device : DeviceHandle} (hd : wireAddress? device ≠ none) :
    close device s = .done (.ok (), s) := by
  obtain ⟨a, ha⟩ := Option.ne_none_iff_exists'.1 hd
  rw [close, ha]
  rfl

section NotWire

variable {device : DeviceHandle} (hd : wireAddress? device = none)

include hd

theorem read_of_not_wire (n : Nat) : read device n s = .done (.error .invalidHandle, s) := by
  rw [read, hd]
  rfl

theorem write_of_not_wire (data : Bytes) :
    write device data s = .done (.error .invalidHandle, s) := by
  rw [write, hd]
  rfl

theorem close_of_not_wire : close device s = .done (.error .invalidHandle, s) := by
  rw [close, hd]
  rfl

end NotWire

/-! ## Runs of the parts of a frame -/

/-- **A frame** is not begun, or it is ended whatever happened in it. -/
theorem runs_framed {body : Action interface Core α} {r : Except Error α}
    (h : (framed body s).Runs t (r, s')) :
    (∃ e, t = [.asked .start (.error e)]) ∨
      ∃ u reply, (body s).Runs u (r, s') ∧
        calls t = .asked .start (.ok ()) :: (calls u ++ [.asked .stop reply]) := by
  rw [framed] at h
  obtain ⟨reply, t₁, rfl, h₁⟩ := runs_ask_bind.1 h
  obtain ⟨_, rfl, h₂⟩ | ⟨⟨e, rfl⟩, rfl, _, _⟩ := runs_require_bind.1 h₁
  · obtain ⟨u, result, s₁, t₂, hu, h₃, rfl⟩ := runs_attempt_bind.1 h₂
    obtain ⟨reply, t₃, rfl, h₄⟩ := runs_ask_bind.1 h₃
    refine .inr ⟨u, reply, ?_⟩
    rw [Program.calls_asked, Program.calls_append, Program.calls_asked]
    cases reply with
    | ok _ =>
      obtain ⟨rfl, rfl, rfl⟩ := runs_ofExcept.1 h₄
      exact ⟨hu, rfl⟩
    | error e =>
      obtain ⟨t₄, rfl, h₅⟩ := runs_report_bind.1 h₄
      obtain ⟨rfl, rfl, rfl⟩ := runs_ofExcept.1 h₅
      exact ⟨hu, rfl⟩
  · exact .inl ⟨e, rfl⟩

theorem runs_expectAck {r : Except Error Unit} (h : (expectAck s).Runs t (r, s')) :
    ∃ ack, t = [.asked .getAck ack] ∧ (r = .ok () ↔ ack = true) ∧ s' = s := by
  rw [expectAck] at h
  obtain ⟨ack, u, rfl, h₁⟩ := runs_ask_bind.1 h
  cases ack with
  | true =>
    obtain ⟨rfl, rfl, rfl⟩ := runs_pure.1 h₁
    exact ⟨true, rfl, iff_of_true rfl rfl, rfl⟩
  | false =>
    obtain ⟨rfl, rfl, rfl⟩ := runs_throw.1 h₁
    exact ⟨false, rfl, iff_of_false nofun nofun, rfl⟩

theorem runs_sendAddress {r : Except Error Unit} (h : (sendAddress byte s).Runs t (r, s')) :
    (∃ e, t = [.asked (.write [byte]) (.error e)] ∧ r ≠ .ok ()) ∨
      ∃ ack, t = [.asked (.write [byte]) (.ok ()), .asked .getAck ack] ∧
        (r = .ok () ↔ ack = true) ∧ s' = s := by
  rw [sendAddress] at h
  obtain ⟨reply, u, rfl, h₁⟩ := runs_ask_bind.1 h
  obtain ⟨_, rfl, h₂⟩ | ⟨⟨e, rfl⟩, rfl, rfl, _⟩ := runs_require_bind.1 h₁
  · obtain ⟨ack, rfl, hr, rfl⟩ := runs_expectAck h₂
    exact .inr ⟨ack, rfl, hr, rfl⟩
  · exact .inl ⟨e, rfl, nofun⟩

/-- What an address is sent for is done only if the address was acknowledged. -/
theorem runs_sendAddress_bind {f : Unit → Action interface Core α} {r : Except Error α}
    (h : ((sendAddress byte >>= f) s).Runs t (r, s')) :
    (∃ e, t = [.asked (.write [byte]) (.error e)]) ∨
      t = [.asked (.write [byte]) (.ok ()), .asked .getAck false] ∨
      ∃ u, (f () s).Runs u (r, s') ∧
        t = .asked (.write [byte]) (.ok ()) :: .asked .getAck true :: u := by
  obtain ⟨t₁, _, s₁, t₂, h₁, h₂, rfl⟩ | ⟨_, h₁, _⟩ := runs_bind.1 h
  · obtain ⟨_, _, ha⟩ | ⟨ack, rfl, ha, rfl⟩ := runs_sendAddress h₁
    · exact absurd rfl ha
    · obtain rfl := ha.1 rfl
      exact .inr (.inr ⟨t₂, h₂, rfl⟩)
  · obtain ⟨e, rfl, _⟩ | ⟨ack, rfl, ha, _⟩ := runs_sendAddress h₁
    · exact .inl ⟨e, rfl⟩
    · obtain rfl := Bool.eq_false_iff.2 (mt ha.2 nofun)
      exact .inr (.inl rfl)

theorem runs_readBytes {n : Nat} {r : Except Error Received}
    (h : (readBytes n s).Runs t (r, s')) :
    ∃ first last, t = [.asked (.read n) first, .asked .sendNacks (), .asked (.read 1) last,
      .asked .sendAcks ()] := by
  rw [readBytes] at h
  obtain ⟨first, t₁, rfl, h₁⟩ := runs_ask_bind.1 h
  obtain ⟨_, t₂, rfl, h₂⟩ := runs_ask_bind.1 h₁
  obtain ⟨last, t₃, rfl, h₃⟩ := runs_ask_bind.1 h₂
  obtain ⟨_, t₄, rfl, h₄⟩ := runs_ask_bind.1 h₃
  obtain ⟨_, _, h₅⟩ | ⟨_, rfl, _⟩ := runs_require_bind.1 h₄
  · obtain ⟨rfl, _⟩ := runs_pure.1 h₅
    exact ⟨first, last, rfl⟩
  · exact ⟨first, last, rfl⟩

theorem runs_writeBytes {data : Bytes} {r : Except Error Nat}
    (h : (writeBytes data s).Runs t (r, s')) :
    t = [] ∨ (∃ e, t = [.asked (.write data) (.error e)]) ∨
      ∃ ack, t = [.asked (.write data) (.ok ()), .asked .getAck ack] := by
  rw [writeBytes] at h
  split at h
  · exact .inl (runs_pure.1 h).1
  · obtain ⟨reply, t₁, rfl, h₁⟩ := runs_ask_bind.1 h
    obtain ⟨_, rfl, h₂⟩ | ⟨⟨e, rfl⟩, rfl, _, _⟩ := runs_require_bind.1 h₁
    · obtain ⟨t₂, _, s₁, t₃, h₃, h₄, rfl⟩ | ⟨_, h₃, _⟩ := runs_bind.1 h₂
      · obtain ⟨rfl, _⟩ := runs_pure.1 h₄
        obtain ⟨ack, rfl, _⟩ := runs_expectAck h₃
        exact .inr (.inr ⟨ack, rfl⟩)
      · obtain ⟨ack, rfl, _⟩ := runs_expectAck h₃
        exact .inr (.inr ⟨ack, rfl⟩)
    · exact .inr (.inl ⟨e, rfl⟩)

/-! ## Exchanges -/

/-- What is done with a device that acknowledged its address. -/
inductive Payload (byte : UInt8) : Trace interface → Prop
  | nothing : Payload byte []
  | unsent {data : Bytes} {e : Error} (hb : byte &&& 1 = 0) :
      Payload byte [.asked (.write data) (.error e)]
  | sent {data : Bytes} {ack : Bool} (hb : byte &&& 1 = 0) :
      Payload byte [.asked (.write data) (.ok ()), .asked .getAck ack]
  | received {n : Nat} {first last : Except Error Bytes} (hb : byte &&& 1 = 1) :
      Payload byte [.asked (.read n) first, .asked .sendNacks (), .asked (.read 1) last,
        .asked .sendAcks ()]

/-- What stands between the start and the stop of a frame. -/
inductive Body (byte : UInt8) : Trace interface → Prop
  | unsent {e : Error} : Body byte [.asked (.write [byte]) (.error e)]
  | unanswered : Body byte [.asked (.write [byte]) (.ok ()), .asked .getAck false]
  | answered {w : Trace interface} (h : Payload byte w) :
      Body byte (.asked (.write [byte]) (.ok ()) :: .asked .getAck true :: w)

/-- What a call makes of the wire, where `byte?` is the first byte of the frame if it has one. -/
inductive Exchange (byte? : Option UInt8) : Trace interface → Prop
  | nothing : Exchange byte? []
  | clock {hz : UInt32} {reply : Except Error Unit} : Exchange byte? [.asked (.setClock hz) reply]
  | unstarted {e : Error} : Exchange byte? [.asked .start (.error e)]
  | frame {byte : UInt8} {w : Trace interface} {reply : Except Error Unit} (hb : byte? = some byte)
      (h : Body byte w) :
      Exchange byte? (.asked .start (.ok ()) :: (w ++ [.asked .stop reply]))

/-- A frame is an exchange if what it is for is a payload. -/
theorem exchange_of_framed {f : Unit → Action interface Core α} {r : Except Error α}
    (hf : ∀ {u : Trace interface}, (f () s).Runs u (r, s') → calls u = u ∧ Payload byte u)
    (h : (framed (sendAddress byte >>= f) s).Runs t (r, s')) :
    Exchange (some byte) (calls t) := by
  obtain ⟨e, rfl⟩ | ⟨u, reply, hu, ht⟩ := runs_framed h
  · exact .unstarted
  · rw [ht]
    refine .frame rfl ?_
    obtain ⟨e, rfl⟩ | rfl | ⟨v, hv, rfl⟩ := runs_sendAddress_bind hu
    · exact .unsent
    · exact .unanswered
    · obtain ⟨hcalls, hp⟩ := hf hv
      rw [Program.calls_asked, Program.calls_asked, hcalls]
      exact .answered hp

theorem exchange_of_read {device : DeviceHandle} {n : Nat} {r : Except Error Received}
    (h : (read device n s).Runs t (r, s')) : Exchange (firstByte? (.read device n)) (calls t) := by
  rw [read] at h
  obtain ⟨address, ha, h₁⟩ | ⟨_, rfl, _, _⟩ := runs_demand_bind.1 h
  · rw [firstByte?, ha]
    refine exchange_of_framed (fun hu ↦ ?_) h₁
    obtain ⟨first, last, rfl⟩ := runs_readBytes hu
    exact ⟨rfl, .received (or_one_and_one address)⟩
  · exact .nothing

theorem exchange_of_write {device : DeviceHandle} {data : Bytes} {r : Except Error Nat}
    (h : (write device data s).Runs t (r, s')) :
    Exchange (firstByte? (.write device data)) (calls t) := by
  rw [write] at h
  obtain ⟨address, ha, h₁⟩ | ⟨_, rfl, _, _⟩ := runs_demand_bind.1 h
  · have heven := (wireAddress?_eq_some ha).2
    rw [firstByte?, ha]
    refine exchange_of_framed (fun hu ↦ ?_) h₁
    obtain rfl | ⟨e, rfl⟩ | ⟨ack, rfl⟩ := runs_writeBytes hu
    · exact ⟨rfl, .nothing⟩
    · exact ⟨rfl, .unsent heven⟩
    · exact ⟨rfl, .sent heven⟩
  · exact .nothing

theorem exchange_of_setFreq {hz : UInt32} {r : Except Error Unit}
    (h : (setFreq hz s).Runs t (r, s')) : Exchange none (calls t) := by
  rw [setFreq] at h
  split at h
  · obtain ⟨rfl, _⟩ := runs_throw.1 h
    exact .nothing
  · obtain ⟨reply, u, rfl, h₁⟩ := runs_ask_bind.1 h
    obtain ⟨_, rfl, h₂⟩ | ⟨_, rfl, rfl, _, _⟩ := runs_ofExcept_bind.1 h₁
    · obtain ⟨v, rfl, h₃⟩ := runs_report_bind.1 h₂
      obtain ⟨rfl, _⟩ := Program.runs_done.1 h₃
      exact .clock
    · exact .clock

/-- **Every call is an exchange.** -/
theorem exchange_of_call {c : I2c.Call} {r : Except Error c.Answer}
    (h : (table.call c s).Runs t (r, s')) : Exchange (firstByte? c) (calls t) := by
  cases c with
  | openAt address =>
    have h₁ : (openAt address s).Runs t (r, s') := h
    rw [openAt_eq] at h₁
    split at h₁
    · obtain ⟨rfl, _⟩ := Program.runs_done.1 h₁
      exact .nothing
    · obtain ⟨rfl, _⟩ := Program.runs_done.1 h₁
      exact .nothing
  | read device n => exact exchange_of_read h
  | write device data => exact exchange_of_write h
  | close device =>
    have h₁ : (close device s).Runs t (r, s') := h
    by_cases hd : wireAddress? device = none
    · rw [close_of_not_wire hd] at h₁
      obtain ⟨rfl, _⟩ := Program.runs_done.1 h₁
      exact .nothing
    · rw [close_of_wire hd] at h₁
      obtain ⟨rfl, _⟩ := Program.runs_done.1 h₁
      exact .nothing
  | setFreq hz => exact exchange_of_setFreq h
  | setClockStretch enable =>
    obtain ⟨rfl, _⟩ := runs_throw.1 h
    exact .nothing

end BusAccess.Adapter
