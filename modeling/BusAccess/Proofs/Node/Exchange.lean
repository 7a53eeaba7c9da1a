import BusAccess.Proofs.Bus.Invariant
import BusAccess.Proofs.Node.Devices

/-!
# Exchanges in bounds

What the kernel is told of an exchange is where the buffers start and one length, and it takes the
length on trust: it reads that many bytes from what is sent and writes that many into the receive
buffer.  The backend takes the length from one buffer only, and what makes it right for the other one
as well is checked far away, before the bus is looked at.

`Sized` is what the two sides agree on: there is a buffer, and no buffer of another length.  It is
what every exchange has by the time it reaches a backend, whatever the backend (`told_of_perform`),
and device nodes keep it up through the narrowing to 32 bits, because what does not fit is not sent
(`transfer_eq`).
-/

set_option autoImplicit false

namespace BusAccess

open Program (Trace calls)

namespace Spi

/-! ## Exchanges -/

/-- A way to exchange bytes with a device. -/
inductive Exchange where
  | transfer (tx : Bytes) (rx : Nat)
  | read (length : Nat)
  | write (data : Bytes)
  deriving DecidableEq, Repr

/-- Whether there is a buffer, and no buffer of another length. -/
structure Sized (tx : Option Bytes) (rx : Option Nat) (n : Nat) : Prop where
  /-- There is a buffer. -/
  present : tx.isSome ∨ rx.isSome
  /-- What is sent has the length. -/
  sent : ∀ data ∈ tx, data.length = n
  /-- What is received has the length. -/
  received : ∀ k ∈ rx, k = n

/-- The length of an exchange is that of any of its buffers. -/
theorem Sized.exchangeLength_eq {tx : Option Bytes} {rx : Option Nat} {n : Nat} (h : Sized tx rx n) :
    Node.Spi.exchangeLength tx rx = some n := by
  cases tx with
  | some data => exact congrArg some (h.sent data rfl)
  | none =>
    obtain hnone | hsome := h.present
    · exact absurd hnone Bool.false_ne_true
    · obtain ⟨k, rfl⟩ := Option.isSome_iff_exists.1 hsome
      exact congrArg some (h.received k rfl)

namespace Exchange

variable {S : Interface} {σ : Type}

/-- How an exchange is carried out. -/
def perform (t : Table operations S σ) (device : DeviceHandle) :
    Exchange → Action S (Bus σ) Received
  | transfer tx rx => Spi.transfer t device tx rx
  | read length => Spi.read t device length
  | write data => Spi.write t device data

/-- What is sent. -/
def tx : Exchange → Option Bytes
  | transfer tx _ => some tx
  | read _ => none
  | write data => some data

/-- How long the receive buffer is. -/
def rx : Exchange → Option Nat
  | transfer _ rx => some rx
  | read length => some length
  | write _ => none

/-- The call that an exchange comes down to, if its buffers are of one length. -/
def call (device : DeviceHandle) (x : Exchange) : Call := .transfer device x.tx x.rx

/-- Only a transfer can have buffers of two lengths. -/
theorem sized_or (x : Exchange) :
    (∃ n, Sized x.tx x.rx n) ∨
      ∃ tx rx, x = transfer tx rx ∧ tx.length ≠ rx ∧ ∀ n, ¬ Sized x.tx x.rx n := by
  cases x with
  | transfer tx rx =>
    by_cases h : tx.length = rx
    · refine .inl ⟨rx, .inl rfl, fun data hdata ↦ ?_, fun k hk ↦ (Option.some.inj hk).symm⟩
      rwa [← Option.some.inj hdata]
    · refine .inr ⟨tx, rx, rfl, h, fun n hn ↦ h ?_⟩
      exact (hn.sent tx rfl).trans (hn.received rx rfl).symm
  | read length => exact .inl ⟨length, .inr rfl, nofun, fun k hk ↦ (Option.some.inj hk).symm⟩
  | write data =>
    refine .inl ⟨data.length, .inl rfl, fun d hd ↦ ?_, nofun⟩
    rw [← Option.some.inj hd]

variable {x : Exchange} {n : Nat} (t : Table operations S σ) (device : DeviceHandle)

theorem perform_of_sized (h : Sized x.tx x.rx n) :
    x.perform t device = Bus.call t (x.call device) := by
  cases x with
  | transfer tx rx => exact if_pos ((h.sent tx rfl).trans (h.received rx rfl).symm)
  | read length => rfl
  | write data => rfl

/-- **Buffers of two lengths** are refused before the bus is looked at. -/
theorem perform_of_not_sized (h : ∀ n, ¬ Sized x.tx x.rx n) (b : Bus σ) :
    x.perform t device b = .done (.error .invalidArgument, b) := by
  obtain ⟨n, hn⟩ | ⟨tx, rx, rfl, hne, -⟩ := x.sized_or
  · exact absurd hn (h n)
  · have hrefused : (transfer tx rx).perform t device = throw .invalidArgument := if_neg hne
    rw [hrefused]
    rfl

/-- An exchange does on any backend what it does on one that asks for each operation. -/
theorem perform_eq_interpret (x : Exchange) (b : Bus σ) :
    x.perform t device b = (x.perform (.passing operations σ) device b).interpret t.answer := by
  obtain ⟨n, hn⟩ | ⟨-, -, -, -, hn⟩ := x.sized_or
  · rw [perform_of_sized t device hn, perform_of_sized _ device hn]
    exact Bus.call_eq_interpret t (x.call device) b
  · rw [perform_of_not_sized t device hn, perform_of_not_sized _ device hn]
    rfl

/-- **What a backend is asked for** is an exchange of buffers of one length. -/
theorem told_of_perform {b b' : Bus σ} {trace : Trace (invocations operations σ)}
    {r : Except Error Received}
    (h : (x.perform (.passing operations σ) device b).Runs trace (r, b')) :
    told trace = [] ∨
      (∃ n, Sized x.tx x.rx n) ∧ told trace = [.call (.transfer device x.tx x.rx)] := by
  obtain ⟨n, hn⟩ | ⟨-, -, -, -, hn⟩ := x.sized_or
  · rw [perform_of_sized _ device hn] at h
    by_cases hb : b.core = none
    · obtain ⟨rfl, -⟩ := Bus.runs_call_gone hb h
      exact .inl rfl
    · exact .inr ⟨⟨n, hn⟩, (Bus.told_of_call hb h).1⟩
  · rw [perform_of_not_sized _ device hn] at h
    obtain ⟨rfl, -⟩ := Program.runs_done.1 h
    exact .inl rfl

end Exchange

end Spi

/-! ## Exchanges through device nodes -/

namespace Node.Spi

open BusAccess.Spi (Exchange Sized)

variable {s : Core} {device : DeviceHandle} {tx : Option Bytes} {rx : Option Nat} {n : Nat}

/-- Whether a message is that of an exchange: it has the buffers of the exchange and their length, and
the speed of the bus. -/
structure Describes (x : Exchange) (s : Core) (message : Message) : Prop where
  /-- It has the bytes to send. -/
  tx : message.tx = x.tx
  /-- It has the receive buffer. -/
  rx : message.rx = x.rx
  /-- It has the length of both. -/
  sized : Sized message.tx message.rx message.length.toNat
  /-- It has the speed of the bus. -/
  speed : message.speedHz = s.speed

/-- **An exchange with an open device** is over at once if it is empty or too long for the kernel,
and else it is one message. -/
theorem transfer_eq (hd : device ∈ s.devices) (hn : exchangeLength tx rx = some n) :
    transfer device tx rx s =
      if n = 0 then .done (.ok ⟨0, []⟩, s)
      else if UInt32.size ≤ n then .done (.error .invalidArgument, s)
      else .ask (.exchange device.raw { tx, rx, length := UInt32.ofNat n, speedHz := s.speed })
        fun
          | some exchanged => .done (.ok ⟨exchanged.result.toNat, exchanged.rx⟩, s)
          | none => .report (.debug "spi transfer failed") (.done (.error .ioError, s)) := by
  have hopen : expectOpen device s = .done (.ok (), s) := by
    show (if s.devices.contains device = true then pure () else throw .invalidHandle :
      Action interface Core Unit) s = _
    rw [if_pos (List.contains_iff_mem.2 hd)]
    rfl
  simp only [transfer, Action.bind_run, hopen, Program.bind, Action.get_run, hn, Action.demand]
  split
  case isTrue => rfl
  case isFalse =>
    split
    case isTrue => rfl
    case isFalse =>
      refine congrArg (Program.ask _) (funext fun reply ↦ ?_)
      cases reply <;> rfl

/-- **What the kernel is told** in a run of an exchange is nothing, or one message that describes it. -/
theorem calls_of_transfer {x : Exchange} {s' : Core} {trace : Trace interface}
    {r : Except Error Received} (hn : Sized x.tx x.rx n)
    (h : (transfer device x.tx x.rx s).Runs trace (r, s')) :
    s' = s ∧ ((device ∉ s.devices ∨ n = 0 ∨ UInt32.size ≤ n) ∧ calls trace = [] ∨
      ∃ message reply, Describes x s message ∧
        calls trace = [.asked (.exchange device.raw message) reply]) := by
  by_cases hd : device ∈ s.devices
  · rw [transfer_eq hd hn.exchangeLength_eq] at h
    split at h
    case isTrue hzero =>
      obtain ⟨rfl, hend⟩ := Program.runs_done.1 h
      exact ⟨(Prod.mk.inj hend).2, .inl ⟨.inr (.inl hzero), rfl⟩⟩
    case isFalse =>
      split at h
      case isTrue hlong =>
        obtain ⟨rfl, hend⟩ := Program.runs_done.1 h
        exact ⟨(Prod.mk.inj hend).2, .inl ⟨.inr (.inr hlong), rfl⟩⟩
      case isFalse hlong =>
        have hlength : (UInt32.ofNat n).toNat = n :=
          UInt32.toNat_ofNat_of_lt' (Nat.not_le.1 hlong)
        have hdescribes : Describes x s ⟨x.tx, x.rx, .ofNat n, s.speed, 0, 8, [0, 0, 0, 0, 0]⟩ :=
          ⟨rfl, rfl, hlength.symm ▸ hn, rfl⟩
        obtain ⟨reply, u, rfl, h₁⟩ := Program.runs_ask.1 h
        cases reply with
        | some exchanged =>
          obtain ⟨rfl, hend⟩ := Program.runs_done.1 h₁
          exact ⟨(Prod.mk.inj hend).2, .inr ⟨_, _, hdescribes, rfl⟩⟩
        | none =>
          obtain ⟨v, rfl, h₂⟩ := Program.runs_report.1 h₁
          obtain ⟨rfl, hend⟩ := Program.runs_done.1 h₂
          exact ⟨(Prod.mk.inj hend).2, .inr ⟨_, _, hdescribes, rfl⟩⟩
  · rw [transfer, expectOpen_bind_of_not_mem hd] at h
    obtain ⟨rfl, hend⟩ := Program.runs_done.1 h
    exact ⟨(Prod.mk.inj hend).2, .inl ⟨.inl hd, rfl⟩⟩

/-- The same for a bus, which may be released and may be given buffers of two lengths. -/
theorem calls_of_perform {x : Exchange} {b b' : Bus Core} {trace : Trace interface}
    {r : Except Error Received} (h : (x.perform table device b).Runs trace (r, b')) :
    b' = b ∧ (calls trace = [] ∨ ∃ s message reply, b.core = some s ∧ Describes x s message ∧
      calls trace = [.asked (.exchange device.raw message) reply]) := by
  obtain ⟨n, hn⟩ | ⟨-, -, -, -, hn⟩ := x.sized_or
  · rw [Exchange.perform_of_sized table device hn] at h
    cases hb : b.core with
    | none =>
      obtain ⟨rfl, -, rfl⟩ := Bus.runs_call_gone hb h
      exact ⟨rfl, .inl rfl⟩
    | some s =>
      obtain ⟨s', h₁, rfl⟩ := Bus.runs_call hb h
      obtain ⟨rfl, ⟨-, hnone⟩ | ⟨message, reply, hdescribes, hone⟩⟩ := calls_of_transfer hn h₁
      · exact ⟨by rw [← hb]; rfl, .inl hnone⟩
      · exact ⟨by rw [← hb]; rfl, .inr ⟨s', message, reply, rfl, hdescribes, hone⟩⟩
  · rw [Exchange.perform_of_not_sized table device hn] at h
    obtain ⟨rfl, hend⟩ := Program.runs_done.1 h
    exact ⟨(Prod.mk.inj hend).2, .inl rfl⟩

/-! ## Exchanges with an open device -/

section Open

variable {x : Exchange} {b : Bus Core}

/-- An exchange that the backend answers at once. -/
theorem perform_at_once (hb : b.core = some s) {r : Except Error Received} (hn : Sized x.tx x.rx n)
    (h : transfer device x.tx x.rx s = .done (r, s)) :
    x.perform table device b = .done (r, b) := by
  rw [Exchange.perform_of_sized table device hn]
  exact Bus.call_at_once hb h rfl

variable (hb : b.core = some s) (hd : device ∈ s.devices)
include hb hd

theorem perform_empty (hn : Sized x.tx x.rx 0) : x.perform table device b = .done (.ok ⟨0, []⟩, b) := by
  refine perform_at_once hb hn ?_
  rw [transfer_eq hd hn.exchangeLength_eq, if_pos rfl]

theorem perform_tooLong (hn : Sized x.tx x.rx n) (hlong : UInt32.size ≤ n) :
    x.perform table device b = .done (.error .invalidArgument, b) := by
  have hpos : n ≠ 0 := Nat.ne_of_gt (Nat.lt_of_lt_of_le (by decide : 0 < UInt32.size) hlong)
  refine perform_at_once hb hn ?_
  rw [transfer_eq hd hn.exchangeLength_eq, if_neg hpos, if_pos hlong]

/-- An exchange that fits is sent. -/
theorem calls_of_fits (hn : Sized x.tx x.rx n) (hpos : 0 < n) (hfits : n < UInt32.size)
    {b' : Bus Core} {trace : Trace interface} {r : Except Error Received}
    (h : (x.perform table device b).Runs trace (r, b')) : calls trace ≠ [] := by
  rw [Exchange.perform_of_sized table device hn] at h
  obtain ⟨s', h₁, -⟩ := Bus.runs_call hb h
  obtain ⟨-, ⟨hnot | hzero | hlong, -⟩ | ⟨message, reply, -, hone⟩⟩ := calls_of_transfer hn h₁
  · exact absurd hd hnot
  · exact absurd hzero (Nat.ne_of_gt hpos)
  · exact absurd hlong (Nat.not_le.2 hfits)
  · rw [hone]
    exact List.cons_ne_nil _ _

end Open

/-! ## In bounds -/

/-- **Exchanges are described in bounds.**  Buffers of two lengths are refused before any backend is
asked, and what a backend is asked for is an exchange with a buffer, and buffers of one length if it
has both.  Device nodes tell the kernel this length, in one message at most, and never more than
fits; an exchange of nothing and one that does not fit are over without a message. -/
theorem exchange_in_bounds (x : Exchange) (device : DeviceHandle) :
    (∀ {S : Interface} {σ : Type} (t : Table BusAccess.Spi.operations S σ) (b : Bus σ),
      x.perform t device b = (x.perform (.passing _ σ) device b).interpret t.answer ∧
        ((∀ n, ¬ Sized x.tx x.rx n) → x.perform t device b = .done (.error .invalidArgument, b))) ∧
    (∀ {σ : Type} {b b' : Bus σ} {trace : Trace (invocations BusAccess.Spi.operations σ)}
      {r : Except Error Received}, (x.perform (.passing _ σ) device b).Runs trace (r, b') →
        told trace = [] ∨ ∃ n, Sized x.tx x.rx n ∧ exchangeLength x.tx x.rx = some n ∧
          told trace = [.call (.transfer device x.tx x.rx)]) ∧
    (∀ {b b' : Bus Core} {trace : Trace interface} {r : Except Error Received},
      (x.perform table device b).Runs trace (r, b') → b' = b ∧ (calls trace = [] ∨
        ∃ s message reply, b.core = some s ∧ Describes x s message ∧
          calls trace = [.asked (.exchange device.raw message) reply])) ∧
    ∀ {b : Bus Core} {s : Core} {n : Nat}, b.core = some s → device ∈ s.devices →
      Sized x.tx x.rx n →
        (n = 0 → x.perform table device b = .done (.ok ⟨0, []⟩, b)) ∧
        (UInt32.size ≤ n → x.perform table device b = .done (.error .invalidArgument, b)) ∧
        (0 < n → n < UInt32.size → ∀ {b' : Bus Core} {trace : Trace interface}
          {r : Except Error Received}, (x.perform table device b).Runs trace (r, b') →
            calls trace ≠ []) := by
  refine ⟨fun t b ↦ ⟨x.perform_eq_interpret t device b, fun hn ↦ ?_⟩, fun h ↦ ?_,
    calls_of_perform, fun hb hd hn ↦ ?_⟩
  · exact Exchange.perform_of_not_sized t device hn b
  · obtain hnone | ⟨⟨n, hn⟩, htold⟩ := Exchange.told_of_perform device h
    · exact .inl hnone
    · exact .inr ⟨n, hn, hn.exchangeLength_eq, htold⟩
  · exact ⟨fun hzero ↦ perform_empty hb hd (hzero ▸ hn), perform_tooLong hb hd hn,
      fun hpos hfits _ _ _ h ↦ calls_of_fits hb hd hn hpos hfits h⟩

/-- A device that is open is sent three bytes while three come in, and is not sent one byte while two
come in. -/
theorem exchange_in_bounds_three :
    let b : Bus Core := .new name ⟨0, "/dev", 500000, .mode0, [⟨7⟩]⟩
    (∃ trace r, ((Exchange.transfer [0x9f, 0, 0] 3).perform table ⟨7⟩ b).Runs trace (r, b) ∧
      ∃ message reply, message.length.toNat = 3 ∧ message.speedHz = 500000 ∧
        calls trace = [.asked (.exchange 7 message) reply]) ∧
      (Exchange.transfer [1] 2).perform table ⟨7⟩ b = .done (.error .invalidArgument, b) := by
  intro b
  have hsized : Sized (some [0x9f, 0, 0]) (some 3) 3 :=
    ⟨.inl rfl, fun _ h ↦ Option.some.inj h ▸ rfl, fun _ h ↦ (Option.some.inj h).symm⟩
  have hrun : ((Exchange.transfer [0x9f, 0, 0] 3).perform table ⟨7⟩ b).Runs
      [.asked (.exchange 7 ⟨some [0x9f, 0, 0], some 3, 3, 500000, 0, 8, [0, 0, 0, 0, 0]⟩)
        (some ⟨3, [0, 1, 2]⟩)] (.ok ⟨3, [0, 1, 2]⟩, b) := .ask (.done _)
  obtain ⟨-, -, hdescribed, hopen⟩ := exchange_in_bounds (.transfer [0x9f, 0, 0] 3) ⟨7⟩
  obtain ⟨hany, -⟩ := exchange_in_bounds (.transfer [1] 2) ⟨7⟩
  refine ⟨⟨_, _, hrun, ?_⟩, (hany table b).2 fun n hn ↦ ?_⟩
  · obtain ⟨-, hnone | ⟨s, message, reply, hs, hdescribes, hone⟩⟩ := hdescribed hrun
    · obtain ⟨-, -, hsent⟩ := hopen (b := b) rfl List.mem_cons_self hsized
      exact absurd hnone (hsent (by decide) (by decide) hrun)
    · obtain rfl := Option.some.inj hs
      exact ⟨message, reply, (hdescribes.sized.received 3 hdescribes.rx).symm, hdescribes.speed, hone⟩
  · exact absurd ((hn.sent [1] rfl).trans (hn.received 2 rfl).symm) (by decide)

end Node.Spi

end BusAccess
