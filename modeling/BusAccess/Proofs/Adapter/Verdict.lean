import BusAccess.Proofs.Adapter.Exchange
import BusAccess.Proofs.Bus.Invariant

/-!
# What a call comes out with

A read or a write is up to eight requests to the adapter, most of which can fail, and the call has
one result.  It is the first failure that decides (`verdict`): behind it there is nothing but the
stop, and neither the stop nor the byte that ends a read has a say.  A frame that is not begun is a
failure of the backend, and so is an address that cannot be sent; everything behind the address is a
matter between the two ends of the wire.  What reason the adapter gives makes no difference.

The parts of a frame are those of `BusAccess.Proofs.Adapter.Exchange`.  There, a part is followed
through all the traces that it can leave.  Here the replies are fixed beforehand, one for each place
in the call, so that each part has one result and there is an equation for it.
-/

set_option autoImplicit false

namespace BusAccess.Adapter

open Program (Replies answeredBy)
open BusAccess.Action (bind_run ask_run)

variable {s : Core} {α : Type} {byte : UInt8} {replies : Replies interface}

/-! ## Parts of a frame -/

/-- **A frame comes out as what is in it**, if it is begun. -/
theorem result_framed (body : Action interface Core α) :
    ((framed body s).answeredBy replies).2 =
      match replies 0 .start with
      | .ok _ => ((body s).answeredBy fun n ↦ replies (n + 1)).2
      | .error _ => (.error .backendFailure, s) := by
  rw [framed, bind_run]
  simp only [ask, ask_run, Program.bind, Program.snd_answeredBy_ask]
  cases replies 0 .start with
  | error e => rfl
  | ok _ =>
    simp only [Action.require, bind_run, Program.bind, Action.attempt, Program.snd_answeredBy_bind,
      ask_run, Program.snd_answeredBy_ask, Program.answeredBy_done]
    -- The result is that of the body by now, and what is left to do gives it back for either reply.
    generalize replies _ Request.stop = stopped
    cases stopped <;> rfl

/-- What an address is sent for is done if the address goes out and is acknowledged. -/
theorem result_sendAddress_bind (f : Unit → Action interface Core α) :
    (((sendAddress byte >>= f) s).answeredBy replies).2 =
      match replies 0 (.write [byte]), replies 1 .getAck with
      | .ok _, true => ((f () s).answeredBy fun n ↦ replies (n + 2)).2
      | .ok _, false => (.error .communicationError, s)
      | .error _, _ => (.error .backendFailure, s) := by
  rw [sendAddress, expectAck, bind_run, bind_run]
  simp only [ask, ask_run, Program.bind, Program.snd_answeredBy_ask]
  cases replies 0 (.write [byte]) with
  | error e => rfl
  | ok _ =>
    simp only [Action.require, bind_run, Program.bind, ask_run, Program.snd_answeredBy_ask]
    cases replies 1 .getAck <;> rfl

/-- What becomes of the bytes of a call: something, or they did not get through. -/
def orLost : Option α → Except Error α
  | some a => .ok a
  | none => .error .communicationError

theorem result_readBytes (n : Nat) :
    ((readBytes n s).answeredBy replies).2 =
      (orLost ((replies 0 (.read n)).toOption.map fun buffer ↦ ⟨n, buffer⟩), s) := by
  rw [readBytes, bind_run]
  simp only [ask, bind_run, ask_run, Program.bind, Program.snd_answeredBy_ask]
  cases replies 0 (.read n) <;> rfl

theorem result_writeBytes (data : Bytes) :
    ((writeBytes data s).answeredBy replies).2 =
      (orLost (if data.isEmpty || (replies 0 (.write data)).isOk && replies 1 .getAck
        then some data.length else none), s) := by
  rw [writeBytes]
  cases data with
  | nil => rfl
  | cons first rest =>
    rw [expectAck, List.isEmpty_cons, if_neg Bool.false_ne_true, bind_run]
    simp only [ask, ask_run, Program.bind, Program.snd_answeredBy_ask, Bool.false_or]
    cases replies 0 (.write (first :: rest)) with
    | error e => rfl
    | ok _ =>
      simp only [Action.require, bind_run, Program.bind, ask_run, Program.snd_answeredBy_ask]
      cases replies 1 .getAck <;> rfl

/-! ## The first failure -/

/-- What a call comes out with, if `payload` is what becomes of its bytes. -/
def verdict (started sent answered : Bool) (payload : Option α) : Except Error α :=
  if started && sent then
    if answered then orLost payload else .error .communicationError
  else .error .backendFailure

/-- **A frame with an address comes out as its first failure.** -/
theorem result_frame {f : Unit → Action interface Core α} {payload : Option α}
    (hf : ((f () s).answeredBy fun n ↦ replies (n + 3)).2 = (orLost payload, s)) :
    ((framed (sendAddress byte >>= f) s).answeredBy replies).2 =
      (verdict (replies 0 .start).isOk (replies 1 (.write [byte])).isOk (replies 2 .getAck) payload,
        s) := by
  rw [result_framed, result_sendAddress_bind, hf]
  cases replies 0 .start with
  | error e => rfl
  | ok _ =>
    cases replies 1 (.write [byte]) with
    | error e => rfl
    | ok _ => cases replies 2 .getAck <;> rfl

/-- Whether a result is decided by the steps of a call: whether its frame was started, whether the
address was sent, whether it was answered, and what became of the bytes. -/
structure DecidedBy (started sent answered : Bool) (payload : Option α) (result : Except Error α) :
    Prop where
  /-- There is an answer if every step came off. -/
  ok_iff : ∀ a, result = .ok a ↔ started ∧ sent ∧ answered ∧ payload = some a
  /-- The adapter fails if the frame or the address did not get out. -/
  backendFailure_iff : result = .error .backendFailure ↔ ¬ started ∨ ¬ sent
  /-- The device fails if the address got out, and it or the bytes were not answered. -/
  communicationError_iff :
    result = .error .communicationError ↔ started ∧ sent ∧ (¬ answered ∨ payload = none)
  /-- Nothing else goes wrong. -/
  only : ∀ e, result = .error e → e = .backendFailure ∨ e = .communicationError

theorem decidedBy_verdict (started sent answered : Bool) (payload : Option α) :
    DecidedBy started sent answered payload (verdict started sent answered payload) := by
  cases started <;> cases sent <;> cases answered <;> cases payload <;> constructor <;>
    simp [verdict, orLost, eq_comm]

/-! ## Reads and writes -/

section Calls

variable {device : DeviceHandle} {address : UInt8} {b : Bus Core}

theorem result_read (hd : wireAddress? device = some address) (n : Nat) :
    ((read device n s).answeredBy replies).2 =
      (verdict (replies 0 .start).isOk (replies 1 (.write [address ||| 1])).isOk (replies 2 .getAck)
        ((replies 3 (.read n)).toOption.map fun buffer ↦ ⟨n, buffer⟩), s) := by
  rw [read, hd]
  exact result_frame (result_readBytes n)

theorem result_write (hd : wireAddress? device = some address) (data : Bytes) :
    ((write device data s).answeredBy replies).2 =
      (verdict (replies 0 .start).isOk (replies 1 (.write [address])).isOk (replies 2 .getAck)
        (if data.isEmpty || (replies 3 (.write data)).isOk && replies 4 .getAck
          then some data.length else none), s) := by
  rw [write, hd]
  exact result_frame (result_writeBytes data)

/-- A bus gives back what the backend came out with. -/
theorem result_call (hb : b.core = some s) (c : I2c.Call) :
    ((Bus.call table c b).answeredBy replies).2.1 = ((table.call c s).answeredBy replies).2.1 := by
  simp only [Bus.call, hb, Program.snd_answeredBy_bind, Program.answeredBy_done]

/-- The address of a handle with an even number of eight bits is that number. -/
theorem wireAddress?_of_even (hlo : 0 ≤ device.raw.toInt) (hhi : device.raw.toInt ≤ 0xfe)
    (heven : device.raw.toInt % 2 = 0) :
    wireAddress? device = some (UInt8.ofNat device.raw.toInt.toNat) :=
  if_pos ⟨hlo, by omega, heven⟩

end Calls

/-- Whether the same steps fail with two sets of replies, up to the reasons that are given, and the
same bytes come in.  What a stop is answered with is left open, and so is the byte that ends a read.
-/
structure FailAlike (replies replies' : Replies interface) : Prop where
  /-- The frame is started with both or with neither. -/
  start : (replies 0 .start).isOk = (replies' 0 .start).isOk
  /-- So is the address sent. -/
  address : ∀ byte, (replies 1 (.write [byte])).isOk = (replies' 1 (.write [byte])).isOk
  /-- The address is acknowledged alike. -/
  answer : replies 2 .getAck = replies' 2 .getAck
  /-- The same bytes come in, or none with both. -/
  received : ∀ n, (replies 3 (.read n)).toOption = (replies' 3 (.read n)).toOption
  /-- The bytes get out with both or with neither. -/
  sent : ∀ data, (replies 3 (.write data)).isOk = (replies' 3 (.write data)).isOk
  /-- The bytes are acknowledged alike. -/
  receipt : replies 4 .getAck = replies' 4 .getAck

/-- **The first failure decides.**  On a bus that is not released, and for a handle with an even
number of eight bits, a read or a write comes out with the length of its buffer just if its frame
was started, the address was sent and answered, and the bytes got through, and otherwise with an
error that says which side of the address the first failure was on.  Nothing else makes a difference
to the result. -/
theorem first_failure_decides {device : DeviceHandle} {b : Bus Core} (hlo : 0 ≤ device.raw.toInt)
    (hhi : device.raw.toInt ≤ 0xfe) (heven : device.raw.toInt % 2 = 0) (hb : b.core ≠ none) :
    let address := UInt8.ofNat device.raw.toInt.toNat
    let result (c : I2c.Call) (replies : Replies interface) : Except Error c.Answer :=
      ((Bus.call table c b).answeredBy replies).2.1
    (∀ replies n, DecidedBy (replies 0 .start).isOk (replies 1 (.write [address ||| 1])).isOk
        (replies 2 .getAck) ((replies 3 (.read n)).toOption.map fun buffer ↦ ⟨n, buffer⟩)
        (result (.read device n) replies)) ∧
      (∀ replies data, DecidedBy (replies 0 .start).isOk (replies 1 (.write [address])).isOk
        (replies 2 .getAck)
        (if data.isEmpty || (replies 3 (.write data)).isOk && replies 4 .getAck
          then some data.length else none)
        (result (.write device data) replies)) ∧
      ∀ replies replies', FailAlike replies replies' →
        (∀ n, result (.read device n) replies = result (.read device n) replies') ∧
        ∀ data, result (.write device data) replies = result (.write device data) replies' := by
  intro address result
  obtain ⟨s, hs⟩ := Option.ne_none_iff_exists'.1 hb
  have hd : wireAddress? device = some address := wireAddress?_of_even hlo hhi heven
  have hread (replies : Replies interface) (n : Nat) :
      result (.read device n) replies = _ :=
    (result_call hs (.read device n)).trans (congrArg Prod.fst (result_read hd n))
  have hwrite (replies : Replies interface) (data : Bytes) :
      result (.write device data) replies = _ :=
    (result_call hs (.write device data)).trans (congrArg Prod.fst (result_write hd data))
  refine ⟨fun replies n ↦ ?_, fun replies data ↦ ?_, fun replies replies' h ↦ ⟨fun n ↦ ?_, ?_⟩⟩
  · rw [hread]
    exact decidedBy_verdict _ _ _ _
  · rw [hwrite]
    exact decidedBy_verdict _ _ _ _
  · rw [hread, hread, h.start, h.address, h.answer, h.received]
  · intro data
    rw [hwrite, hwrite, h.start, h.address, h.answer, h.sent, h.receipt]

/-- An adapter that does all it is asked to while nobody listens, and reports a stop as given. -/
def unheard (stopped : Except Error Unit) : Replies interface := fun _ q ↦
  match q with
  | .openAdapter _ _ _ => .ok ()
  | .start => .ok ()
  | .stop => stopped
  | .write _ => .ok ()
  | .getAck => false
  | .read n => .ok (List.replicate n 0xff)
  | .sendAcks => ()
  | .sendNacks => ()
  | .setClock _ => .ok ()
  | .close => ()
  | .reserve => true

/-- Where nobody answers to the address, a write is a failure of communication, also when the stop
fails on top of that. -/
theorem first_failure_decides_unheard :
    let device : DeviceHandle := ⟨0x20⟩
    let b : Bus Core := .new name { clock := 400000 }
    ((Bus.call table (.write device [1, 2]) b).answeredBy (unheard (.ok ()))).2.1 =
        .error .communicationError ∧
      ((Bus.call table (.write device [1, 2]) b).answeredBy (unheard (.error .busy))).2.1 =
        ((Bus.call table (.write device [1, 2]) b).answeredBy (unheard (.ok ()))).2.1 := by
  intro device b
  have decided := @first_failure_decides device b (by decide) (by decide) (by decide) (by decide)
  have alike : FailAlike (unheard (.error .busy)) (unheard (.ok ())) :=
    ⟨rfl, fun _ ↦ rfl, rfl, fun _ ↦ rfl, fun _ ↦ rfl, rfl⟩
  constructor
  · exact (decided.2.1 (unheard (.ok ())) [1, 2]).communicationError_iff.2
      ⟨rfl, rfl, .inl Bool.false_ne_true⟩
  · exact (decided.2.2 _ _ alike).2 [1, 2]

end BusAccess.Adapter
