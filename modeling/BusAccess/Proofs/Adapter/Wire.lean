import BusAccess.Proofs.Adapter.Exchange
import BusAccess.Proofs.Adapter.Language
import BusAccess.Proofs.Bus.Invariant
import BusAccess.Proofs.Everywhere

/-!
# The order of things on the wire

Whatever the adapter answers, the calls that are made to it come in an order that devices can live
with.  `InOrder before call after` is the rule for one call, given the calls before it and after it:

* a start, a change of the clock and a close are made when no frame is open and the adapter
  acknowledges what it reads, and after a close comes nothing;
* after a start that succeeds there is one stop before the next of these three calls, and after one
  that fails there is none; a stop belongs to an open frame;
* the first call in a frame writes one byte, and bytes are written and read after it only if that
  byte was acknowledged, written if its lowest bit is clear and read if it is set;
* when the adapter stops acknowledging, it goes back to it before the frame ends.

Which frame is open and whether the adapter acknowledges is read off the calls so far, by `frame?`
and `acking`.  An exchange finds things `Settled` and leaves them so, and that is what carries the
rules from one exchange to the next (`inOrder_of_exchanges`).  The life of a bus is one exchange for
each use and then a close, so the rules hold at every call of it (`wire_in_order`).
-/

set_option autoImplicit false

namespace BusAccess.Adapter

open Program (Trace Step calls requests)
open Bus (uses life)

variable {t u v w : Trace interface} {byte : UInt8} {byte? : Option UInt8}

/-! ## Frames -/

/-- What was done in the open frame, if there is one, after one more call. -/
def frameAfter (frame? : Option (Trace interface)) : Step interface → Option (Trace interface)
  | .asked .start (.ok ()) => some []
  | .asked .stop _ => none
  | call => frame?.map (· ++ [call])

/-- What was done in the frame that is open after some calls, if there is one. -/
def frame? (before : Trace interface) : Option (Trace interface) := before.foldl frameAfter none

/-- Whether the adapter acknowledges what it reads after one more call. -/
def ackingAfter (acking : Bool) : Step interface → Bool
  | .asked .sendAcks _ => true
  | .asked .sendNacks _ => false
  | _ => acking

/-- Whether the adapter acknowledges what it reads after some calls. -/
def acking (before : Trace interface) : Bool := before.foldl ackingAfter true

/-- Whether a call is a stop. -/
def isStop : Step interface → Bool
  | .asked .stop _ => true
  | _ => false

/-- Whether a call starts a frame, changes the clock or closes the adapter. -/
def isOuter : Step interface → Bool
  | .asked .start _ => true
  | .asked (.setClock _) _ => true
  | .asked .close _ => true
  | _ => false

/-- How many stops there are before the next start, change of the clock or close. -/
def stopsAhead (after : Trace interface) : Nat := (after.takeWhile (!isOuter ·)).countP isStop

/-- Whether no frame is open and the adapter acknowledges what it reads. -/
structure Settled (before : Trace interface) : Prop where
  /-- No frame is open. -/
  closed : frame? before = none
  /-- What is read is acknowledged. -/
  acks : acking before = true

/-- Whether the open frame began with a byte that was acknowledged. -/
def Answered (byte : UInt8) (before : Trace interface) : Prop :=
  ∃ inside, frame? before = some (.asked (.write [byte]) (.ok ()) :: .asked .getAck true :: inside)

/-- The rule for each call, given the calls before it and after it. -/
def InOrder (before : Trace interface) : Step interface → Trace interface → Prop
  | .asked .start (.ok _), after => Settled before ∧ stopsAhead after = 1 ∧
      ∃ byte reply, after.head? = some (.asked (.write [byte]) reply)
  | .asked .start (.error _), after => Settled before ∧ stopsAhead after = 0
  | .asked .stop _, _ => frame? before ≠ none
  | .asked (.write _) _, _ =>
      frame? before = some [] ∨ ∃ byte, byte &&& 1 = 0 ∧ Answered byte before
  | .asked (.read _) _, _ => ∃ byte, byte &&& 1 = 1 ∧ Answered byte before
  | .asked .getAck _, _ => frame? before ≠ none
  | .asked .sendNacks _, after =>
      frame? before ≠ none ∧ .asked .sendAcks () ∈ after.takeWhile (!isStop ·)
  | .asked .sendAcks _, _ => frame? before ≠ none
  | .asked (.setClock _) _, _ => Settled before
  | .asked .close _, after => Settled before ∧ after = []
  | .asked (.openAdapter _ _ _) _, _ => False
  | .asked .reserve _, _ => False
  | .reported _, _ => False

/-! ## Laws -/

theorem frame?_append : frame? (u ++ v) = v.foldl frameAfter (frame? u) := List.foldl_append

theorem acking_append : acking (u ++ v) = v.foldl ackingAfter (acking u) := List.foldl_append

theorem stopsAhead_cons {x : Step interface} (hx : isOuter x = false) :
    stopsAhead (x :: v) = stopsAhead v + if isStop x then 1 else 0 := by
  rw [stopsAhead, List.takeWhile_cons_of_pos (by rw [hx]; rfl), List.countP_cons]
  rfl

/-- A start that succeeds opens a frame, whatever there was before. -/
theorem frame?_start : frame? (u ++ [.asked .start (.ok ())]) = some [] := by
  rw [frame?_append]
  rfl

theorem settled_nil : Settled [] := ⟨rfl, rfl⟩

/-! ## Exchanges are in order -/

theorem inOrder_of_payload (hu : Answered byte u) (h : Payload byte w) :
    Everywhere (fun before x after ↦ InOrder (u ++ before) x (after ++ v)) w := by
  obtain ⟨inside, hu⟩ := hu
  cases h with
  | nothing => exact everywhere_nil
  | unsent hb => simp [everywhere_cons, InOrder, Answered, hu, hb]
  | sent hb => simp [everywhere_cons, InOrder, Answered, frame?_append, frameAfter, hu, hb]
  | received hb =>
    simp [everywhere_cons, InOrder, Answered, frame?_append, frameAfter, isStop, hu, hb]

theorem inOrder_of_body (hu : frame? u = some []) (h : Body byte w) :
    Everywhere (fun before x after ↦ InOrder (u ++ before) x (after ++ v)) w := by
  cases h with
  | unsent => simp [everywhere_cons, InOrder, hu]
  | unanswered => simp [everywhere_cons, InOrder, frame?_append, frameAfter, hu]
  | @answered w hp =>
    have hack : frame? (u ++ [.asked (.write [byte]) (.ok ())]) ≠ none := by
      simp [frame?_append, frameAfter, hu]
    have hw : Answered byte (u ++ [.asked (.write [byte]) (.ok ()), .asked .getAck true]) :=
      ⟨[], by simp [frame?_append, frameAfter, hu]⟩
    refine everywhere_cons.2 ⟨.inl ?_, everywhere_cons.2 ⟨hack, ?_⟩⟩
    · rwa [List.append_nil]
    · simpa only [List.append_assoc, List.cons_append, List.nil_append] using
        inOrder_of_payload hw hp

theorem frame?_of_body (hu : frame? u = some []) (h : Body byte w) : frame? (u ++ w) = some w := by
  rw [frame?_append, hu]
  cases h with
  | unsent => rfl
  | unanswered => rfl
  | answered hp => cases hp <;> rfl

theorem stopsAhead_of_body (h : Body byte w) : stopsAhead (w ++ v) = stopsAhead v := by
  cases h with
  | unsent => rfl
  | unanswered => rfl
  | answered hp => cases hp <;> rfl

theorem acking_of_body (hu : acking u = true) (h : Body byte w) : acking (u ++ w) = true := by
  rw [acking_append, hu]
  cases h with
  | unsent => rfl
  | unanswered => rfl
  | answered hp => cases hp <;> rfl

/-- An exchange is either empty or begins with a call that no frame is open at. -/
theorem stopsAhead_of_exchange (h : Exchange byte? w) (hv : stopsAhead v = 0) :
    stopsAhead (w ++ v) = 0 := by
  cases h with
  | nothing => exact hv
  | clock => rfl
  | unstarted => rfl
  | frame _ _ => rfl

/-- **An exchange leaves things settled.** -/
theorem Settled.append (hu : Settled u) (h : Exchange byte? w) : Settled (u ++ w) := by
  cases h with
  | nothing => rwa [List.append_nil]
  | clock => exact ⟨by rw [frame?_append, hu.closed]; rfl, by rw [acking_append, hu.acks]; rfl⟩
  | unstarted => exact ⟨by rw [frame?_append, hu.closed]; rfl, by rw [acking_append, hu.acks]; rfl⟩
  | @frame byte w reply _ hb =>
    have hacking : acking (u ++ [.asked .start (.ok ())]) = true := by
      rw [acking_append, hu.acks]
      rfl
    have hw := acking_of_body hacking hb
    have hsplit : u ++ (.asked .start (.ok ()) :: (w ++ [.asked .stop reply])) =
        u ++ [.asked .start (.ok ())] ++ w ++ [.asked .stop reply] := by
      simp only [List.append_assoc, List.cons_append, List.nil_append]
    rw [hsplit]
    refine ⟨?_, ?_⟩
    · rw [frame?_append]
      rfl
    · rw [acking_append, hw]
      rfl

/-- **An exchange is in order** between calls that leave things settled and calls that do not begin
with what belongs to a frame. -/
theorem inOrder_of_exchange (hu : Settled u) (h : Exchange byte? w) (hv : stopsAhead v = 0) :
    Everywhere (fun before x after ↦ InOrder (u ++ before) x (after ++ v)) w := by
  cases h with
  | nothing => exact everywhere_nil
  | clock => simp [everywhere_cons, InOrder, hu]
  | unstarted => simp [everywhere_cons, InOrder, hu, hv]
  | @frame byte w reply _ hb =>
    have hw := inOrder_of_body (u := u ++ [_]) (v := .asked .stop reply :: v) frame?_start hb
    have hbody := frame?_of_body (u := u ++ [_]) frame?_start hb
    refine everywhere_cons.2 ⟨⟨by rwa [List.append_nil], ?_, ?_⟩, everywhere_append.2 ⟨?_, ?_⟩⟩
    · rw [List.append_assoc, stopsAhead_of_body hb, List.singleton_append, stopsAhead_cons rfl, hv]
      rfl
    · cases hb <;> exact ⟨_, _, rfl⟩
    · simpa only [List.append_assoc, List.singleton_append] using hw
    · -- The stop: all of the body is in the frame that it ends.
      refine everywhere_cons.2 ⟨?_, everywhere_nil⟩
      rw [List.append_assoc, List.singleton_append] at hbody
      rw [List.append_nil]
      show frame? _ ≠ none
      rw [hbody]
      exact Option.some_ne_none _

/-! ## The whole life -/

theorem stopsAhead_of_exchanges {parts : List (I2c.Call × Trace interface)}
    (h : ∀ p ∈ parts, Exchange (firstByte? p.1) p.2) :
    stopsAhead ((parts.map Prod.snd).flatten ++ [.asked .close ()]) = 0 := by
  induction parts with
  | nil => rfl
  | cons p parts ih =>
    obtain ⟨hp, hparts⟩ := List.forall_mem_cons.1 h
    rw [List.map_cons, List.flatten_cons, List.append_assoc]
    exact stopsAhead_of_exchange hp (ih hparts)

/-- **Exchanges and a close are in order** after any calls that leave things settled. -/
theorem inOrder_of_exchanges {parts : List (I2c.Call × Trace interface)} (hu : Settled u)
    (h : ∀ p ∈ parts, Exchange (firstByte? p.1) p.2) :
    Everywhere (fun before ↦ InOrder (u ++ before))
      ((parts.map Prod.snd).flatten ++ [.asked .close ()]) := by
  induction parts generalizing u with
  | nil =>
    refine everywhere_cons.2 ⟨⟨?_, rfl⟩, everywhere_nil⟩
    rwa [List.append_nil]
  | cons p parts ih =>
    obtain ⟨hp, hparts⟩ := List.forall_mem_cons.1 h
    rw [List.map_cons, List.flatten_cons, List.append_assoc]
    refine everywhere_append.2 ⟨inOrder_of_exchange hu hp (stopsAhead_of_exchanges hparts), ?_⟩
    simpa only [List.append_assoc] using ih (hu.append hp) hparts

/-- Methods put one exchange after another on the wire. -/
theorem exchanges_of_uses {us : List (Use I2c.methods)} {b b' : Bus Core}
    (hm : ∀ m ∈ us, m.isMethod) (h : (uses (M := I2c.methods) table us b).Runs t b') :
    ∃ parts : List (I2c.Call × Trace interface), parts.map (fun p ↦ .method p.1) = us ∧
      (∀ p ∈ parts, Exchange (firstByte? p.1) p.2) ∧ calls t = (parts.map Prod.snd).flatten := by
  induction us generalizing b t with
  | nil =>
    obtain ⟨rfl, _⟩ := Program.runs_done.1 h
    exact ⟨[], rfl, nofun, rfl⟩
  | cons m us ih =>
    obtain ⟨hm₁, hms⟩ := List.forall_mem_cons.1 hm
    obtain ⟨v, b₁, w, h₁, h₂, rfl⟩ := Program.runs_bind.1 h
    obtain ⟨parts, rfl, hparts, hw⟩ := ih hms h₂
    cases m with
    | release => exact absurd hm₁ nofun
    | method c =>
      obtain ⟨v, ⟨r, b₂⟩, z, h₃, h₄, rfl⟩ := Program.runs_bind.1 h₁
      obtain ⟨rfl, _⟩ := Program.runs_done.1 h₄
      have hc : Exchange (firstByte? c) (calls v) := by
        cases hb : b.core with
        | none =>
          obtain ⟨rfl, _⟩ := Bus.runs_call_gone hb h₃
          exact .nothing
        | some s =>
          obtain ⟨s', h₅, _⟩ := Bus.runs_call hb h₃
          exact exchange_of_call h₅
      refine ⟨(c, calls v) :: parts, rfl, List.forall_mem_cons.2 ⟨hc, hparts⟩, ?_⟩
      rw [List.append_nil, Program.calls_append, hw]
      rfl

/-- A new bus has the adapter that was opened for it. -/
theorem runs_create {params : I2c.Params} {b : Bus Core}
    (h : (create params).Runs t (.ok b)) :
    (∃ identity, requests t = [.openAdapter identity params.freq true, .reserve]) ∧
      b = .new name { clock := params.freq } := by
  have hopening := opening_of_create h
  rw [← Program.requests_calls]
  generalize calls t = asked at hopening ⊢
  cases hopening with
  | opened hu hi => exact ⟨⟨_, rfl⟩, rfl⟩

/-- The first call in the frame of an exchange writes the first byte. -/
theorem firstByte_of_exchange (h : Exchange byte? w) :
    Everywhere (fun _ x after ↦ x = .asked .start (.ok ()) → ∃ byte reply, byte? = some byte ∧
      after.head? = some (.asked (.write [byte]) reply)) w := by
  cases h with
  | nothing => exact everywhere_nil
  | clock => simp [everywhere_cons]
  | unstarted => simp [everywhere_cons]
  | frame hbyte hb =>
    cases hb with
    | unsent => simp [everywhere_cons, hbyte]
    | unanswered => simp [everywhere_cons, hbyte]
    | answered hp => cases hp <;> simp [everywhere_cons, hbyte]

/-- **The wire is in order** through the whole life of a bus, from when it is made until it is given
up, and whatever the adapter answers.  One adapter is opened.  What is asked of it then falls into
one part for each method that is called before the bus is released or given up, and a close.  Every
call of it is in order, and the first byte of a frame is the one that belongs to the method, with
the lowest bit set exactly if that reads. -/
theorem wire_in_order {params : I2c.Params} {us : List (Use I2c.methods)}
    {made trace : Trace interface} {b : Bus Core} (hc : (create params).Runs made (.ok b))
    (h : (life (M := I2c.methods) table us b).Runs trace ()) :
    (∃ identity, requests made = [.openAdapter identity params.freq true, .reserve]) ∧
      Everywhere InOrder (calls trace) ∧
      ∃ parts : List (I2c.Call × Trace interface),
        parts.map (fun p ↦ .method p.1) = us.takeWhile Use.isMethod ∧
        calls trace = (parts.map Prod.snd).flatten ++ [.asked .close ()] ∧
        ∀ p ∈ parts, Everywhere (fun _ x after ↦ x = .asked .start (.ok ()) →
          ∃ byte reply, firstByte? p.1 = some byte ∧
            (byte &&& 1 = 1 ↔ ∃ device n, p.1 = .read device n) ∧
            after.head? = some (.asked (.write [byte]) reply)) p.2 := by
  obtain ⟨hmade, rfl⟩ := runs_create hc
  obtain ⟨before, b', s, last, r, s', rest, hu, _, hr, hrest, rfl⟩ :=
    Bus.life_split (Option.some_ne_none _) h
  obtain ⟨_, rfl, _⟩ := Action.runs_ask.1 hr
  obtain ⟨parts, hmap, hparts, hbefore⟩ :=
    exchanges_of_uses (List.all_eq_true.1 List.all_takeWhile) hu
  have htrace : calls (before ++ ([.asked .close ()] ++ rest)) =
      (parts.map Prod.snd).flatten ++ [.asked .close ()] := by
    rw [Program.calls_append, Program.calls_append, hbefore, hrest]
    rfl
  refine ⟨hmade, ?_, parts, hmap, htrace, fun p hp before x after hw hx ↦ ?_⟩
  · rw [htrace]
    exact inOrder_of_exchanges settled_nil hparts
  · obtain ⟨byte, reply, hbyte, hhead⟩ :=
      firstByte_of_exchange (hparts p hp) before x after hw hx
    exact ⟨byte, reply, hbyte, firstByte?_odd_iff hbyte, hhead⟩

/-- A frame is not begun, one finds nobody, one breaks off in a read and one in a write. -/
theorem wire_in_order_despite_failures :
    let params : I2c.Params := { uri := some "mpsse://0403:6014/" }
    let made : Trace interface := [.asked (.openAdapter ⟨0x0403, 0x6014⟩ 400000 true) (.ok ()),
      .asked .reserve true, .reported (.info "mpsse adapter opened")]
    let b : Bus Core := .new name { clock := 400000 }
    let us : List (Use I2c.methods) := [.method (.read ⟨0x20⟩ 2), .method (.write ⟨0x20⟩ [7]),
      .method (.read ⟨0x20⟩ 2), .method (.setFreq 100000), .method (.write ⟨0x21⟩ [7]),
      .method (.write ⟨0x20⟩ [7]), .release, .method (.read ⟨0x20⟩ 2)]
    let trace : Trace interface := [.asked .start (.error .ioError),
      .asked .start (.ok ()), .asked (.write [0x20]) (.ok ()), .asked .getAck false,
      .asked .stop (.ok ()),
      .asked .start (.ok ()), .asked (.write [0x21]) (.ok ()), .asked .getAck true,
      .asked (.read 2) (.error .ioError), .asked .sendNacks (), .asked (.read 1) (.ok [0]),
      .asked .sendAcks (), .asked .stop (.error .ioError),
      .reported (.debug "mpsse stop condition failed"),
      .asked (.setClock 100000) (.error .busy),
      .asked .start (.ok ()), .asked (.write [0x20]) (.ok ()), .asked .getAck true,
      .asked (.write [7]) (.error .ioError), .asked .stop (.ok ()),
      .asked .close (), .reported (.debug "bus released")]
    (create params).Runs made (.ok b) ∧ (life table us b).Runs trace () ∧
      Everywhere InOrder (calls trace) := by
  intro params made b us trace
  have hc : (create params).Runs made (.ok b) := by
    have hi : Identity.parse "mpsse://0403:6014/" = .ok ⟨0x0403, 0x6014⟩ := by rfl
    simp only [create, params, hi]
    exact .ask (.ask (.report (.done _)))
  have h : (life (M := I2c.methods) table us b).Runs trace () :=
    .ask (.ask (.ask (.ask (.ask (.ask (.ask (.ask (.ask (.ask (.ask (.ask (.ask (.report
      (.ask (.ask (.ask (.ask (.ask (.ask (.ask (.report (.done _))))))))))))))))))))))
  exact ⟨hc, h, (wire_in_order hc h).2.1⟩

end BusAccess.Adapter
