import BusAccess.Proofs.Book
import BusAccess.Proofs.Daemon.Effect
import BusAccess.Proofs.Everywhere

/-!
# The ledger of a connection

What a daemon hands out and takes back can be read off the requests alone: a number is `opened` by a
reply that hands it out, and `closed` by the request to take it back, whatever is answered.  The
`dealings` of a number are these in order, and it is open as long as the last of them is `opened`.
The daemon numbers devices as it likes and uses a number again once it has it back; all that is
asked of it is that it hands out no number that is open (`Fresh`).

Device numbers are things that are handed out and taken back, so the dealings are the entries of a
`Book`.  The backend has an account of its own, the table.  `Accounts` says how the two agree: for
every number, the dealings are pairs of `opened` and `closed`, followed by one more `opened` if the
number is in the table.  Each effect of a call keeps that up (`Accounts.effect_numbers`), and
disconnecting completes the pairs.

A bus keeps a third account, the count of open devices, and it learns only how a call came out.  If
the daemon says of a device that is being closed that the handle is not known, the bus takes it to
be the backend that says so, and does not count the device as closed, though it has left the table.
Every such answer (`misread`) makes the count larger by one than the table until the bus is
released, and nothing else does.
-/

set_option autoImplicit false

namespace BusAccess.Daemon

open Program (Trace Step calls requests)

variable {s s' : Core} {t u : Trace interface} {g h : UInt32}

/-! ## Dealings -/

/-- What can happen to a device number. -/
inductive Dealing where
  | opened
  | closed
  deriving DecidableEq, Repr

/-- What a step does to a device number. -/
def dealing? (g : UInt32) : Step interface → Option Dealing
  | .asked (.openDevice _ _ _ _) (.ok h) => if h = g then some .opened else none
  | .asked (.closeDevice _ h) _ => if h = g then some .closed else none
  | _ => none

/-- What happens to a device number in a run. -/
def dealings (g : UInt32) (t : Trace interface) : List Dealing := t.filterMap (dealing? g)

/-- Whether a device number has been handed out and not been taken back. -/
def IsOpen (g : UInt32) (t : Trace interface) : Prop := (dealings g t).getLast? = some .opened

instance (g : UInt32) (t : Trace interface) : Decidable (IsOpen g t) :=
  inferInstanceAs (Decidable (_ = _))

/-- The device number that a step hands out, if it hands out one. -/
def handedOut? : Step interface → Option UInt32
  | .asked (.openDevice _ _ _ _) (.ok g) => some g
  | _ => none

/-- The daemon never hands out a number that is open. -/
def Fresh (t : Trace interface) : Prop :=
  Everywhere (fun before x _ ↦ ∀ g ∈ handedOut? x, ¬ IsOpen g before) (calls t)

-- Only the number that is handed out is to be looked at, and not every number there is.
instance (t : Trace interface) : Decidable (Fresh t) :=
  @Everywhere.decidable _ _ (fun _ x _ ↦ Option.decidableForallMem (handedOut? x)) (calls t)

/-- The book of the device numbers. -/
def numbers : Book interface UInt32 Dealing where
  entry? := dealing?
  out := .opened
  back := .closed
  out_ne_back := nofun
  entry?_reported _ _ := rfl

@[simp] theorem dealings_nil : dealings g [] = [] := rfl

@[simp] theorem dealings_append : dealings g (t ++ u) = dealings g t ++ dealings g u :=
  numbers.entries_append

theorem dealings_cons {x : Step interface} :
    dealings g (x :: t) = (dealing? g x).toList ++ dealings g t :=
  numbers.entries_cons

@[simp] theorem dealings_opened {link : Link} {bus flags : UInt32} {address : UInt16} :
    dealings g (.asked (.openDevice link bus address flags) (.ok h) :: t) =
      (if h = g then [.opened] else []) ++ dealings g t := by
  rw [dealings_cons, dealing?]
  split <;> rfl

@[simp] theorem dealings_closed {link : Link} {reply : Except Error Unit} :
    dealings g (.asked (.closeDevice link h) reply :: t) =
      (if h = g then [.closed] else []) ++ dealings g t := by
  rw [dealings_cons, dealing?]
  split <;> rfl

theorem dealings_calls : dealings g (calls t) = dealings g t := numbers.entries_calls

theorem dealings_of_calls_eq_nil (ht : calls t = []) : dealings g t = [] :=
  numbers.entries_of_calls_eq_nil ht

theorem dealings_of_passive {link : Link} {x : Step interface} (hx : Passive link x) :
    dealings g [x] = [] := by
  match x, hx with
  | .asked (.openDevice _ _ _ _) (.error _), _ => rfl
  | .asked (.readDevice _ _ _) _, _ => rfl
  | .asked (.writeDevice _ _ _) _, _ => rfl

theorem Fresh.left (hf : Fresh (t ++ u)) : Fresh t := by
  rw [Fresh, Program.calls_append] at hf
  exact (everywhere_append.1 hf).1

/-- What has just been handed out was not open before. -/
theorem Fresh.not_isOpen {link : Link} {bus flags : UInt32} {address : UInt16} {w : Trace interface}
    (hf : Fresh (t ++ u))
    (hu : calls u = .asked (.openDevice link bus address flags) (.ok g) :: w) : ¬ IsOpen g t := by
  have hg := hf (calls t) _ w (by rw [Program.calls_append, hu]) g rfl
  rwa [IsOpen, dealings_calls] at hg

/-! ## The table agrees with the dealings -/

/-- Opened and closed again, some number of times. -/
def pairs (n : Nat) : List Dealing := (List.replicate n [.opened, .closed]).flatten

theorem pairs_append (n : Nat) : pairs n ++ [.opened, .closed] = pairs (n + 1) := rounds_append n

/-- The table and the dealings so far agree. -/
structure Accounts (s : Core) (past : Trace interface) : Prop where
  /-- The table is in order, so nothing is in it twice. -/
  ascending : s.handles.Pairwise (· < ·)
  /-- Every number in it fits into a handle. -/
  usable : ∀ g ∈ s.handles, (DeviceHandle.ofUnsigned? g).isSome
  /-- Each number was opened and closed by turns, and is open if it is in the table. -/
  paired : ∀ g, ∃ n, dealings g past = pairs n ++ if g ∈ s.handles then [.opened] else []

namespace Accounts

variable {past : Trace interface}

theorem new (link : Link) (busnum : UInt32) : Accounts { link, busnum } [] where
  ascending := .nil
  usable := nofun
  paired _ := ⟨0, rfl⟩

theorem nodup (hs : Accounts s past) : s.handles.Nodup :=
  hs.ascending.imp UInt32.ne_of_lt

theorem balanced (hs : Accounts s past) : numbers.Balanced s.handles past := ⟨hs.nodup, hs.paired⟩

/-- **What is open is in the table.** -/
theorem isOpen_iff (hs : Accounts s past) : IsOpen g past ↔ g ∈ s.handles := hs.balanced.isOut_iff

/-- What has just been handed out was not in the table before. -/
theorem not_mem_of_fresh (hs : Accounts s past) (hf : Fresh (past ++ t)) {link : Link}
    {bus flags : UInt32} {address : UInt16} {w : Trace interface}
    (ht : calls t = .asked (.openDevice link bus address flags) (.ok g) :: w) : g ∉ s.handles :=
  fun hm ↦ hf.not_isOpen ht (hs.isOpen_iff.2 hm)

/-- A number that no handle can name is not in the table. -/
theorem not_mem_of_unnamed (hs : Accounts s past) (hg : DeviceHandle.ofUnsigned? g = none) :
    g ∉ s.handles := fun hm ↦ by
  have hu := hs.usable g hm
  rw [hg] at hu
  exact absurd hu nofun

/-- **What a call does to the table and to the numbers.** -/
theorem effect_numbers (hs : Accounts s past) (hf : Fresh (past ++ t)) {f : Nat → Nat}
    (he : Effect s (calls t) f s') : ∃ f', numbers.Effect s.handles t f' s'.handles := by
  generalize hw : calls t = w at he
  have ht (g : UInt32) : numbers.entries g t = dealings g w := by
    rw [← hw]
    exact numbers.entries_calls.symm
  cases he with
  | idle => exact ⟨id, .idle ht⟩
  | passed hp => exact ⟨id, .idle fun g ↦ (ht g).trans (dealings_of_passive hp)⟩
  | @opened address a ha =>
    have hnot := hs.not_mem_of_fresh hf hw
    refine ⟨(· + 1), .opened hnot (insertHandle_perm hnot) fun g ↦ ?_⟩
    rw [ht, dealings_opened, dealings_nil, List.append_nil]
    rfl
  | @refused address a reply ha =>
    -- The pair is complete at once.
    refine ⟨id, .undone (hs.not_mem_of_unnamed ha) fun g ↦ ?_⟩
    rw [ht, dealings_opened, dealings_closed, dealings_nil]
    split <;> rfl
  | @closed a reply ha =>
    refine ⟨(· - 1), .closed (List.perm_cons_erase ha) fun g ↦ ?_⟩
    rw [ht, dealings_closed, dealings_nil, List.append_nil]
    rfl

/-- **Every call keeps the accounts in agreement.** -/
theorem after_effect (hs : Accounts s past) (hf : Fresh (past ++ t)) {f : Nat → Nat}
    (he : Effect s (calls t) f s') : Accounts s' (past ++ t) := by
  obtain ⟨_, hn⟩ := hs.effect_numbers hf he
  have hp := (hs.balanced.after_effect hn).alternates
  generalize calls t = w at he
  cases he with
  | idle => exact ⟨hs.ascending, hs.usable, hp⟩
  | passed => exact ⟨hs.ascending, hs.usable, hp⟩
  | refused => exact ⟨hs.ascending, hs.usable, hp⟩
  | @opened address a ha =>
    refine ⟨pairwise_insertHandle hs.ascending, fun g hg ↦ ?_, hp⟩
    rcases mem_insertHandle.1 hg with rfl | hg
    · exact ha
    · exact hs.usable g hg
  | closed =>
    exact ⟨hs.ascending.sublist List.erase_sublist,
      fun g hg ↦ hs.usable g (List.mem_of_mem_erase hg), hp⟩

end Accounts

/-! ## The count of open devices -/

/-- Whether a device number is taken back, for a handle, with an answer that says that the handle is
not known. -/
def misread? : Step interface → Bool
  | .asked (.closeDevice _ g) (.error .invalidHandle) => (DeviceHandle.ofUnsigned? g).isSome
  | .asked (.closeDevice _ g) (.error .invalidObject) => (DeviceHandle.ofUnsigned? g).isSome
  | _ => false

/-- How often an answer of the daemon is taken for one of the backend. -/
def misread (t : Trace interface) : Nat := t.countP misread?

theorem misread_append : misread (t ++ u) = misread t + misread u := List.countP_append

theorem misread_calls : misread (calls t) = misread t := by
  induction t with
  | nil => rfl
  | cons x t ih =>
    cases x with
    | reported e =>
      rw [Program.calls_reported, ih, misread, misread, List.countP_cons_of_neg]
      exact nofun
    | asked q r =>
      rw [Program.calls_asked, misread, misread, List.countP_cons, List.countP_cons]
      rw [← misread, ← misread, ih]

/-- A device that no handle can name is closed without anybody minding the answer. -/
theorem misread_refused {link : Link} {reply : Except Error Unit}
    (hg : DeviceHandle.ofUnsigned? g = none) :
    misread [.asked (.closeDevice link g) reply] = 0 := by
  rw [misread, List.countP_singleton, if_neg]
  cases reply with
  | ok _ => exact nofun
  | error e => cases e <;> simp [misread?, hg]

/-- The count goes down by one unless the answer is misread. -/
theorem count_closes {link : Link} {reply : Except Error Unit}
    (hg : (DeviceHandle.ofUnsigned? g).isSome) {n : Nat} :
    Role.closes.count reply (n + 1) = n + misread [.asked (.closeDevice link g) reply] := by
  rw [misread, List.countP_singleton]
  cases reply with
  | ok _ => rfl
  | error e =>
    cases e with
    | invalidHandle => rw [misread?, if_pos hg]; rfl
    | invalidObject => rw [misread?, if_pos hg]; rfl
    | _ => rfl

/-- **Every call changes the count as it changes the table**, but for what is misread. -/
theorem count_after_effect {past : Trace interface} (hs : Accounts s past)
    (hf : Fresh (past ++ t)) {f : Nat → Nat} (he : Effect s (calls t) f s') {n : Nat} :
    f (s.handles.length + n) = s'.handles.length + (n + misread t) := by
  rw [← misread_calls]
  generalize hw : calls t = w at he
  cases he with
  | idle => rfl
  | @passed x hx =>
    match x, hx with
    | .asked (.openDevice _ _ _ _) (.error _), _ => rfl
    | .asked (.readDevice _ _ _) _, _ => rfl
    | .asked (.writeDevice _ _ _) _, _ => rfl
  | @opened address a ha =>
    have hnot := hs.not_mem_of_fresh hf hw
    have hm : misread [.asked (.openDevice s.link s.busnum address 0) (.ok a)] = 0 := rfl
    rw [hm, (insertHandle_perm hnot).length_eq, List.length_cons]
    exact Nat.add_right_comm _ _ _
  | @refused address a reply ha =>
    rw [misread, List.countP_cons_of_neg Bool.false_ne_true, ← misread, misread_refused ha]
    rfl
  | @closed a reply ha =>
    rw [(List.perm_cons_erase ha).length_eq, List.length_cons, Nat.add_right_comm,
      count_closes (hs.usable a ha), Nat.add_assoc]

/-! ## Through all uses -/

/-- Whether a request is about a device on a connection. -/
def Request.OnDevice (link : Link) : Request → Prop
  | .openDevice l _ _ _ => l = link
  | .readDevice l _ _ => l = link
  | .writeDevice l _ _ => l = link
  | .closeDevice l _ => l = link
  | .connect _ _ => False
  | .stop _ => False
  | .reserve => False

theorem onDevice_of_effect {f : Nat → Nat} (he : Effect s (calls t) f s') :
    s'.link = s.link ∧ ∀ q ∈ requests t, q.OnDevice s.link := by
  rw [← Program.requests_calls]
  generalize calls t = w at he
  cases he with
  | idle => exact ⟨rfl, nofun⟩
  | @passed x hx =>
    match x, hx with
    | .asked (.openDevice _ _ _ _) (.error _), hx => exact ⟨rfl, List.forall_mem_singleton.2 hx⟩
    | .asked (.readDevice _ _ _) _, hx => exact ⟨rfl, List.forall_mem_singleton.2 hx⟩
    | .asked (.writeDevice _ _ _) _, hx => exact ⟨rfl, List.forall_mem_singleton.2 hx⟩
  | opened => exact ⟨rfl, List.forall_mem_singleton.2 rfl⟩
  | refused => exact ⟨rfl, List.forall_mem_cons.2 ⟨rfl, List.forall_mem_singleton.2 rfl⟩⟩
  | closed => exact ⟨rfl, List.forall_mem_singleton.2 rfl⟩

/-- What is known of a bus on a connection that still has its backend. -/
structure Standing (link : Link) (past : Trace interface) (b : Bus Core) (s : Core) : Prop where
  /-- It is the connection that the bus was made with. -/
  link_eq : s.link = link
  /-- The table agrees with the dealings. -/
  accounts : Accounts s past
  /-- The count exceeds the table by the closings that were misread. -/
  count : b.openDevices = s.handles.length + misread past
  /-- Everything that was asked is about a device on this connection. -/
  requests : ∀ q ∈ requests past, q.OnDevice link

/-- What is known of a bus on a connection of a daemon that hands out no number that is open. -/
def Ledger (link : Link) (past : Trace interface) (b : Bus Core) : Prop :=
  Fresh past → (b.core = none → b.openDevices = 0) ∧ ∀ s, b.core = some s → Standing link past b s

theorem ledger_new (link : Link) (busnum : UInt32) :
    Ledger link [] (.new name { link, busnum }) := by
  refine fun _ ↦ ⟨nofun, ?_⟩
  rintro s ⟨⟩
  exact ⟨rfl, .new link busnum, rfl, nofun⟩

theorem ledger_preserved (link : Link) : Bus.Preserved table (Ledger link) where
  call {past b s c t r s'} hb hs h hf := by
    have he := effect_of_call h
    obtain ⟨hl, ha, hc, hq⟩ := (hb hf.left).2 s hs
    refine ⟨nofun, ?_⟩
    rintro _ ⟨⟩
    obtain ⟨hl', hq'⟩ := onDevice_of_effect he
    refine ⟨hl'.trans hl, ha.after_effect hf he, ?_, ?_⟩
    · show c.role.count r b.openDevices = _
      rw [misread_append, hc]
      exact count_after_effect ha hf he
    · rw [Program.requests_append]
      rw [hl] at hq'
      exact List.forall_mem_append.2 ⟨hq, hq'⟩
  release _ _ _ _ := ⟨fun _ ↦ rfl, nofun⟩

end BusAccess.Daemon
