import BusAccess.Proofs.Daemon.Creation
import BusAccess.Proofs.Daemon.Ledger
import Mathlib.Data.List.Nodup

/-!
# The life of a bus on a daemon

Two accounts of what a bus has open have to agree with what the daemon thinks.

The count of open devices is the size of the table, and it stays so whatever the daemon answers,
except to a request to close a device: if the answer says that the handle is not known, the device
is gone from the table and still counts (`count_eq_table_and_misread`).

No number that the daemon hands out is lost, and none is given back twice
(`every_device_closed_once`).  A bus gives a number back when the device is closed, when no handle
can name it, or when the bus is taken down; the last happens once in its life, in ascending order
and without regard for the answers, and is followed by the end of the connection.
-/

set_option autoImplicit false

namespace BusAccess.Daemon

open Program (Trace Step calls requests)
open Bus (uses life)

variable {s s' : Core} {t u : Trace interface} {g : UInt32}

/-! ## The count -/

/-- A device that leaves the table is counted down by one, or its closing is misread. -/
theorem openDevices_after_close {link : Link} {past : Trace interface} {b b' : Bus Core}
    (hb : Standing link past b s) (hs : b.core = some s) {device : DeviceHandle}
    {r : Except Error Unit} (h : (Bus.call table (.close device) b).Runs t (r, b'))
    (hs' : b'.core = some s') (hne : s'.handles ≠ s.handles) :
    b'.openDevices + 1 = b.openDevices ∨ r = .error .invalidHandle ∨ r = .error .invalidObject := by
  obtain ⟨s₁, h₁, rfl⟩ := Bus.runs_call hs h
  obtain rfl := Option.some.inj hs'
  obtain ⟨_, _, _, rfl⟩ | ⟨g, hg, _, rfl⟩ := runs_close h₁
  · exact absurd rfl hne
  · have hpos : 0 < b.openDevices := by
      have hlen := List.length_pos_of_mem (mem_of_named? hg)
      rw [hb.count]
      omega
    cases r with
    | ok _ => exact .inl (Nat.sub_add_cancel hpos)
    | error e =>
      cases e with
      | invalidHandle => exact .inr (.inl rfl)
      | invalidObject => exact .inr (.inr rfl)
      | _ => exact .inl (Nat.sub_add_cancel hpos)

/-- **The count is the size of the table and what was misread.**  After any uses of a new bus on a
daemon that hands out no number that is open, no device counts as open if the bus is released.  If
it is not, the table holds what is open, in ascending order; the count is its size, and one more for
every closing that was misread; and closing a device counts it down unless it is misread.  So the
count is right, and the bus has devices open just if the table has, as long as nothing is misread.
-/
theorem count_eq_table_and_misread {link : Link} {busnum : UInt32} {us : List (Use I2c.methods)}
    {trace : Trace interface} {b : Bus Core}
    (h : (uses (M := I2c.methods) table us (.new name { link, busnum })).Runs trace b)
    (hf : Fresh trace) :
    (b.core = none → b.openDevices = 0) ∧
      ∀ s, b.core = some s →
        s.handles.Pairwise (· < ·) ∧ (∀ g, g ∈ s.handles ↔ IsOpen g trace) ∧
        b.openDevices = s.handles.length + misread trace ∧
        (misread trace = 0 → (b.state = .deviceOpen ↔ s.handles ≠ [])) ∧
        ∀ device t r b' s', (Bus.call table (.close device) b).Runs t (r, b') →
          b'.core = some s' → s'.handles ≠ s.handles →
          b'.openDevices + 1 = b.openDevices ∨
            r = .error .invalidHandle ∨ r = .error .invalidObject := by
  obtain ⟨hgone, hcore⟩ :=
    (ledger_preserved link).of_uses (M := I2c.methods) (ledger_new link busnum) h hf
  refine ⟨hgone, fun s hs ↦ ?_⟩
  have hb := hcore s hs
  rw [List.nil_append] at hb
  refine ⟨hb.accounts.ascending, fun g ↦ hb.accounts.isOpen_iff.symm, hb.count, fun hm ↦ ?_, ?_⟩
  · rw [Bus.state_eq_deviceOpen_iff hs, hb.count, hm, Nat.add_zero]
    exact not_congr List.length_eq_zero_iff
  · intro device t r b' s' hr hs' hne
    exact openDevices_after_close hb hs hr hs' hne

/-- Two devices are opened, and the daemon fails to close one of them. -/
theorem count_after_failed_close :
    let trace : Trace interface := [.asked (.openDevice 0 1 0x10 0) (.ok 7),
      .asked (.openDevice 0 1 0x20 0) (.ok 3), .asked (.closeDevice 0 7) (.error .ioError)]
    let b : Bus Core := { backend := name, core := some ⟨0, 1, [3]⟩, openDevices := 1 }
    (uses (M := I2c.methods) table
        [.method (.openAt 0x10), .method (.openAt 0x20), .method (.close ⟨7⟩)]
        (.new name { link := 0, busnum := 1 })).Runs trace b ∧
      Fresh trace ∧ b.openDevices = [3].length + misread trace := by
  intro trace b
  have h : (uses (M := I2c.methods) table
      [.method (.openAt 0x10), .method (.openAt 0x20), .method (.close ⟨7⟩)]
      (.new name { link := 0, busnum := 1 })).Runs trace b := .ask (.ask (.ask (.done _)))
  have hf : Fresh trace := by decide
  exact ⟨h, hf, ((count_eq_table_and_misread h hf).2 _ rfl).2.2.1⟩

/-- The only device is closed, and the daemon says that it does not know its number. -/
theorem count_after_misread_close :
    ∃ trace, ∃ b : Bus Core,
      (uses (M := I2c.methods) table [.method (.openAt 0x10), .method (.close ⟨0⟩)]
        (.new name { link := 0, busnum := 1 })).Runs trace b ∧
      Fresh trace ∧ b.core = some ⟨0, 1, []⟩ ∧ b.openDevices = 1 ∧ b.state = .deviceOpen := by
  refine ⟨[.asked (.openDevice 0 1 0x10 0) (.ok 0),
    .asked (.closeDevice 0 0) (.error .invalidHandle)],
    { backend := name, core := some ⟨0, 1, []⟩, openDevices := 1 }, .ask (.ask (.done _)),
    by decide, rfl, rfl, rfl⟩

/-! ## The devices -/

/-- A new bus has one connection and nothing open. -/
theorem runs_create {source : Source} {params : I2c.Params} {b : Bus Core}
    (h : (create source params).Runs t (.ok b)) :
    ∃ host port link busnum e,
      t = [.asked (.connect host port) (.ok link), .asked .reserve true, .reported e] ∧
      b = .new name { link, busnum } := by
  cases connecting_of_create h with
  | connected hl => exact ⟨_, _, _, _, _, rfl, rfl⟩

/-- Giving back numbers and ending the connection closes each number as often as it is listed. -/
theorem dealings_of_requests {link : Link} {l : List UInt32}
    (ht : requests t = l.map (.closeDevice link) ++ [.stop link]) :
    dealings g t = List.replicate (l.count g) .closed := by
  induction t generalizing l with
  | nil => exact absurd ht.symm (List.append_ne_nil_of_right_ne_nil _ (List.cons_ne_nil _ _))
  | cons x t ih =>
    cases x with
    | reported e => exact ih ht
    | asked q reply =>
      cases l with
      | nil =>
        obtain ⟨rfl, hnil⟩ := List.cons.inj ht
        exact dealings_of_calls_eq_nil (t := t) (Program.requests_eq_nil_iff.1 hnil)
      | cons a l =>
        obtain ⟨rfl, hrest⟩ := List.cons.inj ht
        rw [dealings_closed, ih hrest, List.count_cons]
        by_cases ha : a = g
        · rw [if_pos ha, if_pos (beq_iff_eq.2 ha), List.replicate_succ]
          rfl
        · rw [if_neg ha, if_neg (mt beq_iff_eq.1 ha)]
          rfl

/-- A number that no handle can name makes opening a device fail. -/
theorem backendFailure_of_opened {b b' : Bus Core} {address : UInt16}
    {r : Except Error DeviceHandle} (h : (Bus.call table (.openAt address) b).Runs t (r, b'))
    (ho : .opened ∈ dealings g t) (hg : DeviceHandle.ofUnsigned? g = none) :
    r = .error .backendFailure := by
  cases hb : b.core with
  | none =>
    obtain ⟨rfl, _⟩ := Bus.runs_call_gone hb h
    exact absurd ho List.not_mem_nil
  | some s =>
    obtain ⟨s', h₁, _⟩ := Bus.runs_call hb h
    rw [← dealings_calls] at ho
    obtain ⟨e, ht, _⟩ | ⟨a, reply, _, _, hr, _⟩ | ⟨a, device, ha, ht, _⟩ := runs_openAt h₁
    · rw [ht] at ho
      exact absurd ho List.not_mem_nil
    · exact hr
    · rw [ht, dealings_opened, dealings_nil, List.append_nil] at ho
      by_cases hag : a = g
      · rw [hag, hg] at ha
        exact absurd ha nofun
      · rw [if_neg hag] at ho
        exact absurd ho List.not_mem_nil

/-- **Every device is closed once.**  Through the whole life of a bus that is made on a daemon, if
the daemon hands out no number that is open, every number goes out and comes back in turn, and it
has come back in the end.  The requests are about devices on the connection of the bus, until the
bus is released or given up: then come the numbers that are open at that time, in ascending order,
and the end of the connection, and nothing after that.  A number that no handle can name is no
success. -/
theorem every_device_closed_once {source : Source} {params : I2c.Params}
    {us : List (Use I2c.methods)} {made trace : Trace interface} {b : Bus Core}
    (hc : (create source params).Runs made (.ok b))
    (h : (life (M := I2c.methods) table us b).Runs trace ()) (hf : Fresh trace) :
    ∃ host port link,
      calls made = [.asked (.connect host port) (.ok link), .asked .reserve true] ∧
      (∀ g, ∃ n, dealings g trace = (List.replicate n [.opened, .closed]).flatten) ∧
      (∃ before last b' s, trace = before ++ last ∧
        (uses (M := I2c.methods) table (us.takeWhile Use.isMethod) b).Runs before b' ∧
        b'.core = some s ∧ (∀ q ∈ requests before, q.OnDevice link) ∧
        s.handles.Pairwise (· < ·) ∧ (∀ g, g ∈ s.handles ↔ IsOpen g before) ∧
        requests last = s.handles.map (.closeDevice link) ++ [.stop link]) ∧
      ∀ b₁ address t r b₂, (Bus.call table (.openAt address) b₁).Runs t (r, b₂) →
        ∀ g, .opened ∈ dealings g t → DeviceHandle.ofUnsigned? g = none →
          r = .error .backendFailure := by
  obtain ⟨host, port, link, busnum, e, rfl, rfl⟩ := runs_create hc
  obtain ⟨before, b', s, last, r, s', rest, hu, hs, hr, hrest, rfl⟩ :=
    Bus.life_split (Option.some_ne_none _) h
  have hb := ((ledger_preserved link).of_uses (ledger_new link busnum) hu hf.left).2 s hs
  rw [List.nil_append] at hb
  have hlast : requests last = s.handles.map (.closeDevice link) ++ [.stop link] := by
    rw [(runs_release hr).2, hb.link_eq]
  refine ⟨host, port, link, rfl, fun g ↦ ?_, ?_, ?_⟩
  · obtain ⟨n, hn⟩ := hb.accounts.paired g
    rw [dealings_append, dealings_append, dealings_of_calls_eq_nil hrest, List.append_nil,
      dealings_of_requests hlast, hn]
    by_cases hg : g ∈ s.handles
    · refine ⟨n + 1, ?_⟩
      rw [if_pos hg, List.count_eq_one_of_mem hb.accounts.nodup hg, List.append_assoc]
      exact pairs_append n
    · refine ⟨n, ?_⟩
      rw [if_neg hg, List.count_eq_zero_of_not_mem hg, List.append_nil]
      exact List.append_nil _
  · refine ⟨before, last ++ rest, b', s, rfl, hu, hs, hb.requests, hb.accounts.ascending,
      fun g ↦ hb.accounts.isOpen_iff.symm, ?_⟩
    rw [Program.requests_append, hlast, Program.requests_eq_nil_iff.2 hrest, List.append_nil]
  · intro b₁ address t r b₂ ht g ho hg
    exact backendFailure_of_opened ht ho hg

/-- A number is used again, one fits no handle, and two are open when the bus is given up. -/
theorem every_device_closed_despite_failures :
    let made : Trace interface :=
      [.asked (.connect none none) (.ok 0), .asked .reserve true,
        .reported (.info "connected to pigpio daemon")]
    let b : Bus Core := .new name { link := 0, busnum := 1 }
    let us : List (Use I2c.methods) := [.method (.openAt 0x10), .method (.close ⟨5⟩),
      .method (.openAt 0x11), .method (.openAt 0x12), .method (.openAt 0x13)]
    let trace : Trace interface := [.asked (.openDevice 0 1 0x10 0) (.ok 5),
      .asked (.closeDevice 0 5) (.error .ioError), .asked (.openDevice 0 1 0x11 0) (.ok 5),
      .asked (.openDevice 0 1 0x12 0) (.ok 0x80000000),
      .reported (.warn "pigpio handle out of range"),
      .asked (.closeDevice 0 0x80000000) (.ok ()), .asked (.openDevice 0 1 0x13 0) (.ok 2),
      .asked (.closeDevice 0 2) (.error .busy),
      .reported (.debug "closing leftover pigpio handle failed"), .asked (.closeDevice 0 5) (.ok ()),
      .asked (.stop 0) ()]
    (create {} {}).Runs made (.ok b) ∧ (life table us b).Runs trace () ∧ Fresh trace ∧
      ∀ g, ∃ n, dealings g trace = (List.replicate n [.opened, .closed]).flatten := by
  intro made b us trace
  have hc : (create {} {}).Runs made (.ok b) := .ask (.ask (.report (.done _)))
  have h : (life (M := I2c.methods) table us b).Runs trace () :=
    .ask (.ask (.ask (.ask (.report (.ask (.ask (.ask (.report (.ask (.ask (.done _)))))))))))
  have hf : Fresh trace := by decide
  obtain ⟨_, _, _, _, hp, _⟩ := every_device_closed_once hc h hf
  exact ⟨hc, h, hf, hp⟩

end BusAccess.Daemon
