import BusAccess.Proofs.Daemon.Effect
import BusAccess.Proofs.Daemon.Spelling

/-!
# How a bus on a daemon is made, and which bus it is

A request for a bus says where the daemon is by its connection string, if it has one, and what it
leaves out is made up from elsewhere: the host and the port each on its own from the source that the
backend was set up with, and the bus number from the request.  `Connecting` lists what can come of
it.  A connection string that is not accepted is refused before the daemon is asked.  Otherwise there
is one request to the daemon to connect, and if it does the result depends only on whether there is
memory for the bus; a connection that comes to nothing for want of it is stopped.

The connection and the number of the bus are settled by this.  No call to the bus changes them, and
every device is opened by them (`opensOn_of_call`).
-/

set_option autoImplicit false

namespace BusAccess.Daemon

open Program (Trace calls requests)

/-! ## Making a bus -/

/-- Whether a request for a bus says where the daemon is and which bus to take.  Without a connection
string it does not say anything. -/
def Says (params : I2c.Params) (l : Location) : Prop :=
  match params.uri with
  | none => l = {}
  | some uri => Location.parse uri = .ok l

theorem says_of_none {params : I2c.Params} {l : Location} (h : params.uri = none) :
    Says params l ↔ l = {} := by
  rw [Says, h]

theorem says_of_some {params : I2c.Params} {l : Location} {uri : String}
    (h : params.uri = some uri) : Says params l ↔ Location.parse uri = .ok l := by
  rw [Says, h]

/-- What can come of a request for a bus. -/
inductive Connecting (source : Source) (params : I2c.Params) :
    Trace interface → Except Error (Bus Core) → Prop
  /-- The connection string is not accepted. -/
  | rejected {uri : String} {fault : Fault} {t : Trace interface} (hu : params.uri = some uri)
      (hl : Location.parse uri = .error fault) (ht : calls t = []) :
      Connecting source params t (.error .invalidUri)
  /-- The daemon does not answer. -/
  | unreachable {l : Location} {e : Error} (hl : Says params l) :
      Connecting source params
        [.asked (.connect (l.host <|> source.addr) (l.port <|> source.port)) (.error e),
          .reported (.debug "pigpio daemon unreachable")]
        (.error .noDevice)
  /-- There is no memory for the bus. -/
  | outOfMemory {l : Location} {link : Link} (hl : Says params l) :
      Connecting source params
        [.asked (.connect (l.host <|> source.addr) (l.port <|> source.port)) (.ok link),
          .asked .reserve false, .reported (.error "object allocation failed"),
          .asked (.stop link) ()]
        (.error .noMemory)
  | connected {l : Location} {link : Link} (hl : Says params l) :
      Connecting source params
        [.asked (.connect (l.host <|> source.addr) (l.port <|> source.port)) (.ok link),
          .asked .reserve true, .reported (.info "connected to pigpio daemon")]
        (.ok (.new name { link, busnum := (l.busnum <|> params.busnum).getD defaultBus }))

section Making

variable {source : Source} {params : I2c.Params} {t : Trace interface}
  {r : Except Error (Bus Core)}

theorem connecting_of_connect {l : Location} (hl : Says params l)
    (h : (connect source l params).Runs t r) : Connecting source params t r := by
  obtain ⟨answer, u, rfl, h₁⟩ := Program.runs_ask.1 h
  cases answer with
  | ok link =>
    obtain ⟨granted, v, rfl, h₂⟩ := Program.runs_ask.1 h₁
    cases granted with
    | true =>
      obtain ⟨w, rfl, h₃⟩ := Program.runs_report.1 h₂
      obtain ⟨rfl, rfl⟩ := Program.runs_done.1 h₃
      exact .connected hl
    | false =>
      obtain ⟨rfl, w, rfl, h₃⟩ := Bus.runs_outOfMemory.1 h₂
      obtain ⟨_, _, rfl, h₄⟩ := Program.runs_ask.1 h₃
      obtain ⟨rfl, -⟩ := Program.runs_done.1 h₄
      exact .outOfMemory hl
  | error e =>
    obtain ⟨v, rfl, h₂⟩ := Program.runs_report.1 h₁
    obtain ⟨rfl, rfl⟩ := Program.runs_done.1 h₂
    exact .unreachable hl

/-- **What can come of a request for a bus** is listed. -/
theorem connecting_of_create (h : (create source params).Runs t r) :
    Connecting source params t r := by
  rw [create] at h
  cases hu : params.uri with
  | none =>
    rw [hu] at h
    exact connecting_of_connect ((says_of_none hu).2 rfl) h
  | some uri =>
    rw [hu] at h
    cases hl : Location.parse uri with
    | ok l =>
      simp only [hl] at h
      exact connecting_of_connect ((says_of_some hu).2 hl) h
    | error fault =>
      cases fault with
      | malformed =>
        simp only [hl] at h
        obtain ⟨rfl, rfl⟩ := Program.runs_done.1 h
        exact .rejected hu hl rfl
      | hostTooLong =>
        simp only [hl] at h
        obtain ⟨v, rfl, h₁⟩ := Program.runs_report.1 h
        obtain ⟨rfl, rfl⟩ := Program.runs_done.1 h₁
        exact .rejected hu hl rfl

end Making

/-! ## Opening devices -/

/-- Whether a request, if it opens a device, does so on a certain connection and bus. -/
def Request.OpensOn (link : Link) (busnum : UInt32) : Request → Prop
  | openDevice l n _ _ => l = link ∧ n = busnum
  | _ => True

section Opening

variable {s s' : Core} {t : Trace interface}

/-- **A call opens devices on the bus of the backend**, and leaves the backend on it. -/
theorem opensOn_of_call {c : I2c.Call} {r : Except Error c.Answer}
    (h : (table.call c s).Runs t (r, s')) :
    (s'.link = s.link ∧ s'.busnum = s.busnum) ∧
      ∀ q ∈ requests t, q.OpensOn s.link s.busnum := by
  cases c with
  | openAt address =>
    rw [← Program.requests_calls]
    obtain ⟨e, ht, _, rfl⟩ | ⟨g, reply, _, ht, _, rfl⟩ | ⟨g, device, _, ht, _, rfl⟩ :=
      runs_openAt h
    all_goals
      rw [ht]
      simp [Request.OpensOn]
  | read device n =>
    obtain ⟨rfl, ⟨rfl, _⟩ | ⟨g, _, rfl⟩⟩ := runs_read h
    · exact ⟨⟨rfl, rfl⟩, nofun⟩
    · exact ⟨⟨rfl, rfl⟩, List.forall_mem_singleton.2 trivial⟩
  | write device data =>
    obtain ⟨rfl, ⟨rfl, _⟩ | ⟨g, reply, _, rfl⟩⟩ := runs_write h
    · exact ⟨⟨rfl, rfl⟩, nofun⟩
    · exact ⟨⟨rfl, rfl⟩, List.forall_mem_singleton.2 trivial⟩
  | close device =>
    obtain ⟨_, rfl, _, rfl⟩ | ⟨g, _, rfl, rfl⟩ := runs_close h
    · exact ⟨⟨rfl, rfl⟩, nofun⟩
    · exact ⟨⟨rfl, rfl⟩, List.forall_mem_singleton.2 trivial⟩
  | setFreq hz =>
    obtain ⟨rfl, _, rfl⟩ := BusAccess.Action.runs_throw.1 h
    exact ⟨⟨rfl, rfl⟩, nofun⟩
  | setClockStretch enable =>
    obtain ⟨rfl, _, rfl⟩ := BusAccess.Action.runs_throw.1 h
    exact ⟨⟨rfl, rfl⟩, nofun⟩

/-- Disconnecting opens nothing. -/
theorem opensOn_of_release {link : Link} {busnum : UInt32} {r : Except Error Unit}
    (h : (table.release s).Runs t (r, s')) : ∀ q ∈ requests t, q.OpensOn link busnum := by
  rw [(runs_release h).2]
  intro q hq
  rcases List.mem_append.1 hq with hq | hq
  · obtain ⟨g, _, rfl⟩ := List.mem_map.1 hq
    trivial
  · rw [List.mem_singleton.1 hq]
    trivial

end Opening

end BusAccess.Daemon
