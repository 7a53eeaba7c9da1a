import BusAccess.Platform.Basic
import BusAccess.Proofs.Daemon.Creation
import BusAccess.Proofs.Registry.Admission
import BusAccess.Proofs.Weaving

/-!
# Where a platform connects to its daemon

From the variables of a configuration to a request to the daemon it is a long way.  The settings are
read when the platform is set up, and the backend of the daemon takes its own when it is registered.
The registry picks a backend for each request, or tries one after the other.  The backend reads the
connection string and puts together what that says and what it was set up with.

Each of these has its lemma here.  A roster keeps how its backends make buses, whatever else is done
to it, so the backend of the daemon is still the one that was registered (`Roster.maker_after`).
Nobody is asked twice for one bus, so what happens in answer to the one request to it is a single
stretch of the whole run (`Program.Woven.split`), and this is a run of the daemon's own program
(`connecting_of_daemon`).
-/

set_option autoImplicit false

namespace BusAccess

open Program (Trace Step Woven calls requests)

/-! ## The daemon as a part of the surroundings -/

namespace Surroundings

/-- A step of the daemon's backend as a step of a platform. -/
def ofDaemon : Step Daemon.interface → Step interface
  | .reported e => .reported e
  | .asked q r => .asked (.daemon q) r

variable {t : Trace Daemon.interface} {v : Trace interface}

/-- The requests of the daemon's backend are passed on as they are. -/
theorem eq_map_of_woven (h : Woven daemon t v) : v = t.map ofDaemon := by
  induction h with
  | nil => rfl
  | reported _ ih => rw [List.map_cons, ofDaemon, ih]
  | asked hv _ ih =>
    obtain ⟨r, u, rfl, hu⟩ := Program.runs_ask.1 hv
    obtain ⟨rfl, rfl⟩ := Program.runs_done.1 hu
    rw [List.map_cons, ofDaemon, ih, List.singleton_append]

theorem requests_map_ofDaemon (t : Trace Daemon.interface) :
    requests (t.map ofDaemon) = (requests t).map .daemon := by
  induction t with
  | nil => rfl
  | cons s t ih =>
    cases s with
    | reported e => exact ih
    | asked q r => exact congrArg (Request.daemon q :: ·) ih

/-- Whether a request, if it has the daemon open a device, does so on a certain connection and
bus. -/
def Request.OpensOn (link : Daemon.Link) (busnum : UInt32) : Request → Prop
  | daemon q => q.OpensOn link busnum
  | _ => True

/-- What the daemon's backend opens is all that is opened. -/
theorem opensOn_of_woven {link : Daemon.Link} {busnum : UInt32} (hw : Woven daemon t v)
    (h : ∀ q ∈ requests t, q.OpensOn link busnum) : ∀ q ∈ requests v, q.OpensOn link busnum := by
  rw [eq_map_of_woven hw, requests_map_ofDaemon]
  exact List.forall_mem_map.2 h

end Surroundings

/-- The runs of a program that makes a bus in other surroundings. -/
theorem Program.runs_madeWithin {S T : Interface} {σ τ : Type}
    {answer : (q : S.Request) → Program T (S.Reply q)} {f : σ → τ}
    {p : Program S (Except Error (Bus σ))} {v : Trace T} {r : Except Error (Bus τ)}
    (h : (p.madeWithin answer f).Runs v r) :
    ∃ t made, p.Runs t made ∧ Woven answer t v ∧ r = made.map (Bus.map f) := by
  obtain ⟨v₁, made, v₂, h₁, h₂, rfl⟩ := Program.runs_bind.1 h
  obtain ⟨rfl, rfl⟩ := Program.runs_done.1 h₂
  obtain ⟨t, ht, hw⟩ := Program.runs_interpret.1 h₁
  rw [List.append_nil]
  exact ⟨t, made, ht, hw, rfl⟩

/-- What comes of asking the daemon's backend on a platform. -/
theorem connecting_of_daemon {source : Daemon.Source} {name : String} {params : I2c.Params}
    {v : Trace Surroundings.interface} {r : Except Error (Bus I2cCore)}
    (h : (I2cMaker.create name params (.daemon source)).Runs v r) :
    ∃ t made, Daemon.Connecting source params t made ∧ v = t.map Surroundings.ofDaemon ∧
      r = made.map (Bus.map .daemon) := by
  obtain ⟨t, made, ht, hw, hr⟩ := Program.runs_madeWithin h
  exact ⟨t, made, Daemon.connecting_of_create ht, Surroundings.eq_map_of_woven hw, hr⟩

/-- Whether the backend of a bus is the daemon's, on a certain connection and bus. -/
def I2cCore.OnDaemon (link : Daemon.Link) (busnum : UInt32) (s : I2cCore) : Prop :=
  ∃ core : Daemon.Core, s = .daemon core ∧ core.link = link ∧ core.busnum = busnum

/-- **A bus on the daemon opens its devices there**, all its life, on the connection and the bus that
it was made with. -/
theorem opensOn_of_life {name : String} {core : Daemon.Core} {us : List (Use I2c.methods)}
    {t : Trace Surroundings.interface}
    (h : (Bus.life (M := I2c.methods) I2cCore.table us (.new name (.daemon core))).Runs t ()) :
    ∀ q ∈ requests t, q.OpensOn core.link core.busnum := by
  refine Bus.requests_of_life (I := I2cCore.OnDaemon core.link core.busnum) ?_ ?_ ?_ h
  · rintro _ c v r s' ⟨d, rfl, hl, hn⟩ hv
    obtain ⟨u, d', hu, hw, rfl⟩ := Action.runs_within hv
    obtain ⟨⟨hl', hn'⟩, ho⟩ := Daemon.opensOn_of_call hu
    rw [hl, hn] at ho
    exact ⟨⟨d', rfl, hl'.trans hl, hn'.trans hn⟩, Surroundings.opensOn_of_woven hw ho⟩
  · rintro _ v r s' ⟨d, rfl, _, _⟩ hv
    obtain ⟨u, d', hu, hw, rfl⟩ := Action.runs_within hv
    exact Surroundings.opensOn_of_woven hw (Daemon.opensOn_of_release hu)
  · intro s hs
    exact ⟨core, (Option.some.inj hs).symm, rfl, rfl⟩

/-! ## The settings -/

/-- The configuration has the daemon's host and port from their variables. -/
theorem Config.daemon_of_ofLookup {S : Interface} {lookup : String → Option String} {t : Trace S}
    {config : Config} (h : (Config.ofLookup lookup).Runs t config) :
    config.pigpiodAddr = Config.setting lookup Config.pigpiodAddrVariable ∧
      config.pigpiodPort = Config.setting lookup Config.pigpiodPortVariable := by
  obtain ⟨_, i2cBusnum, _, _, h₁, _⟩ := Program.runs_bind.1 h
  obtain ⟨_, spiBusnum, _, _, h₂, _⟩ := Program.runs_bind.1 h₁
  obtain ⟨_, gpioChip, _, _, h₃, _⟩ := Program.runs_bind.1 h₂
  obtain ⟨-, rfl⟩ := Program.runs_done.1 h₃
  exact ⟨rfl, rfl⟩

/-! ## The backend on the roster -/

namespace Roster

variable {M : Type} {S : Interface} {r r' : Roster M} {t : Trace S}

/-- Registering a new backend is a change to the roster, in whatever surroundings. -/
theorem runs_register {f : Factory M} {result : Except Error Unit}
    (h : ((register f : Action S (Roster M) Unit) r).Runs t (result, r')) :
    (result, r') = (Change.register f).result r := by
  have hat : ((registerAt r.factories.length : Action S (Roster M) Unit) (r.enroll f)).Runs t
      (result, r') := h
  have hresult : (Change.register f).result r =
      (Change.registerAt r.factories.length).result (r.enroll f) := rfl
  rw [registerAt_run] at hat
  rw [hresult, Change.result_registerAt]
  by_cases ha : (r.enroll f).registry.Admits (r.enroll f).name r.factories.length
  · rw [if_pos ha] at hat ⊢
    obtain ⟨u, rfl, hu⟩ := Program.runs_report.1 hat
    exact (Program.runs_done.1 hu).2
  · rw [if_neg ha] at hat ⊢
    obtain ⟨u, rfl, hu⟩ := Program.runs_report.1 hat
    exact (Program.runs_done.1 hu).2

/-- A backend on a roster makes buses as before after any changes, if under another name. -/
theorem createWith_after {β : Type} {i : Nat} {f : Factory M} (hf : r.factories[i]? = some f)
    (cs : List (Change M)) (create : Factory M → Program S (Except Error β)) :
    ∃ name, (after cs r).createWith create i = create ⟨name, f.maker⟩ := by
  obtain ⟨hi, _⟩ := List.getElem?_eq_some_iff.1 hf
  have hm := maker_after hi cs
  rw [hf, Option.map_some, Option.map_eq_some_iff] at hm
  obtain ⟨⟨name, maker⟩, hg, rfl⟩ := hm
  refine ⟨name, ?_⟩
  rw [createWith, hg]

end Roster

namespace Platform

/-- The backend of the daemon that a configuration describes. -/
def configuredDaemon (config : Config) : Factory I2cMaker :=
  ⟨Daemon.name, .daemon { addr := config.pigpiodAddr, port := config.pigpiodPort }⟩

/-- The backend of the daemon is registered with the settings of the platform. -/
theorem runs_registerDaemon {S : Interface} {p p' : Platform} {t : Trace S}
    {result : Except Error Unit} (h : (registerDaemon p).Runs t (result, p')) :
    p'.i2c = (Roster.Change.register (configuredDaemon p.config)).apply p.i2c := by
  have hat := Action.runs_get_bind.1 h
  obtain ⟨u, ⟨result', r⟩, v, hr, hd, rfl⟩ := Program.runs_bind.1 hat
  obtain ⟨_, hp⟩ := Program.runs_done.1 hd
  obtain ⟨rfl, rfl⟩ := Prod.mk.inj hp
  rw [Roster.Change.apply, configuredDaemon, ← Roster.runs_register hr]

/-- Whether `u` is what a platform asks its backends for in a run of making an I2C bus. -/
def Asks (p : Platform) (params : I2c.Params) (u : Trace (Registry.creation Nat (Bus I2cCore)))
    (t : Trace Surroundings.interface) (result : Except Error (Bus I2cCore)) : Prop :=
  (p.i2c.registry.createBus p.i2c.name params.connect).Runs u result ∧
    Woven (p.i2c.createWith fun f ↦ f.maker.create f.name params) u t

/-- To make a bus is to ask backends, and nothing else. -/
theorem runs_createI2c {p : Platform} {params : I2c.Params} {t : Trace Surroundings.interface}
    {result : Except Error (Bus I2cCore)} :
    (p.createI2c params).Runs t result ↔ ∃ u, p.Asks params u t result :=
  Program.runs_interpret

/-- Who is registered once is asked once. -/
theorem Asks.not_mem {p : Platform} {params : I2c.Params} {i : Nat}
    {u₁ u₂ : Trace (Registry.creation Nat (Bus I2cCore))} {reply result : Except Error (Bus I2cCore)}
    {t : Trace Surroundings.interface} (h : p.Asks params (u₁ ++ .asked i reply :: u₂) t result)
    (hnodup : p.i2c.registry.entries.Nodup) : i ∉ requests u₁ ++ requests u₂ := by
  have hasked := (Registry.requests_of_createBus h.1).nodup hnodup
  rw [Program.requests_append, Program.requests_asked, List.nodup_middle] at hasked
  exact (List.nodup_cons.1 hasked).1

/-- **Where a platform connects to its daemon.**  Let a platform be set up by a configuration that is
read from variables, and the daemon's backend be registered on it, after and before any other
changes.  In a run of making a bus in which this backend is asked, for whatever reason, it is asked
once.  What happens in answer is a stretch of the run.

If there is a connection string, and it is not accepted, then nothing is asked of the daemon, and the
backend refuses.  Otherwise there is one request to the daemon, to connect: to the host of the
connection string, or else to the one of the variable, or else to none, and likewise for the port.
If it fails, then there is no device.  If it succeeds, then the backend asks for memory.  Without it
the connection is stopped and there is no bus; otherwise the backend makes a bus, and all its life
this opens devices on the bus number of the connection string, or else of the request, or else on
bus 1. -/
theorem daemon_connection {S : Interface} {lookup : String → Option String} {config : Config}
    {p p' q : Platform} {earlier later : List (Roster.Change I2cMaker)} {s₀ s₁ : Trace S}
    (hconfig : (Config.ofLookup lookup).Runs s₀ config) (hp : p.config = config)
    (hearlier : p.i2c = Roster.after earlier (new config).i2c)
    (hregister : (registerDaemon p).Runs s₁ (.ok (), p'))
    (hlater : q.i2c = Roster.after later p'.i2c) {params : I2c.Params}
    (hfits : ∀ uri host, params.uri = some uri → Daemon.Location.HasHost uri host →
      Uri.byteLength host ≤ 64)
    {u₁ u₂ : Trace (Registry.creation Nat (Bus I2cCore))} {reply result : Except Error (Bus I2cCore)}
    {t : Trace Surroundings.interface}
    (h : q.Asks params (u₁ ++ .asked p.i2c.factories.length reply :: u₂) t result) :
    (q.createI2c params).Runs t result ∧ p.i2c.factories.length ∉ requests u₁ ++ requests u₂ ∧
      ∃ t₁ v t₂, t = t₁ ++ v ++ t₂ ∧
        Woven (q.i2c.createWith fun f ↦ f.maker.create f.name params) u₁ t₁ ∧
        Woven (q.i2c.createWith fun f ↦ f.maker.create f.name params) u₂ t₂ ∧
        ((∃ uri, params.uri = some uri ∧ (∀ l, Daemon.Location.parse uri ≠ .ok l) ∧
            calls v = [] ∧ reply = .error .invalidUri) ∨
          ∃ l answer after, Daemon.Says params l ∧
            (∀ uri, params.uri = some uri → Daemon.Location.Spelt uri l) ∧
            calls v = .asked (.daemon (.connect
              (l.host <|> Config.setting lookup Config.pigpiodAddrVariable)
              (l.port <|> Config.setting lookup Config.pigpiodPortVariable))) answer :: after ∧
            match answer with
            | .error _ => after = [] ∧ reply = .error .noDevice
            | .ok link =>
              after = [.asked (.daemon .reserve) false, .asked (.daemon (.stop link)) ()] ∧
                reply = .error .noMemory ∨
              after = [.asked (.daemon .reserve) true] ∧ ∃ b, reply = .ok b ∧ ∀ us trace,
                (Bus.life (M := I2c.methods) I2cCore.table us b).Runs trace () →
                ∀ q ∈ requests trace,
                  q.OpensOn link ((l.busnum <|> params.busnum).getD 1)) := by
  subst hp
  obtain ⟨haddr, hport⟩ := Config.daemon_of_ofLookup hconfig
  have hi2c := runs_registerDaemon hregister
  have hnodup : q.i2c.registry.entries.Nodup := by
    rw [hlater, hi2c, hearlier]
    exact Roster.nodup_after later
      (Roster.nodup_after [.register _] (Roster.nodup_after earlier List.nodup_nil))
  -- What is asked is the backend that was registered.
  obtain ⟨t₁, v, t₂, ht, hw₁, hv, hw₂⟩ := h.2.split
  have hf : p'.i2c.factories[p.i2c.factories.length]? = some (configuredDaemon p.config) := by
    rw [hi2c, Roster.Change.factories_of_offer (c := .register _) rfl]
    exact List.getElem?_concat_length
  obtain ⟨name, hname⟩ :=
    Roster.createWith_after hf later fun f ↦ f.maker.create f.name params
  rw [hlater, hname] at hv
  obtain ⟨s, made, hs, rfl, rfl⟩ := connecting_of_daemon hv
  have hspelt {l : Daemon.Location} (hl : Daemon.Says params l) (uri : String)
      (hu : params.uri = some uri) : Daemon.Location.Spelt uri l :=
    (Daemon.Location.parse_eq_ok_iff_spelt fun host ↦ hfits uri host hu).1
      ((Daemon.says_of_some hu).1 hl)
  refine ⟨runs_createI2c.2 ⟨_, h⟩, h.not_mem hnodup, t₁, _, t₂, ht, hw₁, hw₂, ?_⟩
  rw [← haddr, ← hport]
  cases hs with
  | rejected hu hl hs =>
    refine .inl ⟨_, hu, fun l ↦ by rw [hl]; exact nofun, ?_, rfl⟩
    rw [← Program.requests_eq_nil_iff, Surroundings.requests_map_ofDaemon,
      Program.requests_eq_nil_iff.2 hs, List.map_nil]
  | unreachable hl => exact .inr ⟨_, .error _, _, hl, hspelt hl, rfl, rfl, rfl⟩
  | outOfMemory hl => exact .inr ⟨_, .ok _, _, hl, hspelt hl, rfl, .inl ⟨rfl, rfl⟩⟩
  | connected hl =>
    refine .inr ⟨_, .ok _, _, hl, hspelt hl, rfl, .inr ⟨rfl, _, rfl, fun us trace hlife ↦ ?_⟩⟩
    exact opensOn_of_life hlife

/-- The host is that of the variable, the port that of the connection string, and the bus number that
of the request.  The variable for the port is blank. -/
theorem daemon_connection_from_three_sources :
    let lookup : String → Option String := fun key ↦
      if key = "MCU_PERIPH_PIGPIOD_ADDR" then some "pi.local"
      else if key = "MCU_PERIPH_PIGPIOD_PORT" then some " " else none
    let config : Config := { pigpiodAddr := some "pi.local" }
    let params : I2c.Params := { uri := some "pigpiod://:7777", busnum := some 3 }
    let node : Factory I2cMaker := ⟨Node.name, .node {}⟩
    let daemon : Factory I2cMaker := ⟨Daemon.name, .daemon { addr := some "pi.local" }⟩
    let p : Platform := { new config with
      i2c := { factories := [node], registry := { entries := [0] } } }
    let p' : Platform := { p with
      i2c := { factories := [node, daemon], registry := { entries := [1, 0] } } }
    let bus : Bus I2cCore := .new Daemon.name (.daemon { link := 0, busnum := 3 })
    let made : Trace Surroundings.interface :=
      [.asked (.daemon (.connect (some "pi.local") (some "7777"))) (.ok 0),
        .asked (.daemon .reserve) true, .reported (.info "connected to pigpio daemon")]
    (Config.ofLookup (S := Program.silence) lookup).Runs [] config ∧
      (registerDaemon (S := Program.silence) p).Runs [.reported (.debug "backend registered")]
        (.ok (), p') ∧
      (p'.createI2c params).Runs (.reported (.debug "explicit selection") :: made) (.ok bus) ∧
      ∀ us trace, (Bus.life (M := I2c.methods) I2cCore.table us bus).Runs trace () →
        ∀ link n address flags, .daemon (.openDevice link n address flags) ∈ requests trace →
          n = 3 := by
  intro lookup config params node daemon p p' bus made
  have hconfig : (Config.ofLookup (S := Program.silence) lookup).Runs [] config := .done _
  have hearlier : p.i2c = Roster.after [.register node] (new config).i2c := by decide
  have hadmits : (p.i2c.enroll daemon).registry.Admits (p.i2c.enroll daemon).name 1 := by decide
  have hregister : (registerDaemon (S := Program.silence) p).Runs
      [.reported (.debug "backend registered")] (.ok (), p') := by
    show (Program.bind (Roster.registerAt 1 (p.i2c.enroll daemon)) _).Runs _ _
    rw [Roster.registerAt_run, if_pos hadmits]
    exact .report (.done _)
  have hfits (uri : String) (host : List Char) (hu : params.uri = some uri)
      (hh : Daemon.Location.HasHost uri host) : Uri.byteLength host ≤ 64 := by
    obtain rfl := Option.some.inj hu
    exact hh.byteLength_le.trans (by decide)
  have hparse : Daemon.Location.parse "pigpiod://:7777" = .ok { port := some "7777" } := by rfl
  have hcreate : (Daemon.create { addr := some "pi.local" } params).Runs
      [.asked (.connect (some "pi.local") (some "7777")) (.ok 0), .asked .reserve true,
        .reported (.info "connected to pigpio daemon")]
      (.ok (.new Daemon.name { link := 0, busnum := 3 })) := by
    simp only [Daemon.create, params, hparse]
    exact .ask (.ask (.report (.done _)))
  have hmade : (p'.i2c.createWith (fun f ↦ f.maker.create f.name params) 1).Runs made (.ok bus) :=
    Program.runs_bind.2 ⟨_, _, [], Program.runs_interpret.2
      ⟨_, hcreate, .asked (.ask (.done _)) (.asked (.ask (.done _)) (.reported .nil))⟩,
      .done _, rfl⟩
  have hfind : p'.i2c.registry.find? p'.i2c.name "pigpiod://:7777" = some 1 := by decide
  have hnamed : (p'.i2c.registry.createNamed p'.i2c.name "pigpiod://:7777").Runs
      ([.reported (.debug "explicit selection")] ++ [.asked 1 (.ok bus)]) (.ok bus) := by
    rw [Registry.createNamed, hfind]
    exact .report (.ask (.done _))
  have hasks : p'.Asks params ([.reported (.debug "explicit selection")] ++ [.asked 1 (.ok bus)])
      (.reported (.debug "explicit selection") :: made) (.ok bus) :=
    ⟨hnamed, .reported (.asked (v := made) hmade .nil)⟩
  obtain ⟨hruns, _, t₁, v, t₂, _, _, _, ⟨uri, _, _, _, hr⟩ | ⟨l, answer, _, hl, _, _, hr⟩⟩ :=
    daemon_connection hconfig rfl hearlier hregister (show p'.i2c = Roster.after [] _ from rfl)
      hfits hasks
  · cases hr
  · have hl' : Daemon.Location.parse "pigpiod://:7777" = .ok l := (Daemon.says_of_some rfl).1 hl
    obtain rfl := Except.ok.inj (hparse.symm.trans hl')
    cases answer with
    | error e => cases hr.2
    | ok link =>
      obtain ⟨_, hb⟩ | ⟨_, b, hb, hlife⟩ := hr
      · cases hb
      obtain rfl := Except.ok.inj hb
      refine ⟨hconfig, hregister, hruns, fun us trace h link' n address flags hq ↦ ?_⟩
      exact (hlife us trace h _ hq).2

end Platform

end BusAccess
