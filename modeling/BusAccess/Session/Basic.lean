import BusAccess.Bench.Run
import BusAccess.Platform.Basic
import BusAccess.Session.Held

/-!
# Sessions

The state of a session is a platform, the buses that are kept, and the bench.  Commands are carried
out one after the other; at the end the buses that are still kept are given up in the order of their
names.

The device nodes of a session are those in the tree of files of the bench, under `dev` and `gpio`.

A backend that is remembered under an identifier can be registered for every kind of bus, and has
one name for all of them.  The last one that was given an identifier goes by it.
-/

set_option autoImplicit false

namespace BusAccess

namespace Session

/-- A remembered backend: its identifier, and its place on the roster of each kind. -/
structure Shared where
  /-- The identifier it is remembered by. -/
  id : String
  /-- Its place on the roster of each kind. -/
  place : Kind → Nat

end Session

/-- The state of a session. -/
structure Session where
  /-- The platform that commands are about. -/
  platform : Platform := {}
  /-- The backends that go by an identifier. -/
  shared : List Session.Shared := []
  /-- The buses that are kept, in the order of their names. -/
  buses : List (String × Session.Held) := []
  /-- The surroundings. -/
  bench : Bench := {}

namespace Session

/-- The device nodes on the bench. -/
def benchRoots : Node.Roots := { dev := "dev", gpio := "gpio" }

/-! ## Running on the bench -/

/-- Runs a program on the bench. -/
def onBench {α : Type} (p : Program Surroundings.interface α) : StateM Session α := fun s ↦
  let (a, bench) := (Bench.run p).run s.bench
  (a, { s with bench })

/-- Runs an action on the platform. -/
def onPlatform {α : Type} (x : Action Surroundings.interface Platform α) :
    StateM Session (Except Error α) := do
  let (result, platform) ← onBench (x (← get).platform)
  modify fun s ↦ { s with platform }
  return result

/-- Changes the tree of files. -/
def onFiles (f : Bench.Files → Bench.Files) : StateM Session Unit := modify fun s ↦
  { s with bench := { s.bench with files := f s.bench.files } }

/-! ## Buses -/

/-- Puts a bus under a name, and returns the bus that was there. -/
def keep (name : String) (h : Held) : List (String × Held) → List (String × Held)
  | [] => [(name, h)]
  | (n, g) :: rest =>
    if name < n then (name, h) :: (n, g) :: rest
    else if name = n then (name, h) :: rest
    else (n, g) :: keep name h rest

/-- Takes the bus away from a name. -/
def forget (name : String) (buses : List (String × Held)) : List (String × Held) :=
  buses.filter fun b ↦ b.1 != name

/-- Makes a bus of any kind. -/
def make : Creation → StateM Session (Except Error Held)
  | .i2c params => do
    let p := (← get).platform
    let params ← match params with
      | some params => pure params
      | none => onBench p.config.i2cParams
    return (← onBench (p.createI2c params)).map .i2c
  | .spi params => do
    let p := (← get).platform
    let params ← match params with
      | some params => pure params
      | none => onBench p.config.spiParams
    return (← onBench (p.createSpi params)).map .spi
  | .gpio params => do
    let p := (← get).platform
    return (← onBench (p.createGpio (params.getD p.config.gpioParams))).map .gpio

/-- Makes a bus and keeps it, which gives up the bus that had the name; or gives it up at once. -/
def create (creation : Creation) (name : Option String) : StateM Session Answer := do
  match ← make creation with
  | .error e => return .failed e
  | .ok h =>
    match name with
    | none => onBench h.drop
    | some name =>
      let former := (← get).buses.lookup name
      modify fun s ↦ { s with buses := keep name h s.buses }
      match former with
      | some former => onBench former.drop
      | none => pure ()
    return .done (.text (some h.backend))

/-- Gives the bus of a name up. -/
def dropBus (name : String) : StateM Session Answer := do
  match (← get).buses.lookup name with
  | none => return .noBus
  | some h =>
    modify fun s ↦ { s with buses := forget name s.buses }
    onBench h.drop
    return .done .nothing

/-! ## Operations -/

/-- An operation on the bus of a name; the status is that after the operation. -/
def operate (name : String) (op : Operation) : StateM Session (Answer × Option Status) := do
  match (← get).buses.lookup name with
  | none => return (.noBus, none)
  | some h =>
    let (answer, h) ← onBench (h.operate op)
    modify fun s ↦ { s with buses := keep name h s.buses }
    return (answer, some h.status)

/-! ## Registries -/

/-- The place that the next backend of a kind takes on its roster. -/
def nextPlace (p : Platform) : Kind → Nat
  | .i2c => p.i2c.factories.length
  | .spi => p.spi.factories.length
  | .gpio => p.gpio.factories.length

/-- Registers a scripted backend. -/
def registerScripted (kind : Kind) (name : String) (m : Scripted.Maker) :
    Action Surroundings.interface Platform Unit :=
  match kind with
  | .i2c => Platform.onI2c (Roster.register ⟨name, .scripted m⟩)
  | .spi => Platform.onSpi (Roster.register ⟨name, .scripted m⟩)
  | .gpio => Platform.onGpio (Roster.register ⟨name, .scripted m⟩)

/-- Registers a backend that is on the roster of a kind. -/
def registerPlace (kind : Kind) (place : Nat) : Action Surroundings.interface Platform Unit :=
  match kind with
  | .i2c => Platform.onI2c (Roster.registerAt place)
  | .spi => Platform.onSpi (Roster.registerAt place)
  | .gpio => Platform.onGpio (Roster.registerAt place)

/-- Puts a scripted backend on the rosters of all kinds, without registering it. -/
def enrollScripted (name : String) (m : Scripted.Maker) (p : Platform) : Platform :=
  { p with
    i2c := p.i2c.enroll ⟨name, .scripted m⟩
    spi := p.spi.enroll ⟨name, .scripted m⟩
    gpio := p.gpio.enroll ⟨name, .scripted m⟩ }

/-- Changes the name of a remembered backend, on the rosters of all kinds. -/
def Shared.rename (m : Shared) (name : String) (p : Platform) : Platform :=
  { p with
    i2c := p.i2c.rename (m.place .i2c) name
    spi := p.spi.rename (m.place .spi) name
    gpio := p.gpio.rename (m.place .gpio) name }

/-- The registry of a kind as it is shown. -/
def viewRoster {M : Type} (kind : Kind) (r : Roster M) : RegistryView where
  names := r.registry.names r.name
  preferred := r.registry.preferred
  description := r.registry.describe kind r.name

/-- The registry of a kind as it is shown. -/
def viewRegistry (kind : Kind) (p : Platform) : RegistryView :=
  match kind with
  | .i2c => viewRoster kind p.i2c
  | .spi => viewRoster kind p.spi
  | .gpio => viewRoster kind p.gpio

/-- Changes the preferred backend of a kind. -/
def prefer (kind : Kind) (name : Option String) (p : Platform) : Platform :=
  match kind with
  | .i2c => { p with i2c := p.i2c.setPreferred name }
  | .spi => { p with spi := p.spi.setPreferred name }
  | .gpio => { p with gpio := p.gpio.setPreferred name }

/-- The platform's parameters of a kind. -/
def paramsOf (kind : Kind) (c : Config) : Program Surroundings.interface Json.Value :=
  match kind with
  | .i2c => I2c.Params.codec.encode <$> c.i2cParams
  | .spi => Spi.Params.codec.encode <$> c.spiParams
  | .gpio => pure (Gpio.Params.codec.encode c.gpioParams)

/-! ## Commands -/

/-- Nothing as an answer, or a failure. -/
def plain (result : Except Error Unit) : Answer := answerOf (fun _ ↦ .nothing) result

/-- Carries a command out. -/
def perform : Command → StateM Session (Answer × Option Status)
  | .register kind name maker false =>
    return (plain (← onPlatform (registerScripted kind name maker)), none)
  | .register kind name maker true => do
    let m : Shared := ⟨maker.id, nextPlace (← get).platform⟩
    modify fun s ↦
      { s with platform := enrollScripted name maker s.platform, shared := m :: s.shared }
    return (plain (← onPlatform (registerPlace kind (m.place kind))), none)
  | .reregister kind id => do
    match (← get).shared.find? fun m ↦ m.id == id with
    | some m => return (plain (← onPlatform (registerPlace kind (m.place kind))), none)
    | none => return (.noSuchOperation, none)
  | .rename id name => do
    match (← get).shared.find? fun m ↦ m.id == id with
    | some m => modify fun s ↦ { s with platform := m.rename name s.platform }
    | none => pure ()
    return (.done .nothing, none)
  | .registerDaemon source => do
    let action := match source with
      | some source => Platform.registerDaemonAt source
      | none => Platform.registerDaemon
    return (plain (← onPlatform action), none)
  | .registerAdapter => return (plain (← onPlatform Platform.registerAdapter), none)
  | .registerNode kind => do
    return (plain (← onPlatform (Platform.registerNode benchRoots kind)), none)
  | .setPreferred kind name => do
    modify fun s ↦ { s with platform := prefer kind name s.platform }
    return (.done (.text (viewRegistry kind (← get).platform).preferred), none)
  | .contains kind name => do
    return (.done (.flag ((viewRegistry kind (← get).platform).names.contains name)), none)
  | .registry kind => return (.registry (viewRegistry kind (← get).platform), none)
  | .params kind => do
    return (.done (.document (← onBench (paramsOf kind (← get).platform.config))), none)
  | .describe source =>
    return (.done (.texts [source.describe, Text.describeRecord "Mpsse" [] true,
      Factory.describe .i2c Daemon.name, Factory.describe .gpio Node.name, Adapter.name]), none)
  | .create creation name => return (← create creation name, none)
  | .script call outcomes => do
    modify fun s ↦
      { s with bench := { s.bench with script := s.bench.script.append call outcomes } }
    return (.done .nothing, none)
  | .put path data => do
    onFiles (Bench.Files.put path data)
    return (.done .nothing, none)
  | .remove path => do
    onFiles (Bench.Files.remove path)
    return (.done .nothing, none)
  | .files => return (.done (.files (← get).bench.files.all), none)
  | .drop bus => return (← dropBus bus, none)
  | .operate bus op => operate bus op

/-- Does something and tells what went on meanwhile. -/
def entry (x : StateM Session (Answer × Option Status)) : StateM Session Entry := do
  let (answer, status) ← x
  let s ← get
  let ((calls, events), bench) := Bench.takeJournal.run s.bench
  set { s with bench }
  return { answer, status, calls, events }

/-- Makes the platform: an empty one, or one with the device nodes of the machine. -/
def start (config : Config) (standard : Bool) : StateM Session Entry := entry do
  modify fun s ↦ { s with platform := .new config }
  if standard then return (plain (← onPlatform Platform.registerStandard), none)
  else return (.done .nothing, none)

/-- Gives up the buses that are still kept, with their names. -/
def finish : List String → StateM Session (List (String × Entry))
  | [] => return []
  | name :: rest => do
    let e ← entry (do return (← dropBus name, none))
    return (name, e) :: (← finish rest)

/-- What a session tells: about the start, each command, and the end. -/
structure Report where
  /-- What went on at the start. -/
  start : Entry
  /-- What went on at each command. -/
  steps : List Entry
  /-- What went on as each bus was dropped in the end. -/
  drops : List (String × Entry)
  deriving Repr

/-- A whole session. -/
def report (config : Config) (standard : Bool) (files : Bench.Files) (commands : List Command) :
    Report :=
  let script : StateM Session Report := do
    let start ← start config standard
    let steps ← commands.mapM fun c ↦ entry (perform c)
    let drops ← finish ((← get).buses.map Prod.fst)
    return { start, steps, drops }
  (script.run { bench := { files } }).1

end Session

end BusAccess
