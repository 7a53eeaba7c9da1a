import BusAccess.Bus.Params
import BusAccess.Program
import BusAccess.Text.Quoted
import BusAccess.Uri.Cursor

/-!
# Registries of backends

A registry holds the backends that can make one kind of bus, the most recently registered first.
It knows a backend as an instance `ι`, whose name is what it reports at the time; an instance may
come to report another name while it is registered.

A request names what it wants by its `backend` field, or else by its connection string, or else it
falls back on the registry's preferred backend.  If there is such a request, the first backend that
it `selects` is asked and nobody else.  Otherwise all backends are asked in turn until one accepts,
and if none does, the last one's refusal is the answer.

Making a bus is up to the backends, so `createBus` is a program that asks for it: its requests are
the instances that are called on, in order, and each reply is a bus or a failure.
-/

set_option autoImplicit false

namespace BusAccess

open Log (Event)

/-- Whether a backend of the given name is meant by a request: the name is all of the request, or
all of it in front of a colon.  Nobody goes by the empty name. -/
def selects (name requested : String) : Bool :=
  let c := Uri.Cursor.ofString requested
  !(c.matched (.literal name)).isEmpty &&
    match (c.advance (.literal name)).rest with
    | [] => true
    | next :: _ => next == ':'

/-- The backends for one kind of bus. -/
structure Registry (ι : Type) where
  /-- The order in which backends are asked. -/
  entries : List ι := []
  /-- The request of those who name neither a backend nor a connection string. -/
  preferred : Option String := none
  deriving DecidableEq, Repr

namespace Registry

variable {ι β : Type} {S : Interface}

/-- Registers a backend in front of the others.  It needs a name that no other one has, and cannot
be registered twice. -/
def register [DecidableEq ι] (name : ι → String) (i : ι) : Action S (Registry ι) Unit := do
  let r ← get
  if (name i).isEmpty then
    Action.report (.error "refusing to register an unnamed backend")
    throw .invalidName
  else if r.entries.any fun j ↦ i == j || name j == name i then
    Action.report (.error "backend is already registered")
    throw .invalidName
  else
    Action.report (.debug "backend registered")
    set { r with entries := i :: r.entries }

/-- The registered names in the order in which backends are asked. -/
def names (name : ι → String) (r : Registry ι) : List String := r.entries.map name

/-- Whether some backend has a name. -/
def contains (name : ι → String) (r : Registry ι) (wanted : String) : Bool :=
  (r.names name).any fun n ↦ n == wanted

/-- What a connection request asks for by name. -/
def requested (r : Registry ι) (c : Connect) : Option String :=
  c.backend <|> c.uri <|> r.preferred

/-- The backend that is meant by a request. -/
def find? (name : ι → String) (r : Registry ι) (wanted : String) : Option ι :=
  r.entries.find? fun i ↦ selects (name i) wanted

/-! ## Making a bus -/

/-- Backends can be asked to make a bus. -/
abbrev creation (ι β : Type) : Interface := ⟨ι, fun _ ↦ Except Error β⟩

/-- Asks the backend that is meant by a request. -/
def createNamed (name : ι → String) (r : Registry ι) (wanted : String) :
    Program (creation ι β) (Except Error β) :=
  match r.find? name wanted with
  | none => .report (.warn "no backend matches") (.done (.error .invalidName))
  | some i => .report (.debug "explicit selection") (.ask i fun
    | .ok bus => .done (.ok bus)
    | .error e => .report (.warn "can't create instance") (.done (.error e)))

/-- Asks backends in turn; `last` is the refusal so far. -/
def probe : List ι → Error → Program (creation ι β) (Except Error β)
  | [], last => .report (.warn "can't create instance") (.done (.error last))
  | i :: rest, _ => .ask i fun
    | .ok bus => .report (.debug "probed") (.done (.ok bus))
    | .error e => .report (.debug "backend declined") (probe rest e)

/-- Makes a bus for a request. -/
def createBus (name : ι → String) (r : Registry ι) (c : Connect) :
    Program (creation ι β) (Except Error β) :=
  match r.requested c with
  | some wanted => r.createNamed name wanted
  | none => probe r.entries .noDevice

/-- The registry of a kind of bus as it is shown. -/
def describe (kind : Kind) (name : ι → String) (r : Registry ι) : String :=
  Text.describeRecord "Registry" [("kind", Text.quoted kind.tag),
    ("entries", Text.quotedList (r.names name)),
    ("preferred", Text.quotedOption r.preferred)] false

end Registry

end BusAccess
