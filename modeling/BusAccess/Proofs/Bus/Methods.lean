import BusAccess.Bus.Gpio
import BusAccess.Bus.I2c
import BusAccess.Bus.Spi
import BusAccess.Proofs.Trace

/-!
# What can be done with a bus

The three kinds of bus have methods of their own.  Most of them are one call to the backend, put
through `Bus.call`; reading from and writing to an SPI device are calls that exchange one buffer,
and an SPI transfer is one only after a check of its own.  `Methods` lists the methods of a kind and
says which call each of them comes down to, or with which error it is refused before the bus is
looked at (`Methods.route`); that `Methods.perform` follows this is part of the structure, so a
statement about all methods of all kinds has two cases.

A bus is used by calling its methods and releasing it, in any order and any number of times, and in
the end it is given up.  `Bus.uses` and `Bus.life` are the programs for this, without and with the
end.

`Table.passing` is the backend that asks for each operation instead of doing it.  A run of a bus on
it shows which operations are reached, and in every run the answers are arbitrary.  A bus on another
backend does the same with the backend's own operations for answers (`life_eq_interpret`).

Before all this there has to be a bus.  What comes of one for which there is no memory is the same
with every backend but for what has to be undone (`runs_outOfMemory`).
-/

set_option autoImplicit false

namespace BusAccess

open Program (Trace)

/-! ## A bus that is not made -/

/-- A bus for which there is no memory is not made, after what was set up for it is undone. -/
theorem Bus.runs_outOfMemory {S : Interface} {σ : Type} {undo : Program S Unit} {t : Trace S}
    {r : Except Error (Bus σ)} :
    (outOfMemory undo).Runs t r ↔ r = .error .noMemory ∧
      ∃ u, t = .reported (.error "object allocation failed") :: u ∧ undo.Runs u () := by
  rw [outOfMemory, Program.runs_report]
  constructor
  · rintro ⟨_, rfl, h⟩
    obtain ⟨u, _, w, hu, hw, rfl⟩ := Program.runs_bind.1 h
    obtain ⟨rfl, rfl⟩ := Program.runs_done.1 hw
    exact ⟨rfl, u, by rw [List.append_nil], hu⟩
  · rintro ⟨rfl, u, rfl, hu⟩
    exact ⟨u, rfl, Program.runs_bind.2 ⟨u, (), [], hu, .done _, (List.append_nil u).symm⟩⟩

/-! ## Methods -/

/-- What a method on a bus comes down to: a call to the backend, or an error whatever the bus. -/
inductive Routes {K : Operations} {S : Interface} {σ : Type} (t : Table K S σ) :
    Except Error K.Call → {α : Type} → Action S (Bus σ) α → Prop
  | call (c : K.Call) : Routes t (.ok c) (Bus.call t c)
  | refusal {α : Type} (e : Error) : Routes t (.error e) (throw e : Action S (Bus σ) α)

/-- The methods of a kind of bus, releasing it apart. -/
structure Methods where
  /-- What the kind asks of its backends. -/
  operations : Operations
  /-- What can be done with a bus. -/
  Method : Type
  /-- What each method answers with. -/
  Answer : Method → Type
  /-- Carries out a method. -/
  perform {S : Interface} {σ : Type} (t : Table operations S σ) (m : Method) :
    Action S (Bus σ) (Answer m)
  /-- The call that a method comes down to, or the error by which it is refused at once. -/
  route : Method → Except Error operations.Call
  /-- A method is the call that it comes down to, or the refusal. -/
  routes {S : Interface} {σ : Type} (t : Table operations S σ) (m : Method) :
    Routes t (route m) (perform t m)

/-- The methods of an I2C bus are the calls of its backends. -/
def I2c.methods : Methods where
  operations := operations
  Method := Call
  Answer := Call.Answer
  perform t c := Bus.call t c
  route := .ok
  routes _ c := .call (K := operations) c

/-- The methods of a GPIO controller are the calls of its backends. -/
def Gpio.methods : Methods where
  operations := operations
  Method := Call
  Answer := Call.Answer
  perform t c := Bus.call t c
  route := .ok
  routes _ c := .call (K := operations) c

namespace Spi

/-- The methods of an SPI bus. -/
inductive Method where
  | openAt (chipSelect : UInt32)
  | transfer (device : DeviceHandle) (tx : Bytes) (rx : Nat)
  | read (device : DeviceHandle) (length : Nat)
  | write (device : DeviceHandle) (data : Bytes)
  | close (device : DeviceHandle)
  | setSpeed (hz : UInt32)
  | setMode (mode : Mode)
  deriving DecidableEq, Repr

namespace Method

/-- What a method is answered with when it succeeds. -/
abbrev Answer : Method → Type
  | openAt _ => DeviceHandle
  | transfer _ _ _ => Received
  | read _ _ => Received
  | write _ _ => Received
  | close _ => Unit
  | setSpeed _ => Unit
  | setMode _ => Unit

/-- How a method is carried out. -/
def perform {S : Interface} {σ : Type} (t : Table operations S σ) :
    (m : Method) → Action S (Bus σ) m.Answer
  | openAt chipSelect => Bus.call t (.openAt chipSelect)
  | transfer device tx rx => Spi.transfer t device tx rx
  | read device length => Spi.read t device length
  | write device data => Spi.write t device data
  | close device => Bus.call t (.close device)
  | setSpeed hz => Bus.call t (.setSpeed hz)
  | setMode mode => Bus.call t (.setMode mode)

/-- The call that a method comes down to; buffers of different lengths are refused. -/
def route : Method → Except Error operations.Call
  | openAt chipSelect => .ok (.openAt chipSelect)
  | transfer device tx rx =>
    if tx.length = rx then .ok (.transfer device (some tx) (some rx)) else .error .invalidArgument
  | read device length => .ok (.transfer device none (some length))
  | write device data => .ok (.transfer device (some data) none)
  | close device => .ok (.close device)
  | setSpeed hz => .ok (.setSpeed hz)
  | setMode mode => .ok (.setMode mode)

theorem eq_of_route_transfer {device : DeviceHandle} {tx : Bytes} {rx : Nat} {c : Call}
    (h : (transfer device tx rx).route = .ok c) : c = .transfer device (some tx) (some rx) := by
  rw [route] at h
  split at h
  · exact (Except.ok.inj h).symm
  · exact absurd h nofun

theorem routes {S : Interface} {σ : Type} (t : Table operations S σ) (m : Method) :
    Routes t m.route (m.perform t) := by
  cases m with
  | transfer device tx rx =>
    by_cases h : tx.length = rx
    · have hr : (transfer device tx rx).route = .ok (.transfer device (some tx) (some rx)) :=
        if_pos h
      have hp : (transfer device tx rx).perform t =
          Bus.call t (.transfer device (some tx) (some rx)) := if_pos h
      rw [hr, hp]
      exact .call _
    · have hr : (transfer device tx rx).route = .error .invalidArgument := if_neg h
      have hp : (transfer device tx rx).perform t = throw .invalidArgument := if_neg h
      rw [hr, hp]
      exact .refusal _
  | openAt chipSelect => exact .call (K := operations) (.openAt chipSelect)
  | read device length => exact .call (K := operations) (.transfer device none (some length))
  | write device data => exact .call (K := operations) (.transfer device (some data) none)
  | close device => exact .call (K := operations) (.close device)
  | setSpeed hz => exact .call (K := operations) (.setSpeed hz)
  | setMode mode => exact .call (K := operations) (.setMode mode)

end Method

/-- The methods of an SPI bus. -/
def methods : Methods := ⟨operations, Method, Method.Answer, Method.perform, Method.route,
  Method.routes⟩

end Spi

/-- The methods of a kind of bus. -/
def Kind.methods : Kind → Methods
  | i2c => I2c.methods
  | spi => Spi.methods
  | gpio => Gpio.methods

/-! ## Using a bus -/

/-- One use of a bus. -/
inductive Use (M : Methods) where
  | method (m : M.Method)
  | release

namespace Bus

variable {M : Methods} {S : Interface} {σ : Type}

/-- Uses a bus once. -/
def use (t : Table M.operations S σ) : Use M → Bus σ → Program S (Bus σ)
  | .method m, b => (M.perform t m b).bind fun (_, b') ↦ .done b'
  | .release, b => (Bus.release t b).bind fun (_, b') ↦ .done b'

/-- Uses a bus several times. -/
def uses (t : Table M.operations S σ) : List (Use M) → Bus σ → Program S (Bus σ)
  | [], b => .done b
  | u :: us, b => (use t u b).bind (uses t us)

/-- Uses a bus several times and gives it up. -/
def life (t : Table M.operations S σ) (us : List (Use M)) (b : Bus σ) : Program S Unit :=
  (uses t us b).bind (Bus.drop t)

end Bus

/-! ## Backends that ask for each operation -/

section Passing

variable {K : Operations} {S : Interface} {σ : Type}

/-- An operation of a backend. -/
inductive Invocation (K : Operations) where
  | call (c : K.Call)
  | release

/-- What an operation comes out with. -/
abbrev Invocation.Outcome : Invocation K → Type
  | call c => Except Error (K.Answer c)
  | release => Except Error Unit

/-- An operation can be asked for in a state, and the answer is its outcome and the state after. -/
abbrev invocations (K : Operations) (σ : Type) : Interface :=
  ⟨Invocation K × σ, fun q ↦ q.1.Outcome × σ⟩

namespace Table

/-- The backend that asks for each operation. -/
def passing (K : Operations) (σ : Type) : Table K (invocations K σ) σ where
  call c s := .ask (.call c, s) .done
  release s := .ask (.release, s) .done

/-- How a backend answers when it is asked for an operation. -/
def answer (t : Table K S σ) : (q : Invocation K × σ) → Program S (q.1.Outcome × σ)
  | (.call c, s) => t.call c s
  | (.release, s) => t.release s

end Table

namespace Bus

variable (t : Table K S σ)

theorem call_eq_interpret (c : K.Call) (b : Bus σ) :
    Bus.call t c b = (Bus.call (.passing K σ) c b).interpret t.answer := by
  cases hb : b.core with
  | none => simp only [Bus.call, hb, Program.interpret]
  | some s =>
    simp only [Bus.call, hb, Table.passing, Program.bind, Program.interpret]
    rfl

theorem release_eq_interpret (b : Bus σ) :
    Bus.release t b = (Bus.release (.passing K σ) b).interpret t.answer := by
  cases hb : b.core with
  | none => simp only [Bus.release, hb, Program.interpret]
  | some s =>
    simp only [Bus.release, hb, Table.passing, Program.bind, Program.interpret]
    rfl

theorem drop_eq_interpret (b : Bus σ) :
    Bus.drop t b = (Bus.drop (.passing K σ) b).interpret t.answer := by
  cases hb : b.core with
  | none => simp only [Bus.drop, hb, Program.interpret]
  | some s =>
    simp only [Bus.drop, hb, Table.passing, Program.bind, Program.interpret]
    congr 1
    funext p
    obtain ⟨result, s'⟩ := p
    cases result <;> rfl

end Bus

/-- Two ways to carry out a method that come down to the same call. -/
theorem Routes.eq_interpret {t : Table K S σ} {route : Except Error K.Call} {α : Type}
    {x : Action S (Bus σ) α} {y : Action (invocations K σ) (Bus σ) α} (hx : Routes t route x)
    (hy : Routes (.passing K σ) route y) (b : Bus σ) : x b = (y b).interpret t.answer := by
  cases hx with
  | call c =>
    cases hy with
    | call => exact Bus.call_eq_interpret t c b
  | refusal e =>
    cases hy with
    | refusal => rfl

end Passing

namespace Bus

variable {M : Methods} {S : Interface} {σ : Type} (t : Table M.operations S σ)

theorem use_eq_interpret (u : Use M) (b : Bus σ) :
    use t u b = (use (.passing _ σ) u b).interpret t.answer := by
  cases u with
  | method m =>
    rw [use, use, Program.interpret_bind, ← (M.routes t m).eq_interpret (M.routes _ m)]
    rfl
  | release =>
    rw [use, use, Program.interpret_bind, ← release_eq_interpret]
    rfl

theorem uses_eq_interpret (us : List (Use M)) (b : Bus σ) :
    uses t us b = (uses (.passing _ σ) us b).interpret t.answer := by
  induction us generalizing b with
  | nil => rfl
  | cons u us ih =>
    rw [uses, uses, Program.interpret_bind, ← use_eq_interpret]
    congr 1
    funext b'
    exact ih b'

/-- **A bus on any backend** does what a bus does that asks for each operation, with the backend's
operations for answers. -/
theorem life_eq_interpret (us : List (Use M)) (b : Bus σ) :
    life t us b = (life (.passing _ σ) us b).interpret t.answer := by
  rw [life, life, Program.interpret_bind, ← uses_eq_interpret]
  congr 1
  funext b'
  exact drop_eq_interpret t b'

end Bus

end BusAccess
