import BusAccess.Log.Event

/-!
# Programs that ask their surroundings

Nothing in this library talks to hardware.  A piece of code that needs a daemon, an adapter or the
kernel is a `Program`: it ends with a result, reports an event and goes on, or puts a request to
its surroundings and goes on with the reply.  What can be asked, and what is answered, is an
`Interface`.

Keeping the requests as data has two uses.  The same program runs against any surroundings
(`Program.run`), and a statement about it holds for *every* sequence of replies, because the
program is a tree that has a branch for each of them.  `Program.interpret` answers the requests of
one interface by programs over another, which is how a bus is put on top of its transport.

`Action S σ` is a program that works on a state `σ` and may fail.  A failure does not undo what
was done to the state before it.
-/

set_option autoImplicit false

namespace BusAccess

open Log (Event)

/-- What can be asked of some surroundings, and what each request is answered with. -/
structure Interface where
  /-- What can be asked. -/
  Request : Type
  /-- What each request is answered with. -/
  Reply : Request → Type

/-- Code that ends with an `α` after some requests and events. -/
inductive Program (S : Interface) (α : Type) where
  | done (result : α)
  | report (event : Event) (next : Program S α)
  | ask (request : S.Request) (next : S.Reply request → Program S α)

namespace Program

variable {S T : Interface} {α β γ : Type}

/-- Goes on with `f` where `p` ends. -/
def bind : Program S α → (α → Program S β) → Program S β
  | done a, f => f a
  | report e p, f => report e (p.bind f)
  | ask q k, f => ask q fun r ↦ (k r).bind f

instance : Monad (Program S) where
  pure := done
  bind := bind

theorem bind_assoc (p : Program S α) (f : α → Program S β) (g : β → Program S γ) :
    (p.bind f).bind g = p.bind fun a ↦ (f a).bind g := by
  induction p with
  | done a => rfl
  | report e p ih => simp only [bind, ih]
  | ask q k ih => simp only [bind, ih]

/-- Answers every request of `p` by a program over other surroundings. -/
def interpret (answer : (q : S.Request) → Program T (S.Reply q)) : Program S α → Program T α
  | done a => done a
  | report e p => report e (p.interpret answer)
  | ask q k => (answer q).bind fun r ↦ (k r).interpret answer

/-- Runs a program in surroundings that live in a monad. -/
def run {m : Type → Type} [Monad m] (answer : (q : S.Request) → m (S.Reply q))
    (note : Event → m Unit) : Program S α → m α
  | done a => pure a
  | report e p => do
    note e
    p.run answer note
  | ask q k => do
    let r ← answer q
    (k r).run answer note

/-- Surroundings that nothing can be asked of. -/
def silence : Interface := ⟨Empty, fun _ ↦ Empty⟩

/-- The result and the events of a program that asks nothing. -/
def outcome : Program silence α → α × List Event
  | done a => (a, [])
  | report e p => (p.outcome.1, e :: p.outcome.2)
  | ask q _ => nomatch q

end Program

/-- A program on a state `σ` that may fail; what it did to the state stands either way. -/
def Action (S : Interface) (σ α : Type) : Type := σ → Program S (Except Error α × σ)

namespace Action

variable {S T : Interface} {σ τ α β : Type}

/-- Goes on with `f` if `x` succeeds. -/
def bind (x : Action S σ α) (f : α → Action S σ β) : Action S σ β := fun s ↦
  (x s).bind fun
    | (.ok a, s') => f a s'
    | (.error e, s') => .done (.error e, s')

instance : Monad (Action S σ) where
  pure a := fun s ↦ .done (.ok a, s)
  bind := bind

instance : MonadExceptOf Error (Action S σ) where
  throw e := fun s ↦ .done (.error e, s)
  tryCatch x handler := fun s ↦
    (x s).bind fun
      | (.ok a, s') => .done (.ok a, s')
      | (.error e, s') => handler e s'

instance : MonadStateOf σ (Action S σ) where
  get := fun s ↦ .done (.ok s, s)
  set s := fun _ ↦ .done (.ok (), s)
  modifyGet f := fun s ↦ .done (.ok (f s).1, (f s).2)

/-- Reports an event. -/
def report (event : Event) : Action S σ Unit := fun s ↦ .report event (.done (.ok (), s))

/-- The reply to a request. -/
def ask (request : S.Request) : Action S σ (S.Reply request) := fun s ↦
  .ask request fun r ↦ .done (.ok r, s)

/-- Succeeds or fails as a result says. -/
def ofExcept (result : Except Error α) : Action S σ α := fun s ↦ .done (result, s)

/-- Succeeds as a result says, and fails with a cause of one's own. -/
def require (result : Except Error α) (error : Error) : Action S σ α := fun s ↦
  match result with
  | .ok a => .done (.ok a, s)
  | .error _ => .done (.error error, s)

/-- The value of an option, and a failure if there is none. -/
def demand (value : Option α) (error : Error) : Action S σ α := fun s ↦
  match value with
  | some a => .done (.ok a, s)
  | none => .done (.error error, s)

/-- How `x` came out; this itself never fails. -/
def attempt (x : Action S σ α) : Action S σ (Except Error α) := fun s ↦
  (x s).bind fun (r, s') ↦ .done (.ok r, s')

/-- Works on a part of a larger state. -/
def focus (get : τ → σ) (put : σ → τ → τ) (x : Action S σ α) : Action S τ α := fun t ↦
  (x (get t)).bind fun (r, s) ↦ .done (r, put s t)

/-- Runs an action in other surroundings, on a state that is part of a larger type. -/
def within (answer : (q : S.Request) → Program T (S.Reply q)) (put : σ → τ)
    (x : Action S σ α) (s : σ) : Program T (Except Error α × τ) :=
  ((x s).interpret answer).bind fun (r, s') ↦ .done (r, put s')

section Laws

variable (s : σ)

@[simp] theorem pure_run (a : α) : (pure a : Action S σ α) s = .done (.ok a, s) := rfl

@[simp] theorem bind_run (x : Action S σ α) (f : α → Action S σ β) :
    (x >>= f) s = (x s).bind fun
      | (.ok a, s') => f a s'
      | (.error e, s') => .done (.error e, s') := rfl

@[simp] theorem throw_run (e : Error) : (throw e : Action S σ α) s = .done (.error e, s) := rfl

@[simp] theorem get_run : (get : Action S σ σ) s = .done (.ok s, s) := rfl

@[simp] theorem set_run (s' : σ) : (set s' : Action S σ PUnit) s = .done (.ok (), s') := rfl

@[simp] theorem modify_run (f : σ → σ) :
    (modify f : Action S σ PUnit) s = .done (.ok (), f s) := rfl

@[simp] theorem report_run (e : Event) :
    (report e : Action S σ Unit) s = .report e (.done (.ok (), s)) := rfl

@[simp] theorem ask_run (q : S.Request) :
    (ask q : Action S σ (S.Reply q)) s = .ask q fun r ↦ .done (.ok r, s) := rfl

end Laws

end Action

end BusAccess
