import BusAccess.Program

/-!
# Runs of programs

A program is a tree that has a branch for every reply.  A *run* is one way through the tree from
the root to an end: `p.Runs trace a` says that there are replies with which `p` goes through the
steps of `trace`, in this order, and ends with `a`.  A statement about all runs of a program is one
about all surroundings that it can ever be put into, those included that answer the same request
differently from one time to the next.

Some runs are easier to come by.  `p.under reply` is the run in which every request gets the reply
that the function `reply` has for it; there is exactly one, so it is a function and not a relation.
`p.answeredBy replies` is the same for replies that may be different each time: they go by how many
requests there were before.  And a program that asks nothing has only one run.

The laws below take a run apart where the program was put together: `runs_bind` cuts it where one
program goes over into the next, and `interpret_bind` does so for a program whose requests are
answered by other programs.
-/

set_option autoImplicit false

namespace BusAccess

open Log (Event)

namespace Program

variable {S T U : Interface} {α β : Type}

/-- One step of a run. -/
inductive Step (S : Interface) where
  | reported (event : Event)
  | asked (request : S.Request) (reply : S.Reply request)

/-- The steps of a run in the order in which they happen. -/
abbrev Trace (S : Interface) := List (Step S)

/-- The requests of a run. -/
def requests : Trace S → List S.Request
  | [] => []
  | .reported _ :: t => requests t
  | .asked q _ :: t => q :: requests t

@[simp] theorem requests_nil : requests ([] : Trace S) = [] := rfl

@[simp] theorem requests_reported (e : Event) (t : Trace S) :
    requests (.reported e :: t) = requests t := rfl

@[simp] theorem requests_asked (q : S.Request) (r : S.Reply q) (t : Trace S) :
    requests (.asked q r :: t) = q :: requests t := rfl

@[simp] theorem requests_append (t u : Trace S) :
    requests (t ++ u) = requests t ++ requests u := by
  induction t with
  | nil => rfl
  | cons s t ih => cases s <;> simp [ih]

/-- The steps of a run that are requests, each with its reply. -/
def calls : Trace S → Trace S
  | [] => []
  | .reported _ :: t => calls t
  | .asked q r :: t => .asked q r :: calls t

@[simp] theorem calls_nil : calls ([] : Trace S) = [] := rfl

@[simp] theorem calls_reported (e : Event) (t : Trace S) :
    calls (.reported e :: t) = calls t := rfl

@[simp] theorem calls_asked (q : S.Request) (r : S.Reply q) (t : Trace S) :
    calls (.asked q r :: t) = .asked q r :: calls t := rfl

@[simp] theorem calls_append (t u : Trace S) : calls (t ++ u) = calls t ++ calls u := by
  induction t with
  | nil => rfl
  | cons s t ih => cases s <;> simp [ih]

/-- Leaving out what is reported leaves out no request. -/
theorem requests_calls (t : Trace S) : requests (calls t) = requests t := by
  induction t with
  | nil => rfl
  | cons s t ih => cases s <;> simp [ih]

theorem requests_eq_nil_iff {t : Trace S} : requests t = [] ↔ calls t = [] := by
  induction t with
  | nil => exact iff_of_true rfl rfl
  | cons s t ih =>
    cases s with
    | reported e => exact ih
    | asked q r => exact iff_of_false (List.cons_ne_nil _ _) (List.cons_ne_nil _ _)

/-- What is reported in a run. -/
def events : Trace S → List Event
  | [] => []
  | .reported e :: t => e :: events t
  | .asked _ _ :: t => events t

@[simp] theorem events_nil : events ([] : Trace S) = [] := rfl

@[simp] theorem events_reported (e : Event) (t : Trace S) :
    events (.reported e :: t) = e :: events t := rfl

@[simp] theorem events_asked (q : S.Request) (r : S.Reply q) (t : Trace S) :
    events (.asked q r :: t) = events t := rfl

@[simp] theorem events_append (t u : Trace S) : events (t ++ u) = events t ++ events u := by
  induction t with
  | nil => rfl
  | cons s t ih => cases s <;> simp [ih]

/-! ## Runs -/

/-- With some replies, a program goes through the steps of a trace and ends with a result. -/
inductive Runs : Program S α → Trace S → α → Prop
  | done (a : α) : Runs (done a) [] a
  | report {e : Event} {p : Program S α} {t : Trace S} {a : α} (h : Runs p t a) :
      Runs (report e p) (.reported e :: t) a
  | ask {q : S.Request} {k : S.Reply q → Program S α} {r : S.Reply q} {t : Trace S} {a : α}
      (h : Runs (k r) t a) : Runs (ask q k) (.asked q r :: t) a

@[simp] theorem runs_done {a b : α} {t : Trace S} :
    (done a : Program S α).Runs t b ↔ t = [] ∧ b = a := by
  constructor
  · rintro ⟨⟩; exact ⟨rfl, rfl⟩
  · rintro ⟨rfl, rfl⟩; exact .done _

@[simp] theorem runs_report {e : Event} {p : Program S α} {t : Trace S} {a : α} :
    (report e p).Runs t a ↔ ∃ u, t = .reported e :: u ∧ p.Runs u a := by
  constructor
  · rintro ⟨⟩; exact ⟨_, rfl, ‹_›⟩
  · rintro ⟨u, rfl, h⟩; exact .report h

@[simp] theorem runs_ask {q : S.Request} {k : S.Reply q → Program S α} {t : Trace S} {a : α} :
    (ask q k).Runs t a ↔ ∃ r u, t = .asked q r :: u ∧ (k r).Runs u a := by
  constructor
  · rintro ⟨⟩; exact ⟨_, _, rfl, ‹_›⟩
  · rintro ⟨r, u, rfl, h⟩; exact .ask h

/-- **A run of one program after another** is a run of the first and then one of the second. -/
theorem runs_bind {p : Program S α} {f : α → Program S β} {t : Trace S} {b : β} :
    (p.bind f).Runs t b ↔ ∃ t₁ a t₂, p.Runs t₁ a ∧ (f a).Runs t₂ b ∧ t = t₁ ++ t₂ := by
  induction p generalizing t with
  | done a =>
    simp only [bind, runs_done]
    constructor
    · intro h
      exact ⟨[], a, t, ⟨rfl, rfl⟩, h, rfl⟩
    · rintro ⟨_, _, t, ⟨rfl, rfl⟩, h, rfl⟩
      exact h
  | report e p ih =>
    simp only [bind, runs_report, ih]
    constructor
    · rintro ⟨_, rfl, t₁, a, t₂, h₁, h₂, rfl⟩
      exact ⟨_, a, t₂, ⟨t₁, rfl, h₁⟩, h₂, rfl⟩
    · rintro ⟨_, a, t₂, ⟨t₁, rfl, h₁⟩, h₂, rfl⟩
      exact ⟨_, rfl, t₁, a, t₂, h₁, h₂, rfl⟩
  | ask q k ih =>
    simp only [bind, runs_ask, ih]
    constructor
    · rintro ⟨r, _, rfl, t₁, a, t₂, h₁, h₂, rfl⟩
      exact ⟨_, a, t₂, ⟨r, t₁, rfl, h₁⟩, h₂, rfl⟩
    · rintro ⟨_, a, t₂, ⟨r, t₁, rfl, h₁⟩, h₂, rfl⟩
      exact ⟨r, _, rfl, t₁, a, t₂, h₁, h₂, rfl⟩

/-! ## Surroundings with a fixed reply to every request -/

/-- The run in which every request gets the reply that a function has for it. -/
def under (reply : (q : S.Request) → S.Reply q) : Program S α → Trace S × α
  | done a => ([], a)
  | report e p => (.reported e :: (p.under reply).1, (p.under reply).2)
  | ask q k => (.asked q (reply q) :: ((k (reply q)).under reply).1, ((k (reply q)).under reply).2)

/-- What surroundings with fixed replies make of a program is a run of it. -/
theorem runs_under (reply : (q : S.Request) → S.Reply q) (p : Program S α) :
    p.Runs (p.under reply).1 (p.under reply).2 := by
  induction p with
  | done a => exact .done a
  | report e p ih => exact .report ih
  | ask q k ih => exact .ask (ih (reply q))

/-! ## Surroundings with a reply to the request at each place -/

/-- A reply to any request, by how many requests there were before it. -/
abbrev Replies (S : Interface) := Nat → (q : S.Request) → S.Reply q

/-- The run in which each request gets the reply for its place. -/
def answeredBy (replies : Replies S) : Program S α → Trace S × α
  | done a => ([], a)
  | report e p => (.reported e :: (p.answeredBy replies).1, (p.answeredBy replies).2)
  | ask q k =>
    let next := (k (replies 0 q)).answeredBy fun n ↦ replies (n + 1)
    (.asked q (replies 0 q) :: next.1, next.2)

@[simp] theorem answeredBy_done (replies : Replies S) (a : α) :
    (done a : Program S α).answeredBy replies = ([], a) := rfl

@[simp] theorem snd_answeredBy_report (replies : Replies S) (e : Event) (p : Program S α) :
    ((report e p).answeredBy replies).2 = (p.answeredBy replies).2 := rfl

@[simp] theorem snd_answeredBy_ask (replies : Replies S) (q : S.Request)
    (k : S.Reply q → Program S α) :
    ((ask q k).answeredBy replies).2 =
      ((k (replies 0 q)).answeredBy fun n ↦ replies (n + 1)).2 := rfl

/-- One program after another ends as the second does, with the replies that the first left over. -/
theorem snd_answeredBy_bind (replies : Replies S) (p : Program S α) (f : α → Program S β) :
    ((p.bind f).answeredBy replies).2 =
      ((f (p.answeredBy replies).2).answeredBy fun n ↦
        replies (n + (requests (p.answeredBy replies).1).length)).2 := by
  induction p generalizing replies with
  | done a => rfl
  | report e p ih => exact ih replies
  | ask q k ih =>
    simp only [bind, answeredBy, ih, requests_asked, List.length_cons, Nat.add_assoc]

/-! ## Programs whose requests are answered by programs -/

theorem interpret_bind (answer : (q : S.Request) → Program T (S.Reply q)) (p : Program S α)
    (f : α → Program S β) :
    (p.bind f).interpret answer = (p.interpret answer).bind fun a ↦ (f a).interpret answer := by
  induction p with
  | done a => rfl
  | report e p ih => simp only [bind, interpret, ih]
  | ask q k ih => simp only [bind, interpret, ih, bind_assoc]

end Program

end BusAccess
