import BusAccess.Error
import BusAccess.Json.Value

/-!
# Scripts

A script says what comes of calls on simulated surroundings.  There is a queue of outcomes for each
call by its name, and every call takes the outcome at the front; without one the call comes out as
it would by itself.
-/

set_option autoImplicit false

namespace BusAccess.Bench

/-- What comes of one call. -/
inductive Outcome where
  | fail (error : Error)
  /-- Succeeds, with a value where the call has one. -/
  | succeed (value : Json.Value)
  /-- Succeeds for no more than so many bytes. -/
  | atMost (count : Nat)
  deriving Repr

namespace Outcome

/-- The number that an outcome gives. -/
def number? : Option Outcome → Option Int
  | some (succeed v) => v.toInt?
  | _ => none

/-- How many of `length` bytes an outcome lets pass. -/
def limit (o : Option Outcome) (length : Nat) : Nat :=
  match o with
  | some (atMost n) => min n length
  | _ => length

/-- Fails if the outcome does, and succeeds with a value of one's own otherwise. -/
def settle {α : Type} (o : Option Outcome) (value : α) : Except Error α :=
  match o with
  | some (fail e) => .error e
  | _ => .ok value

end Outcome

/-- A queue of outcomes for each name. -/
abbrev Script := List (String × List Outcome)

namespace Script

/-- Appends outcomes to the queue of a name. -/
def append (name : String) (outcomes : List Outcome) : Script → Script
  | [] => [(name, outcomes)]
  | (n, queue) :: rest =>
    if n = name then (n, queue ++ outcomes) :: rest else (n, queue) :: append name outcomes rest

/-- Takes the front of the queue of a name. -/
def take (name : String) : Script → Option Outcome × Script
  | [] => (none, [])
  | (n, queue) :: rest =>
    if n = name then
      match queue with
      | [] => (none, (n, []) :: rest)
      | o :: queue => (some o, (n, queue) :: rest)
    else
      let (o, rest) := take name rest
      (o, (n, queue) :: rest)

end Script

end BusAccess.Bench
