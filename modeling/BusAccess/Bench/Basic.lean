import BusAccess.Bench.Files
import BusAccess.Bench.Script
import BusAccess.Platform.Surroundings

/-!
# The bench

Simulated surroundings for a platform: a daemon, an adapter, a kernel with a tree of files, and the
script of the scripted backends.  The bench does what it is asked as far as the script lets it, and
keeps a journal of the calls that leave a mark.

This module has the state of the bench and its journal; what the bench does is in the modules on
its partners and on its kernel.
-/

set_option autoImplicit false

namespace BusAccess

open Log (Event)

namespace Bench

/-- A file that is open. -/
structure Opened where
  /-- The path under which it was opened. -/
  path : String
  /-- The number of what it contains. -/
  content : Nat
  /-- Where the next byte is read or written. -/
  offset : Nat := 0
  deriving DecidableEq, Repr

/-- A call that is written down. -/
inductive Call where
  | asked (q : Surroundings.Request)
  /-- An attempt to write to a file. -/
  | wrote (path : String) (data : Bytes)
  deriving DecidableEq, Repr

end Bench

/-- The state of the simulated surroundings. -/
structure Bench where
  /-- What is to come of calls. -/
  script : Bench.Script := []
  /-- The files and directories. -/
  files : Bench.Files := {}
  /-- The open descriptors. -/
  opened : List (Nat × Bench.Opened) := []
  /-- The number of the next device on each connection to the daemon. -/
  links : List UInt32 := []
  /-- The calls so far, the latest first. -/
  calls : List Bench.Call := []
  /-- The events so far, the latest first. -/
  events : List Event := []

namespace Bench

/-- The outcome that the script has for a call. -/
def outcome (name : String) : StateM Bench (Option Outcome) := do
  let b ← get
  let (o, script) := Script.take name b.script
  set { b with script }
  return o

/-- Writes a call down. -/
def record (c : Call) : StateM Bench Unit := modify fun b ↦ { b with calls := c :: b.calls }

/-- Writes an event down. -/
def note (e : Event) : StateM Bench Unit := modify fun b ↦ { b with events := e :: b.events }

/-- Bytes that count up from a number. -/
def counting (start length : Nat) : Bytes :=
  (List.range length).map fun i ↦ UInt8.ofNat (start + i)

/-- A count: the one the script gives, or else the length of the data. -/
def countFor (o : Option Outcome) (length : Nat) : Nat :=
  ((Outcome.number? o).map Int.toNat).getD length

end Bench

end BusAccess
