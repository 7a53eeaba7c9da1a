import BusAccess.Bench.Kernel
import BusAccess.Bench.Partners

/-!
# Running programs on the bench

What the bench answers to any request, and the run of a program that asks them.
-/

set_option autoImplicit false

namespace BusAccess.Bench

open Log (Event)

/-- What the bench answers. -/
def answer : (q : Surroundings.Request) → StateM Bench q.Reply
  | .daemon q => answerDaemon q
  | .adapter q => answerAdapter q
  | .kernel q => answerKernel q
  | .script q => answerScript q

/-- Runs a program on the bench. -/
def run {α : Type} (p : Program Surroundings.interface α) : StateM Bench α := p.run answer note

/-- Takes the journal out: the calls and the events since it was last taken. -/
def takeJournal : StateM Bench (List Call × List Event) := do
  let b ← get
  set { b with calls := [], events := [] }
  return (b.calls.reverse, b.events.reverse)

end BusAccess.Bench
