import BusAccess.Bus.Lifecycle

/-!
# What the kernel is asked

Buses on the machine itself are reached through files.  A device node is opened for reading and
writing and from then on goes by its descriptor; the peculiarities of a bus are set by control
requests on the descriptor.  Pins are worked through small attribute files, each of which is opened,
written or read and closed in one go.

The kernel may refuse any request.  Why it does makes no difference to the library, so a refusal is
`none` or `false`.

Two things are asked for that are not the kernel's to say.  A backend keeps what is open in a table
that has no order, and the order in which it goes through the table when it needs every entry may be
a different one each time.  So it asks for that as well (`walk`), and a statement about all runs is
one about all orders.  The other is the block of memory for what the backend keeps, which the
allocator of the process may refuse when a bus is made.
-/

set_option autoImplicit false

namespace BusAccess.Node

/-- An open file of the process. -/
abbrev Descriptor := Int32

/-- One exchange on an SPI device as the kernel is told of it. -/
structure Message where
  /-- The bytes to send, if any. -/
  tx : Option Bytes
  /-- The length of the receive buffer, if there is one. -/
  rx : Option Nat
  /-- How many bytes the exchange takes. -/
  length : UInt32
  /-- The clock in hertz. -/
  speedHz : UInt32
  /-- How long to wait behind the exchange. -/
  delayUsecs : UInt16 := 0
  /-- How many bits make a word. -/
  bitsPerWord : UInt8 := 8
  /-- Five bytes of settings that stay at their defaults. -/
  settings : Bytes := [0, 0, 0, 0, 0]
  deriving DecidableEq, Repr

/-- What the kernel says after an exchange: its result, and the receive buffer. -/
structure Exchanged where
  /-- How many bytes went through, or something negative. -/
  result : Int
  /-- The receive buffer behind the exchange. -/
  rx : Bytes
  deriving DecidableEq, Repr

/-- An order in which to go through so many places, each of them once. -/
abbrev Order (size : Nat) := { places : List Nat // places.Perm (List.range size) }

namespace Order

variable {α : Type}

/-- From the first place to the last. -/
def ascending (size : Nat) : Order size := ⟨List.range size, .refl _⟩

/-- The entries of a list in an order. -/
def arrange (l : List α) (order : Order l.length) : List α := order.1.filterMap fun i ↦ l[i]?

theorem filterMap_range (l : List α) : (List.range l.length).filterMap (fun i ↦ l[i]?) = l := by
  induction l with
  | nil => rfl
  | cons a l ih =>
    rw [List.length_cons, List.range_succ_eq_map, List.filterMap_cons, List.filterMap_map]
    exact congrArg (a :: ·) ih

/-- Going through a list in an order leaves nothing out and takes nothing twice. -/
theorem arrange_perm (l : List α) (order : Order l.length) : (arrange l order).Perm l := by
  have h := order.2.filterMap fun i ↦ l[i]?
  rwa [filterMap_range] at h

end Order

/-- What is asked of the kernel. -/
inductive Request where
  /-- Whether there is a file or directory of this name. -/
  | present (path : String)
  /-- The names in a directory. -/
  | list (directory : String)
  | openNode (path : String)
  | close (fd : Descriptor)
  | read (fd : Descriptor) (length : Nat)
  | write (fd : Descriptor) (data : Bytes)
  /-- Sets the address of the device that is talked to. -/
  | setSlave (fd : Descriptor) (address : UInt16)
  | setMode (fd : Descriptor) (bits : UInt8)
  | setMaxSpeed (fd : Descriptor) (hz : UInt32)
  | exchange (fd : Descriptor) (message : Message)
  /-- Replaces the content of a file, making the file if it is missing. -/
  | writeFile (path : String) (data : Bytes)
  | readFile (path : String)
  /-- In which order to go through a table of some size. -/
  | order (size : Nat)
  /-- A block of memory for what the backend keeps. -/
  | reserve
  deriving DecidableEq, Repr

/-- What a request is answered with. -/
abbrev Request.Reply : Request → Type
  | present _ => Bool
  | list _ => Option (List String)
  | openNode _ => Option Descriptor
  | close _ => Unit
  | read _ _ => Option Received
  | write _ _ => Option Nat
  | setSlave _ _ => Bool
  | setMode _ _ => Bool
  | setMaxSpeed _ _ => Bool
  | exchange _ _ => Option Exchanged
  | writeFile _ _ => Bool
  | readFile _ => Option Bytes
  | order size => Order size
  | reserve => Bool

/-- What can be asked of the kernel, and the answers. -/
abbrev interface : Interface := ⟨Request, Request.Reply⟩

/-- The reply of the kernel to a request. -/
abbrev ask {σ : Type} (q : Request) : Action interface σ q.Reply := Action.ask (S := interface) q

/-- The entries of a table in the order in which they are gone through. -/
def walk {σ α : Type} (entries : List α) : Action interface σ (List α) := do
  return Order.arrange entries (← ask (.order entries.length))

/-- Makes a bus if there is memory for what its backend keeps; nothing has to be undone if not. -/
def withMemory {σ : Type} (made : Program interface (Except Error (Bus σ))) :
    Program interface (Except Error (Bus σ)) :=
  .ask .reserve fun
    | true => made
    | false => Bus.outOfMemory (.done ())

/-! ## Paths -/

/-- What stands between the path of a directory and a name: a slash, unless the path ends with one or
is empty. -/
def separator (directory : String) : String :=
  if directory = "" ∨ directory.toList.getLast? = some '/' then "" else "/"

theorem separator_of_getLast? {directory : String} {c : Char}
    (h : directory.toList.getLast? = some c) (hc : c ≠ '/') : separator directory = "/" := by
  refine if_neg ?_
  rintro (rfl | hlast)
  · exact absurd h nofun
  · exact hc (Option.some.inj (h.symm.trans hlast))

/-- The path of a file in a directory.  The file goes by its name, which never begins with a slash. -/
def inDirectory (directory file : String) : String := directory ++ separator directory ++ file

/-- Files in a directory are told apart by their names. -/
theorem inDirectory_inj {directory file file' : String} :
    inDirectory directory file = inDirectory directory file' ↔ file = file' := by
  rw [inDirectory, inDirectory, String.append_right_inj]

end BusAccess.Node
