import BusAccess.Bench.Basic

/-!
# A simulated kernel

The kernel of the bench has a tree of files and the descriptors that are open on it.  A descriptor
is always the lowest free number, and has an offset of its own.  Each write to a file is written
down, as is each control request; reads and writes take their outcomes from the script.

Replacing the content of a file takes as many writes as it needs, each with its own outcome.  Tables
are gone through from the first entry to the last.
-/

set_option autoImplicit false

namespace BusAccess.Bench

/-- The lowest number that is no open descriptor. -/
def lowestFree (opened : List (Nat × Opened)) : Nat :=
  ((List.range (opened.length + 1)).find? fun n ↦ (opened.lookup n).isNone).getD 0

/-- The open file of a descriptor. -/
def openedAt (fd : Node.Descriptor) : StateM Bench (Option Opened) := do
  let b ← get
  return if 0 ≤ fd.toInt then b.opened.lookup fd.toInt.toNat else none

/-- Changes the open file of a descriptor. -/
def setOpened (fd : Node.Descriptor) (f : Opened) : StateM Bench Unit := modify fun b ↦
  let opened := b.opened.map fun o ↦ if o.1 = fd.toInt.toNat then (o.1, f) else o
  { b with opened }

/-- Closes a descriptor. -/
def closeOpened (fd : Node.Descriptor) : StateM Bench Unit := modify fun b ↦
  let opened := b.opened.filter fun o ↦ (o.1 : Int) != fd.toInt
  { b with opened }

/-- Changes a content. -/
def editContent (n : Nat) (edit : Bytes → Bytes) : StateM Bench Unit := modify fun b ↦
  let files := b.files.setContent n (edit (b.files.content n))
  { b with files }

/-- Opens a file under the lowest free descriptor. -/
def openFile (path : String) : StateM Bench (Option Node.Descriptor) := do
  let b ← get
  match b.files.entry? path with
  | some (.file content) =>
    let fd := lowestFree b.opened
    set { b with opened := (fd, { path, content }) :: b.opened }
    return some (Int32.ofNat fd)
  | _ => return none

/-- How the kernel names an open file: by its path, with a remark if the file is gone from there. -/
def shownPath (f : Opened) : StateM Bench String := do
  let b ← get
  if b.files.entry? f.path = some (.file f.content) then return f.path
  else return f.path ++ " (deleted)"

/-- Reads from an open file. -/
def readOpened (fd : Node.Descriptor) (length : Nat) : StateM Bench (Option Received) := do
  match ← openedAt fd with
  | none => return none
  | some f =>
    match ← outcome "read" with
    | some (.fail _) => return none
    | o =>
      let data := ((← get).files.content f.content).drop f.offset
      let taken := data.take (Outcome.limit o length)
      setOpened fd { f with offset := f.offset + taken.length }
      return some ⟨taken.length, taken ++ List.replicate (length - taken.length) 0⟩

/-- A content with bytes put at an offset.  A gap in front of them is filled with zeros; without
bytes there is nothing to be in front of, so the content stays as it is. -/
def overwrite (content : Bytes) (offset : Nat) (data : Bytes) : Bytes :=
  if data.isEmpty then content
  else content.take offset ++ List.replicate (offset - content.length) 0 ++ data ++
    content.drop (offset + data.length)

/-- Writes to an open file. -/
def writeOpened (fd : Node.Descriptor) (data : Bytes) : StateM Bench (Option Nat) := do
  match ← openedAt fd with
  | none => return none
  | some f =>
    record (.wrote (← shownPath f) data)
    match ← outcome "write" with
    | some (.fail _) => return none
    | o =>
      let written := data.take (Outcome.limit o data.length)
      editContent f.content fun data ↦ overwrite data f.offset written
      setOpened fd { f with offset := f.offset + written.length }
      return some written.length

/-- Appends data to a file, in as many writes as it takes.  A write that takes nothing fails. -/
def writeRest (path : String) (content : Nat) : Nat → Bytes → StateM Bench Bool
  | _, [] => return true
  | 0, _ :: _ => return false
  | bound + 1, data => do
    record (.wrote path data)
    match ← outcome "write" with
    | some (.fail _) => return false
    | o =>
      let count := Outcome.limit o data.length
      editContent content fun before ↦ before ++ data.take count
      if count = 0 then return false else writeRest path content bound (data.drop count)

/-- Replaces the content of a file, which is made if only its directory is there. -/
def writeWhole (path : String) (data : Bytes) : StateM Bench Bool := do
  let b ← get
  match b.files.entry? path with
  | some .directory => return false
  | some (.file content) =>
    set { b with files := b.files.setContent content [] }
    writeRest path content data.length data
  | none =>
    if b.files.hasParent path then
      let (content, files) := b.files.addFile path
      set { b with files }
      writeRest path content data.length data
    else return false

/-- Reads a whole file.  The outcome is that of the first of several reads. -/
def readWhole (path : String) : StateM Bench (Option Bytes) := do
  match (← get).files.entry? path with
  | none => return none
  | some .directory =>
    let _ ← outcome "read"
    return none
  | some (.file content) =>
    match ← outcome "read" with
    | some (.fail _) => return none
    | some (.atMost 0) => return some []
    | _ => return some ((← get).files.content content)

/-- Whether a control request comes out well. -/
def controlPasses (o : Option Outcome) : Bool :=
  match o, Outcome.number? o with
  | some (.fail _), _ => false
  | _, some n => n != -1
  | _, none => true

/-- The receive buffer of an exchange: the complement of what was sent, or bytes that count up. -/
def exchanged (m : Node.Message) : Bytes :=
  match m.rx with
  | none => []
  | some length =>
    match m.tx with
    | some data => data.map fun b ↦ ~~~b
    | none => counting 0xa5 length

/-- What the kernel answers. -/
def answerKernel : (q : Node.Request) → StateM Bench q.Reply
  | .present path => return ((← get).files.entry? path).isSome
  | .list directory => return (← get).files.list directory
  | .openNode path => openFile path
  | .close fd => closeOpened fd
  | .read fd length => readOpened fd length
  | .write fd data => writeOpened fd data
  | .setSlave fd address => do
    record (.asked (.kernel (.setSlave fd address)))
    return controlPasses (← outcome "ioctl.i2c_slave")
  | .setMode fd bits => do
    record (.asked (.kernel (.setMode fd bits)))
    return controlPasses (← outcome "ioctl.spi_mode")
  | .setMaxSpeed fd hz => do
    record (.asked (.kernel (.setMaxSpeed fd hz)))
    return controlPasses (← outcome "ioctl.spi_speed")
  | .exchange fd message => do
    record (.asked (.kernel (.exchange fd message)))
    let o ← outcome "ioctl.spi_message"
    if controlPasses o then
      return some ⟨(Outcome.number? o).getD message.length.toNat, exchanged message⟩
    else return none
  | .writeFile path data => writeWhole path data
  | .readFile path => readWhole path
  | .order size => return .ascending size
  | .reserve => return true

end BusAccess.Bench
