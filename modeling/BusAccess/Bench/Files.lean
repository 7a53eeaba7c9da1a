import BusAccess.Bus.Device

/-!
# A tree of files

Files and directories by their paths.  A file's content is kept apart from its name, so a file that
is removed stays usable for those who have it open, and a new file of the same name is another one.
-/

set_option autoImplicit false

namespace BusAccess.Bench

/-- What a path names. -/
inductive Entry where
  | directory
  /-- A file, by the number of its content. -/
  | file (content : Nat)
  deriving DecidableEq, Repr

/-- A tree of files and directories. -/
structure Files where
  /-- What there is at each path. -/
  entries : List (String × Entry) := []
  /-- What the files contain, by number. -/
  contents : List (Nat × Bytes) := []
  /-- The number of the next new content. -/
  next : Nat := 0
  deriving DecidableEq, Repr

namespace Files

/-- What a path names, if anything. -/
def entry? (t : Files) (path : String) : Option Entry := t.entries.lookup path

/-- A content. -/
def content (t : Files) (n : Nat) : Bytes := (t.contents.lookup n).getD []

/-- Replaces a content. -/
def setContent (n : Nat) (data : Bytes) (t : Files) : Files :=
  { t with contents := t.contents.map fun c ↦ if c.1 = n then (n, data) else c }

/-- Adds an empty file under a name that is free. -/
def addFile (path : String) (t : Files) : Nat × Files :=
  (t.next, {
    entries := t.entries ++ [(path, .file t.next)]
    contents := t.contents ++ [(t.next, [])]
    next := t.next + 1 })

/-- The directories above a path, from the outermost on. -/
def parents (path : String) : List String :=
  let parts := path.splitOn "/"
  (List.range (parts.length - 1)).map fun i ↦ "/".intercalate (parts.take (i + 1))

/-- The directory that a path is in, `none` for the top. -/
def parent? (path : String) : Option String := (parents path).getLast?

/-- Whether a directory for `path` is there. -/
def hasParent (t : Files) (path : String) : Bool :=
  match parent? path with
  | none => true
  | some directory => t.entry? directory == some .directory

/-- Makes a directory where nothing is. -/
def makeDirectory (t : Files) (path : String) : Files :=
  match t.entry? path with
  | none => { t with entries := t.entries ++ [(path, .directory)] }
  | some _ => t

/-- Makes a directory and those above it. -/
def makeDirectories (path : String) (t : Files) : Files :=
  (parents path ++ [path]).foldl makeDirectory t

/-- Makes a file with some content, or gives a file another content. -/
def put (path : String) (data : Bytes) (t : Files) : Files :=
  let t := (parents path).foldl makeDirectory t
  match t.entry? path with
  | some .directory => t
  | some (.file n) => t.setContent n data
  | none =>
    let (n, t) := t.addFile path
    t.setContent n data

/-- Removes a path and everything under it. -/
def remove (path : String) (t : Files) : Files :=
  { t with entries := t.entries.filter fun e ↦ e.1 != path && !e.1.startsWith (path ++ "/") }

/-- The names in a directory. -/
def list (t : Files) (directory : String) : Option (List String) :=
  if t.entry? directory = some .directory then
    some (t.entries.filterMap fun e ↦
      if parent? e.1 = some directory then (e.1.splitOn "/").getLast? else none)
  else none

/-- Everything in the tree, with the contents of the files. -/
def all (t : Files) : List (String × Option Bytes) :=
  t.entries.map fun e ↦ match e.2 with
    | .directory => (e.1, none)
    | .file n => (e.1, some (t.content n))

end Files

end BusAccess.Bench
