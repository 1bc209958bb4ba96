/-
Files and directories that are only imagined.

They are a tree.  The way to something is a trail from the top down; what is found on the way has to
be a directory, and the top is the directory of itself.  A trail keeps what it has come through, so
that the tree can be put together again with something else at its end.

A directory may hold the cells of a client; the files and the directory in which they are written
are then in it as well.
-/
import OnionSwarm.Store.Disk
import OnionSwarm.Store.Location

namespace OnionSwarm.Simulation

/-- A file, or a directory with all that is in it. -/
inductive FileTree where
  | file (contents : Bytes)
  /-- A directory: the cells that are kept in it, and what is in it under which name. -/
  | directory (cells : Disk) (entries : List (String × FileTree))

namespace FileTree

/-- A directory with nothing in it. -/
def empty : FileTree := .directory .empty []

instance : Inhabited FileTree := ⟨empty⟩

/-- What is in a directory. -/
def entries : FileTree → List (String × FileTree)
  | .file _ => []
  | .directory _ entries => entries

/-- A directory with something in it under a name. -/
def withEntry (t : FileTree) (name : String) (e : FileTree) : FileTree :=
  match t with
  | .file contents => .file contents
  | .directory cells entries => .directory cells ((name, e) :: entries.filter (·.1 != name))

/-! ### Trails -/

/-- The names that lead somewhere from the top, each with what it leads to, the last one first. -/
abbrev Trail := List (String × FileTree)

/-- What is at the end of a trail. -/
def look (t : FileTree) : Trail → FileTree
  | [] => t
  | (_, e) :: _ => e

/-- The tree with something else at the end of a trail. -/
def putAt (t e : FileTree) : Trail → FileTree
  | [] => e
  | (name, _) :: rest => t.putAt ((t.look rest).withEntry name e) rest

/-- The longest name of a file, in bytes. -/
def longestName : Nat := 255

/-- The longest text that names a location, in bytes. -/
def longestText : Nat := 4095

/-- Goes on by a name. -/
def enter (t : FileTree) (trail : Trail) (name : String) : Except FileFailure Trail :=
  match t.look trail with
  | .file _ => .error .notDirectory
  | .directory _ entries =>
    if name = "." then .ok trail
    else if name = ".." then .ok trail.tail
    else if longestName < name.utf8ByteSize then .error .nameTooLong
    else
      match entries.lookup name with
      | some e => .ok ((name, e) :: trail)
      | none => .error .missing

/-- Goes by some names, the last one first. -/
def follow (t : FileTree) : List String → Except FileFailure Trail
  | [] => .ok []
  | name :: rest =>
    match t.follow rest with
    | .ok trail => t.enter trail name
    | .error e => .error e

/-- Why a location cannot be one at all. -/
def fault? (l : Location) : Option FileFailure :=
  if l.text.contains '\x00' then some .emptyCharacter
  else if longestText < l.text.utf8ByteSize then some .nameTooLong
  else none

/-- Goes to a location. -/
def trail (t : FileTree) (l : Location) : Except FileFailure Trail :=
  match fault? l with
  | some e => .error e
  | none => t.follow l.names

/-! ### Files and directories -/

/-- Makes one directory. -/
def make (l : Location) : StateM FileTree (Option FileFailure) := fun t =>
  match fault? l, l.names with
  | some e, _ => (some e, t)
  | none, [] => (some .taken, t)
  | none, name :: rest =>
    match t.follow rest with
    | .error e => (some e, t)
    | .ok trail =>
      match t.enter trail name with
      | .ok _ => (some .taken, t)
      | .error .missing => (none, t.putAt ((t.look trail).withEntry name .empty) trail)
      | .error e => (some e, t)

/-- Is there a directory? -/
def isDirectory (t : FileTree) (l : Location) : Bool :=
  match t.trail l with
  | .error _ => false
  | .ok trail =>
    match t.look trail with
    | .directory _ _ => true
    | .file _ => false

/-- How directories are made here. -/
def maker : Location.Maker (StateM FileTree) := ⟨make, fun l t => (t.isDirectory l, t)⟩

/-- What is in a file. -/
def read (t : FileTree) (l : Location) : FileContents :=
  match t.trail l with
  | .error .missing => .ok none
  | .error e => .error e
  | .ok trail =>
    match t.look trail with
    | .file contents => .ok (some contents)
    | .directory _ _ => .error .isDirectory

/-- The names of what is in a directory. -/
def list (t : FileTree) (l : Location) : List String :=
  match t.trail l with
  | .error _ => []
  | .ok trail => (t.look trail).entries.map Prod.fst

/-- Puts something in the directory of a location. -/
def put (t : FileTree) (l : Location) (name : String) (e : FileTree) : FileTree :=
  match t.trail l with
  | .error _ => t
  | .ok trail => t.putAt ((t.look trail).withEntry name e) trail

/-! ### Storage

The cells of a directory are in two files and the directory beside them.  When cells that were
written before are used again, they are first copied into a file whose name says how far they go;
only the copy whose name is the last is looked at. -/

/-- The file that says how the cells are written. -/
def cellRules : String := "conf"

/-- The file in which the cells are written. -/
def cellLog : String := "db"

/-- The directory beside them. -/
def blobs : String := "blobs"

/-- Is this the name of a copy that is complete? -/
def isCopy (name : String) : Bool := name.startsWith "snap." && !name.endsWith ".in___motion"

/-- The name of the copy that is made. -/
def copyName : String := "snap.0000000000000400"

/-- A file is there, or the reason why it cannot be. -/
def prepareFile (l : Location) (name : String) : StateM FileTree (Option FileFailure) := fun t =>
  match t.read (l.child name) with
  | .error e => (some e, t)
  | .ok (some _) => (none, t)
  | .ok none => (none, t.put l name (.file []))

/-- What was written before is copied, unless the last of the copies cannot be read. -/
def prepareCopy (l : Location) : StateM FileTree (Option FileFailure) := fun t =>
  let last? := ((t.list l).filter isCopy).mergeSort.getLast?
  if last?.any fun last => t.isDirectory (l.child last) then (some .isDirectory, t)
  else
    match t.read (l.child cellLog) with
    | .ok (some (_ :: _)) => prepareFile l copyName t
    | _ => (none, t.put l cellLog (.file [0]))

/-- Does one thing after the other, until one of them fails. -/
def inTurn : List (StateM FileTree (Option FileFailure)) → StateM FileTree (Option FileFailure)
  | [] => return none
  | first :: rest => do
    match ← first with
    | none => inTurn rest
    | some e => return some e

/-- The directory with the cells is there, with its files. -/
def prepareCells (l : Location) : StateM FileTree (Option FileFailure) :=
  inTurn [maker.prepare (l.child blobs), prepareFile l cellRules, prepareFile l cellLog,
    prepareCopy l]

/-- The cells in a directory. -/
def cells (t : FileTree) (l : Location) : Disk :=
  match t.trail l with
  | .error _ => .empty
  | .ok trail =>
    match t.look trail with
    | .directory cells _ => cells
    | .file _ => .empty

/-- Writes the cells in a directory. -/
def putCells (t : FileTree) (l : Location) (d : Disk) : FileTree :=
  match t.trail l with
  | .error _ => t
  | .ok trail => t.putAt (.directory d (t.look trail).entries) trail

end FileTree
end OnionSwarm.Simulation
