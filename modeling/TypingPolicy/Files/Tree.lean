import TypingPolicy.Files.Path

/-!
# File trees

What a configuration source can see of a file system: regular files with their bytes, and directories.
A path is followed part by part, so `x/..` is somewhere only if `x` is a directory.  Following a path
may fail in three ways that callers tell apart.

Three things of a file system are outside the model.  There are no links, so that names lead to one place
only.  There are no permissions, so that all that is there can be looked up and read.  And the working
directory is not removed while it is worked in: it is a directory of the tree, which `FileTree` carries
as a proof.
-/

namespace TypingPolicy

inductive FileNode where
  | directory
  | file (bytes : List UInt8)
  deriving DecidableEq, Repr, Inhabited

/-- The nodes hold a directory with those names, and every directory on the way to it. -/
def Standing (nodes : List (List String × FileNode)) (names : List String) : Prop :=
  ∀ front ∈ Path.beginnings names, front ≠ [] → nodes.lookup front = some .directory

instance (nodes : List (List String × FileNode)) (names : List String) :
    Decidable (Standing nodes names) :=
  inferInstanceAs (Decidable (∀ front ∈ Path.beginnings names, _ → _))

/-- The root needs no node. -/
theorem standing_root (nodes : List (List String × FileNode)) : Standing nodes [] :=
  fun _ hfront hne => absurd (List.mem_singleton.mp hfront) hne

/-- Nodes by the names that lead to them from the root, of which the first with its names counts.  The
root is always a directory. -/
structure FileTree where
  nodes : List (List String × FileNode) := []
  /-- The names that lead to the working directory. -/
  working : List String := []
  stands : Standing nodes working := by exact standing_root _
  deriving Repr

/-- There is only the root, which is worked in. -/
def FileTree.empty : FileTree := {}

instance : Inhabited FileTree := ⟨.empty⟩

/-- Why a path leads nowhere. -/
inductive PathFault where
  /-- A part is missing, or is a file where a directory is needed. -/
  | missing
  /-- A name, or the whole path, is longer than the system takes. -/
  | tooLong
  /-- The path holds the character NUL. -/
  | nul
  deriving DecidableEq, Repr, Inhabited

namespace FileTree

/-! ## 1. Following paths -/

def node? (t : FileTree) (names : List String) : Option FileNode :=
  if names = [] then some .directory else t.nodes.lookup names

/-- The most bytes in one name. -/
def nameLimit : Nat := 255

/-- The least number of bytes that is too many for a whole path. -/
def pathLimit : Nat := 4096

/-- Follows names from a place that is already reached, kept backwards. -/
def follow (t : FileTree) (place : List String) : List String → Except PathFault FileNode
  | [] => (t.node? place.reverse).elim (.error .missing) .ok
  | name :: rest =>
    match t.node? place.reverse with
    | some .directory =>
      if name = ".." then t.follow (place.drop 1) rest
      else if nameLimit < name.utf8ByteSize then .error .tooLong
      else t.follow (name :: place) rest
    | _ => .error .missing

def hasNul (p : Path) : Bool := p.names.any (·.toList.contains '\x00')

/-- The names of a path, seen from the working directory. -/
def absoluteNames (t : FileTree) (p : Path) : List String :=
  if p.root = .relative then t.working ++ p.names else p.names

/-- What a path leads to. -/
def find (t : FileTree) (p : Path) : Except PathFault FileNode :=
  if hasNul p then .error .nul
  else if pathLimit ≤ p.text.utf8ByteSize then .error .tooLong
  else t.follow [] (t.absoluteNames p)

/-- Is there a regular file?  A path that cannot exist is no file, but one that is too long is not
even looked up. -/
def isFile (t : FileTree) (p : Path) : Except PathFault Bool :=
  match t.find p with
  | .ok (.file _) => .ok true
  | .error .tooLong => .error .tooLong
  | _ => .ok false

/-- The bytes of a regular file. -/
def bytes (t : FileTree) (p : Path) : Except PathFault (List UInt8) :=
  match t.find p with
  | .ok (.file bytes) => .ok bytes
  | .ok .directory => .error .missing
  | .error e => .error e

/-! ## 2. Building trees -/

/-- Makes one directory unless something is there. -/
def addDirectory (t : FileTree) (names : List String) : FileTree :=
  if (t.node? names).isSome then t
  else
    { t with
      nodes := t.nodes ++ [(names, .directory)]
      stands := fun front hfront hne => by rw [List.lookup_append, t.stands front hfront hne]; rfl }

/-- Makes a directory with all directories on the way, also those that the path leaves again. -/
def makeDirectory (names : List String) (t : FileTree) : FileTree :=
  (Path.beginnings names).foldl (fun t front => t.addDirectory (Path.collapse front)) t

/-- Puts a file in a place, unless there is a directory. -/
def addFile (place : List String) (bytes : List UInt8) (t : FileTree) : FileTree :=
  if h : t.node? place = some .directory then t
  else
    { t with
      nodes := (place, .file bytes) :: t.nodes
      stands := fun front hfront hne => by
        have hdirectory := t.stands front hfront hne
        -- The place is none of the directories that have to stand.
        have hplace : front ≠ place := by
          rintro rfl
          exact h (by rw [node?, if_neg hne, hdirectory])
        rw [List.lookup_cons, beq_eq_false_iff_ne.mpr hplace]
        exact hdirectory }

/-- Writes a file, and makes the directories on the way. -/
def write (names : List String) (bytes : List UInt8) (t : FileTree) : FileTree :=
  (t.makeDirectory names.dropLast).addFile (Path.collapse names) bytes

/-- Makes a directory and works in it, unless a file is in the way. -/
def enter (names : List String) (t : FileTree) : FileTree :=
  let t := t.makeDirectory names
  let place := Path.collapse names
  if h : Standing t.nodes place then { t with working := place, stands := h } else t

end FileTree

end TypingPolicy
