import TypingPolicy.Files.Tree
import TypingPolicy.Files.Utf8
import TypingPolicy.Toml.Reader

/-!
# Where configuration comes from

A source is asked once and answers with a value or with nothing.  File sources answer with a table of a
TOML file: `conventions` looks beside the build directory that a target lies in, `pyproject` looks upwards
for the nearest project file.  A file that is missing, cannot be read or is malformed counts as no
configuration; bytes that are no text, integers beyond all measure, values nested too deeply and unusable
paths are faults, which a source passes on.
-/

namespace TypingPolicy

/-- What a source that always fails fails with.  A failure is taken to be an ordinary one, which those
who ask the source may absorb, and to have a text that can be printed; what ends the whole run, and a
failure whose text fails in turn, are outside the model. -/
inductive Failure where
  | system
  | value
  | runtime
  | key
  /-- Any other failure, with what it says of itself. -/
  | other (text : String)
  deriving DecidableEq, Repr, Inhabited

inductive LookupFault where
  | badEncoding
  | oversizedInteger
  | tooDeep
  | nulInPath
  | pathTooLong
  | notAPath
  | failed (f : Failure)
  deriving DecidableEq, Repr, Inhabited

/-- An answer, and the debug lines on the way to it. -/
structure Lookup (α : Type) where
  outcome : Except LookupFault α
  notes : List String := []

/-- A directory given by the host. -/
inductive Target where
  | unset
  | path (s : String)
  /-- Something that is no path at all. -/
  | unusable
  deriving DecidableEq, Repr, Inhabited

inductive Source where
  /-- The given value; null is no configuration. -/
  | fixed (mapping : Value)
  | failing (f : Failure)
  | conventions (target : Target) (fileName table : String)
  /-- Without a search path the search starts in the working directory. -/
  | pyproject (searchPath : Option String)
  deriving Repr, Inhabited

/-! ## 1. Tables in files -/

/-- The table that a list of keys leads to, through tables only. -/
def descend : List String → Value → Option Value
  | [], v => match v with
    | .table _ => some v
    | _ => none
  | k :: rest, v => match v with
    | .table t => (Table.get? t k).bind (descend rest)
    | _ => none

/-- The table under the keys in the TOML document that bytes spell. -/
def tableInBytes (bytes : List UInt8) (keys : List String) : Lookup (Option Value) :=
  match Utf8.decode? bytes with
  | none => ⟨.error .badEncoding, []⟩
  | some document => match Toml.read document with
    | .ok t => ⟨.ok (descend keys (.table t)), []⟩
    | .error .malformed => ⟨.ok none, ["Unable to read"]⟩
    | .error .oversizedInteger => ⟨.error .oversizedInteger, []⟩
    | .error .tooDeep => ⟨.error .tooDeep, []⟩

/-- The table under the keys in the TOML file at a path. -/
def readTable (files : FileTree) (path : Path) (keys : List String) : Lookup (Option Value) :=
  match files.bytes path with
  | .ok bytes => tableInBytes bytes keys
  | .error .nul => ⟨.error .nulInPath, []⟩
  | .error _ => ⟨.ok none, ["Unable to read"]⟩

/-! ## 2. The conventions file -/

/-- The names of build directories, in the order in which they are tried. -/
def buildDirectories : List String := ["build", "target", "output"]

def conventionsFile : String := "conventions.toml"

def conventionsTable : String := "conventions"

/-- The path of a target, seen from the working directory. -/
def absolute (files : FileTree) (target : String) : Path :=
  (Path.mk .slash files.working).join (.ofString target)

/-- The places where the file may be: beside the last part of the target that is a build directory, for
each name that build directories go by. -/
def candidates (files : FileTree) (target fileName : String) : List Path :=
  buildDirectories.map fun name =>
    ((absolute files target).cutBefore name).join (.ofString fileName)

/-- The first of the paths that is a regular file; the search ends where a path is too long. -/
def firstFile (files : FileTree) : List Path → Lookup (Option Path)
  | [] => ⟨.ok none, []⟩
  | p :: rest => match files.isFile p with
    | .ok true => ⟨.ok (some p), []⟩
    | .ok false => firstFile files rest
    | .error _ => ⟨.ok none, ["Conventions lookup failed for"]⟩

/-- The conventions file for a target. -/
def findFile (files : FileTree) (target : Target) (fileName : String) : Lookup (Option Path) :=
  match target with
  | .unset => ⟨.ok none, []⟩
  | .unusable => ⟨.error .notAPath, []⟩
  | .path s => firstFile files (candidates files s fileName)

def lookupConventions (files : FileTree) (target : Target) (fileName table : String) :
    Lookup (Option Value) :=
  match findFile files target fileName with
  | ⟨.ok (some p), _⟩ => readTable files p [table]
  | ⟨.ok none, notes⟩ => ⟨.ok none, notes⟩
  | ⟨.error e, notes⟩ => ⟨.error e, notes⟩

/-! ## 3. The project file -/

def projectFile : String := "pyproject.toml"

def projectKeys : List String := ["tool", "enterprise_conventions"]

/-- The project files that may decide, the nearest first. -/
def projectFiles (names : List String) : List Path :=
  (Path.withAncestors names).map fun front => ⟨.slash, front ++ [projectFile]⟩

/-- The first regular file among the paths decides alone. -/
def nearestTable (files : FileTree) : List Path → Lookup (Option Value)
  | [] => ⟨.ok none, []⟩
  | p :: rest => match files.isFile p with
    | .ok true => readTable files p projectKeys
    | .ok false => nearestTable files rest
    | .error _ => ⟨.error .pathTooLong, []⟩

def lookupProject (files : FileTree) (searchPath : Option String) : Lookup (Option Value) :=
  let start := Path.ofString (searchPath.getD "")
  if FileTree.hasNul start then ⟨.error .nulInPath, []⟩
  else nearestTable files (projectFiles (Path.collapse (files.absoluteNames start)))

/-! ## 4. Any source -/

def Source.lookup (files : FileTree) : Source → Lookup (Option Value)
  | .fixed .null => ⟨.ok none, []⟩
  | .fixed v => ⟨.ok (some v), []⟩
  | .failing f => ⟨.error (.failed f), []⟩
  | .conventions target fileName table => lookupConventions files target fileName table
  | .pyproject searchPath => lookupProject files searchPath

end TypingPolicy
