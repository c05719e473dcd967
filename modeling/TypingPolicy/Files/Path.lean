/-!
# Paths

A path is a root and the names below it.  Writing a path down loses nothing but spelling: repeated
slashes and parts `.` vanish when a text is read, `..` stays.  Exactly two slashes at the start are a
root of their own.  `Path.cutBefore` finds the directory that a build directory belongs to.
-/

namespace TypingPolicy

/-- Where a path starts. -/
inductive PathRoot where
  | relative
  | slash
  | doubleSlash
  deriving DecidableEq, Repr, Inhabited

def PathRoot.text : PathRoot → String
  | .relative => ""
  | .slash => "/"
  | .doubleSlash => "//"

structure Path where
  root : PathRoot := .relative
  names : List String := []
  deriving DecidableEq, Repr, Inhabited

namespace Path

/-! ## 1. Reading and writing -/

/-- The pieces between slashes. -/
def splitSlashes : List Char → List (List Char)
  | [] => [[]]
  | c :: rest =>
    match splitSlashes rest with
    | piece :: more => if c = '/' then [] :: piece :: more else (c :: piece) :: more
    | [] => [[c]]

/-- A piece that is a name: not empty and not `.`. -/
def isName (piece : List Char) : Bool := piece ≠ [] && piece ≠ ['.']

/-- The names in a text; the slashes at its start do not matter here. -/
def namesOf (s : List Char) : List String :=
  ((splitSlashes s).filter isName).map String.ofList

/-- The root that the slashes at the start of a text announce. -/
def rootOf : List Char → PathRoot
  | '/' :: '/' :: '/' :: _ => .slash
  | '/' :: '/' :: _ => .doubleSlash
  | '/' :: _ => .slash
  | _ => .relative

def ofString (s : String) : Path := ⟨rootOf s.toList, namesOf s.toList⟩

def joinSlashes : List String → String
  | [] => ""
  | [name] => name
  | name :: rest => name ++ "/" ++ joinSlashes rest

/-- The text of a path; a path with nothing in it is `.`. -/
def text (p : Path) : String :=
  if p.root = .relative ∧ p.names = [] then "." else p.root.text ++ joinSlashes p.names

/-- The parts of a path: its root, if it has one, and its names. -/
def parts (p : Path) : List String :=
  if p.root = .relative then p.names else p.root.text :: p.names

/-! ## 2. Combining and cutting -/

/-- `q` seen from `p`: an absolute `q` stays what it is. -/
def join (p q : Path) : Path :=
  match q.root with
  | .relative => { p with names := p.names ++ q.names }
  | _ => q

/-- The items before the last one that equals `x`. -/
def beforeLast? (x : String) : List String → Option (List String)
  | [] => none
  | y :: rest =>
    match beforeLast? x rest with
    | some front => some (y :: front)
    | none => if y = x then some [] else none

/-- The path before its last part named `segment`, or the whole path if there is none.  The first part
is never a place to cut: neither the root nor the first name of a relative path. -/
def cutBefore (p : Path) (segment : String) : Path :=
  match p.root, p.names with
  | .relative, [] => p
  | .relative, first :: rest =>
    match beforeLast? segment rest with
    | some front => { p with names := first :: front }
    | none => p
  | _, names =>
    match beforeLast? segment names with
    | some front => { p with names := front }
    | none => p

/-- The names with every `..` carried out; above the root there is only the root. -/
def collapse (names : List String) : List String :=
  (names.foldl (fun back name => if name = ".." then back.drop 1 else name :: back) []).reverse

/-- All beginnings of a list of names, the empty one first. -/
def beginnings : List String → List (List String)
  | [] => [[]]
  | name :: rest => [] :: (beginnings rest).map (name :: ·)

/-- A list of names, the list without its last name, and so on up to the empty list. -/
def withAncestors (names : List String) : List (List String) := (beginnings names).reverse

end Path

end TypingPolicy
