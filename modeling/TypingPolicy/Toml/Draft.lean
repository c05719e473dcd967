import TypingPolicy.Toml.Lexeme

/-!
# A TOML document in the making

Statements build up a table.  Which statements may still touch which tables is a matter of marks on key
paths: a path is *frozen*, with all below it, once a value in one piece stands there, and *explicit* once
a header, or dotted keys in an earlier section, have made its table.  Marks that dotted keys make wait
until the next header.
-/

namespace TypingPolicy.Toml

abbrev Key := List String

/-- The table so far, the header in force, and the marks. -/
structure Draft where
  root : Table := []
  header : Key := []
  frozen : List Key := []
  explicit : List Key := []
  pending : List Key := []
  deriving Repr, Inhabited

/-! ## 1. Reaching into tables -/

/-- Changes the table at a path, and makes the tables that are missing on the way.  Through a list of
tables the path goes into its last item, if `intoLists` allows it. -/
def reach (intoLists : Bool) (f : Table → Except Fault Table) : Key → Table → Except Fault Table
  | [], t => f t
  | k :: rest, t =>
    match t.get? k with
    | none => do return t ++ [(k, .table (← reach intoLists f rest []))]
    | some (.table inner) => do return t.replace k (.table (← reach intoLists f rest inner))
    | some (.list items) =>
      match intoLists, items.getLast? with
      | true, some (.table inner) => do
        let inner ← reach intoLists f rest inner
        return t.replace k (.list (items.dropLast ++ [.table inner]))
      | _, _ => .error .malformed
    | some _ => .error .malformed

/-- A key is given a value once. -/
def addEntry (name : String) (v : Value) (t : Table) : Except Fault Table :=
  if (t.get? name).isSome then .error .malformed else .ok (t ++ [(name, v)])

/-- Adds an empty table to the list under a name. -/
def addItem (name : String) (t : Table) : Except Fault Table :=
  match t.get? name with
  | none => .ok (t ++ [(name, .list [.table []])])
  | some (.list items) => .ok (t.replace name (.list (items ++ [.table []])))
  | some _ => .error .malformed

/-- All parts of a key but the last, and the last. -/
def splitLast (k : Key) : Key × String := (k.dropLast, k.getLastD "")

/-- Values in one piece are closed to later statements. -/
def isCompound : Value → Bool
  | .list _ | .table _ => true
  | _ => false

/-! ## 2. Statements -/

/-- Is the path, or one that leads to it, among the paths? -/
def coveredBy (paths : List Key) (k : Key) : Bool := paths.any (·.isPrefixOf k)

namespace Draft

def isFrozen (d : Draft) (k : Key) : Bool := coveredBy d.frozen k

def isExplicit (d : Draft) (k : Key) : Bool := k ∈ d.explicit

/-- Removes the marks on a path and on all below it. -/
def release (k : Key) (d : Draft) : Draft :=
  { d with
    frozen := d.frozen.filter fun path => !k.isPrefixOf path
    explicit := d.explicit.filter fun path => !k.isPrefixOf path }

/-- Marks that were waiting take effect. -/
def settle (d : Draft) : Draft := { d with explicit := d.pending ++ d.explicit, pending := [] }

/-- `[key]` opens a table that was not opened before. -/
def openTable (k : Key) (d : Draft) : Except Fault Draft := do
  let d := d.settle
  if d.isExplicit k || d.isFrozen k then throw .malformed
  let root ← reach true .ok k d.root
  return { d with root, header := k, explicit := k :: d.explicit }

/-- `[[key]]` adds a table to a list of tables; what was said about the last one is forgotten. -/
def openItem (k : Key) (d : Draft) : Except Fault Draft := do
  let d := d.settle
  if d.isFrozen k then throw .malformed
  let d := d.release k
  let (front, last) := splitLast k
  let root ← reach true (addItem last) front d.root
  return { d with root, header := k, explicit := k :: d.explicit }

/-- The tables that a dotted key goes through, seen from the root. -/
def passed (header : Key) : Key → List Key
  | [] | [_] => []
  | part :: rest => (header ++ [part]) :: passed (header ++ [part]) rest

/-- `key = value` under the header in force. -/
def assign (k : Key) (v : Value) (d : Draft) : Except Fault Draft := do
  let through := passed d.header k
  if through.any d.isExplicit then throw .malformed
  let (front, last) := splitLast k
  let parent := d.header ++ front
  if d.isFrozen parent then throw .malformed
  let root ← reach true (addEntry last v) parent d.root
  return { d with
    root
    pending := through ++ d.pending
    frozen := if isCompound v then (d.header ++ k) :: d.frozen else d.frozen }

end Draft

end TypingPolicy.Toml
