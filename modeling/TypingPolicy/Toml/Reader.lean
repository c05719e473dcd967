import TypingPolicy.Toml.Draft

/-!
# Reading TOML

`Toml.read` turns the text of a document into a table.  Values nest, so their readers take an amount of
fuel; the length of the document bounds how far they can go, and `read` starts with more than that.  How
deep they can go is bounded too: each list and each table within a value takes some of the `room` there
is.  The format sets no such bound.  It comes from the stack of the system that reads, and the amounts
here are estimates of it.
-/

namespace TypingPolicy.Toml

/-! ## 1. Values -/

/-- Adds an entry to an inline table.  Only the table itself can be reached, not lists in it, and what
an earlier entry gave in one piece is closed. -/
def addInline (frozen : List Key) (k : Key) (v : Value) (t : Table) : Except Fault Table :=
  if coveredBy frozen k then .error .malformed
  else
    let (front, last) := splitLast k
    reach false (addEntry last v) front t

/-- The room that a value has.  This is an estimate, as are the two amounts that follow: with them 494
lists are read in one another and 329 inline tables.  What was seen is that 150 lists are read and 1200
are not; where reading ends between these depends on how much of the stack is in use. -/
def valueRoom : Nat := 988

/-- The room that a list takes, by estimate. -/
def listRoom : Nat := 2

/-- The room that an inline table takes, by estimate. -/
def tableRoom : Nat := 3

/-- What is left of the room. -/
def takeRoom (room needed : Nat) : Except Fault Nat :=
  if needed ≤ room then .ok (room - needed) else .error .tooDeep

mutual

/-- Reads a value. -/
def value : Nat → Nat → List Char → Except Fault (Value × List Char)
  | 0, _, _ => .error .malformed
  | fuel + 1, room, s =>
    match s with
    | '"' :: _ | '\'' :: _ => do
      let (text, rest) ← string s
      return (.text text, rest)
    | 't' :: 'r' :: 'u' :: 'e' :: rest => .ok (.bool true, rest)
    | 'f' :: 'a' :: 'l' :: 's' :: 'e' :: rest => .ok (.bool false, rest)
    | '[' :: rest => do
      let room ← takeRoom room listRoom
      let (items, rest) ← array fuel room [] (← skipTrivia false rest)
      return (.list items, rest)
    | '{' :: rest => do
      let room ← takeRoom room tableRoom
      match skipBlanks rest with
      | '}' :: rest => return (.table [], rest)
      | rest =>
        let (entries, rest) ← inline fuel room [] [] rest
        return (.table entries, rest)
    | _ => scalar s

/-- Reads the items of a list up to its end.  `items` is what was read so far, backwards. -/
def array : Nat → Nat → List Value → List Char → Except Fault (List Value × List Char)
  | 0, _, _, _ => .error .malformed
  | fuel + 1, room, items, s =>
    match s with
    | ']' :: rest => .ok (items.reverse, rest)
    | _ => do
      let (v, rest) ← value fuel room s
      match ← skipTrivia false rest with
      | ']' :: rest => .ok ((v :: items).reverse, rest)
      | ',' :: rest => array fuel room (v :: items) (← skipTrivia false rest)
      | _ => .error .malformed

/-- Reads the entries of an inline table up to its end; there is no comma behind the last one. -/
def inline : Nat → Nat → Table → List Key → List Char → Except Fault (Table × List Char)
  | 0, _, _, _, _ => .error .malformed
  | fuel + 1, room, t, frozen, s => do
    let (k, v, rest) ← pair fuel room s
    let t ← addInline frozen k v t
    match skipBlanks rest with
    | '}' :: rest => .ok (t, rest)
    | ',' :: rest => inline fuel room t (if isCompound v then k :: frozen else frozen) (skipBlanks rest)
    | _ => .error .malformed

/-- Reads a key, an equals sign and a value. -/
def pair : Nat → Nat → List Char → Except Fault (Key × Value × List Char)
  | 0, _, _ => .error .malformed
  | fuel + 1, room, s => do
    let (k, rest) ← key s
    match rest with
    | '=' :: rest =>
      let (v, rest) ← value fuel room (skipBlanks rest)
      return (k, v, rest)
    | _ => .error .malformed

end

/-! ## 2. Documents -/

/-- Reads the header `[key]` or `[[key]]`, from behind its first bracket. -/
def header (d : Draft) : List Char → Except Fault (Draft × List Char)
  | '[' :: rest => do
    let (k, rest) ← key (skipBlanks rest)
    let d ← d.openItem k
    match rest with
    | ']' :: ']' :: rest => return (d, rest)
    | _ => .error .malformed
  | rest => do
    let (k, rest) ← key (skipBlanks rest)
    let d ← d.openTable k
    match rest with
    | ']' :: rest => return (d, rest)
    | _ => .error .malformed

def startsKey (c : Char) : Bool := isBareKey c || c = '"' || c = '\''

/-- Reads one statement, or nothing where a comment stands alone. -/
def statement (fuel : Nat) (d : Draft) (s : List Char) : Except Fault (Draft × List Char) :=
  match s with
  | '[' :: rest => header d rest
  | '#' :: _ => .ok (d, s)
  | c :: _ =>
    if startsKey c then do
      let (k, v, rest) ← pair fuel valueRoom s
      return (← d.assign k v, rest)
    else .error .malformed
  | [] => .ok (d, [])

/-- Reads statements, one to a line. -/
def statements : Nat → Draft → List Char → Except Fault Draft
  | 0, _, _ => .error .malformed
  | fuel + 1, d, s =>
    match skipBlanks s with
    | [] => .ok d
    | '\n' :: rest => statements fuel d rest
    | s => do
      let (d, rest) ← statement fuel d s
      match ← skipComment (skipBlanks rest) with
      | [] => return d
      | '\n' :: rest => statements fuel d rest
      | _ => .error .malformed

/-- A line end may be written as a carriage return and a line feed. -/
def joinLineEnds : List Char → List Char
  | '\r' :: '\n' :: rest => '\n' :: joinLineEnds rest
  | c :: rest => c :: joinLineEnds rest
  | [] => []

/-- The table that a document describes. -/
def read (document : List Char) : Except Fault Table :=
  let s := joinLineEnds document
  (statements (4 * s.length + 8) {} s).map (·.root)

end TypingPolicy.Toml
