import TypingPolicy.Binary64.Basic
import TypingPolicy.Moment

/-!
# Dynamic values

Configuration comes from outside and may be anything: `Value` is what a configuration file or a host
can hand over.  Two views of a value are needed elsewhere: equality, where a number is its amount
whatever its type (`Value.same`), and the reading of a value as a table (`Value.toTable?`), which
also takes a sequence of pairs.
-/

namespace TypingPolicy

inductive Value where
  | null
  | bool (b : Bool)
  | int (n : Int)
  | float (x : Binary64)
  | text (s : String)
  | list (items : List Value)
  | table (entries : List (String × Value))
  | moment (m : Moment)
  deriving Repr, Inhabited

/-- Entries in the order written.  A key stands for its first entry. -/
abbrev Table := List (String × Value)

namespace Table

def get? (t : Table) (key : String) : Option Value := t.lookup key

/-- Of several pairs with one key the last one counts. -/
def ofPairs (pairs : List (String × Value)) : Table := pairs.reverse

/-- Replaces the value of a key that is there. -/
def replace (t : Table) (key : String) (v : Value) : Table :=
  t.map fun entry => if entry.1 = key then (key, v) else entry

end Table

namespace Value

/-! ## 1. Equality -/

/-- Truth values count as the integers zero and one. -/
def toInt? : Value → Option Int
  | .bool b => some (if b then 1 else 0)
  | .int n => some n
  | _ => none

/-- Equality of two values of which at least one is not a list or a table. -/
def sameAtom : Value → Value → Bool
  | .null, .null => true
  | .text s, .text t => s = t
  | .moment m, .moment n => m = n
  | .float x, .float y => x.same y
  | .float x, v | v, .float x => x.toInt?.isSome && x.toInt? = v.toInt?
  | v, w => v.toInt?.isSome && v.toInt? = w.toInt?

mutual

/-- Equality by content: numbers by amount, lists by position, tables by key. -/
def same : Value → Value → Bool
  | .list xs, .list ys => sameItems xs ys
  | .table s, .table t => s.length == t.length && sameEntries s t
  | v, w => sameAtom v w

def sameItems : List Value → List Value → Bool
  | [], [] => true
  | x :: xs, y :: ys => same x y && sameItems xs ys
  | _, _ => false

/-- Every entry has an equal one in the table `t`. -/
def sameEntries : List (String × Value) → Table → Bool
  | [], _ => true
  | e :: rest, t => sameEntry e t && sameEntries rest t

def sameEntry : String × Value → Table → Bool
  | (key, v), t => match t.get? key with
    | some w => same v w
    | none => false

end

/-! ## 2. Tables from values -/

/-- Only plain values can be keys. -/
def isKey : Value → Bool
  | .list _ | .table _ => false
  | _ => true

/-- A pair is a list of two items of which the first can be a key, a text of two characters, or a
table with two keys, which stand for themselves in the order written. -/
def toPair? : Value → Option (Value × Value)
  | .list [key, v] => if key.isKey then some (key, v) else none
  | .table [(a, _), (b, _)] => if a = b then none else some (.text a, .text b)
  | .text s => match s.toList with
    | [a, b] => some (.text (String.singleton a), .text (String.singleton b))
    | _ => none
  | _ => none

/-- The entry that a pair makes, if its key is a text. -/
def toEntry? : Value × Value → Option (String × Value)
  | (.text key, v) => some (key, v)
  | _ => none

/-- A value read as a table: a table is itself, a list must consist of pairs throughout, and the
empty text is the empty table. -/
def toTable? : Value → Option Table
  | .table entries => some entries
  | .list items => (items.mapM toPair?).map fun pairs => Table.ofPairs (pairs.filterMap toEntry?)
  | .text s => if s = "" then some [] else none
  | _ => none

end Value

end TypingPolicy
