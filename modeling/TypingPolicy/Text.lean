/-!
# Text

Names are compared character by character, with no normalisation and no case folding: `occursIn` finds
a fragment anywhere in a name, `begins` at its start.  The other functions put lists of names and lines
into the form in which they are shown.
-/

namespace TypingPolicy.Text

/-- Does the code of a character lie in one of the ranges?  Both ends belong to a range. -/
def within (ranges : List (Nat × Nat)) (c : Char) : Bool :=
  ranges.any fun (first, last) => first ≤ c.toNat && c.toNat ≤ last

/-- Does `fragment` stand somewhere in the characters? -/
def occurs (fragment : List Char) : List Char → Bool
  | [] => fragment.isEmpty
  | c :: rest => fragment.isPrefixOf (c :: rest) || occurs fragment rest

def occursIn (fragment name : String) : Bool := occurs fragment.toList name.toList

def begins (beginning name : String) : Bool := beginning.toList.isPrefixOf name.toList

/-- Lower case, for the letters `A` to `Z` only. -/
def lowerAscii (s : String) : String := String.ofList (s.toList.map Char.toLower)

/-- The names that are not known, each where it occurs first. -/
def newNames (known : List String) : List String → List String
  | [] => []
  | s :: rest => if s ∈ known then newNames known rest else s :: newNames (s :: known) rest

/-- The pieces between the line ends; there is one more of them than there are line ends. -/
def splitLines : List Char → List (List Char)
  | [] => [[]]
  | c :: rest =>
    match splitLines rest with
    | line :: more => if c = '\n' then [] :: line :: more else (c :: line) :: more
    | [] => [[c]]

/-- A line without the spaces at its end. -/
def trimEnd (line : List Char) : List Char :=
  (line.reverse.dropWhile (· = ' ')).reverse

end TypingPolicy.Text
