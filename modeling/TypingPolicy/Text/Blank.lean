import TypingPolicy.Text

/-!
# Blank space

Which characters are blank, and the words that blank space sets apart.
-/

namespace TypingPolicy.Text

/-- Spaces of any width, tabs, line ends and the separators among the controls. -/
def blankRanges : List (Nat × Nat) := [
  (0x09, 0x0D), (0x1C, 0x20), (0x85, 0x85), (0xA0, 0xA0), (0x1680, 0x1680), (0x2000, 0x200A),
  (0x2028, 0x2029), (0x202F, 0x202F), (0x205F, 0x205F), (0x3000, 0x3000)]

def isBlank (c : Char) : Bool := within blankRanges c

/-- A text without the blank space around it. -/
def trim (s : List Char) : List Char :=
  ((s.dropWhile isBlank).reverse.dropWhile isBlank).reverse

/-- The words between blank space. -/
def words (s : List Char) : List (List Char) :=
  (s.foldr (fun c words =>
    if isBlank c then [] :: words
    else match words with
      | word :: rest => (c :: word) :: rest
      | [] => [[c]]) [[]]).filter (· ≠ [])

end TypingPolicy.Text
