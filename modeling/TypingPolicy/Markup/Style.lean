import TypingPolicy.Markup.Colour
import TypingPolicy.Text.Blank
import TypingPolicy.Text.Lower

/-!
# Style names

Markup tags name styles, and a style may be spelt in several ways: words in any order, short forms of
attributes.  `Style.normal?` gives all spellings of one style the same name, so that a closing tag can be
matched with the tag that it closes.  A name that is no style stays itself, in lower case.  Only a colour
with something in it that is no number has no name at all.
-/

namespace TypingPolicy

/-- Why words make no style. -/
inductive StyleFault where
  | unknownWord
  /-- A colour with something in it that is no number. -/
  | noNumber
  deriving DecidableEq, Repr, Inhabited

namespace Style

/-! ## 1. Reading -/

/-- The attributes in the order in which they are named, each with its short forms. -/
def attributes : List (String × List String) := [
  ("bold", ["b"]), ("dim", ["d"]), ("italic", ["i"]), ("underline", ["u"]), ("blink", []),
  ("blink2", []), ("reverse", ["r"]), ("conceal", ["c"]), ("strike", ["s"]), ("underline2", ["uu"]),
  ("frame", []), ("encircle", []), ("overline", ["o"])]

def attribute? (word : String) : Option String :=
  (attributes.find? fun (name, short) => name = word || word ∈ short).map (·.1)

/-- A style in the making. -/
structure Parts where
  attributes : List (String × Bool) := []
  colour : Option String := none
  background : Option String := none
  link : Option String := none

/-- The word of a colour, in lower case. -/
def readColour (word : String) : Except StyleFault String :=
  match Colour.read word with
  | .colour => .ok word
  | .noColour => .error .unknownWord
  | .noNumber => .error .noNumber

/-- Reads the words of a style; a later word replaces an earlier one on the same matter. -/
def readWords : Parts → List String → Except StyleFault Parts
  | p, [] => .ok p
  | p, written :: rest =>
    let word := Text.lower written
    if word = "on" then match rest with
      | ground :: rest => match readColour (Text.lower ground) with
        | .ok colour => readWords { p with background := colour } rest
        | .error e => .error e
      | [] => .error .unknownWord
    else if word = "not" then match rest with
      | name :: rest => match attribute? name with
        | some a => readWords { p with attributes := (a, false) :: p.attributes } rest
        | none => .error .unknownWord
      | [] => .error .unknownWord
    else if word = "link" then match rest with
      | address :: rest => readWords { p with link := address } rest
      | [] => .error .unknownWord
    else match attribute? word with
      | some a => readWords { p with attributes := (a, true) :: p.attributes } rest
      | none => match readColour word with
        | .ok colour => readWords { p with colour } rest
        | .error e => .error e

/-- Reads a style.  Nothing at all, and the word `none`, are the style that changes nothing. -/
def read (s : List Char) : Except StyleFault Parts :=
  let words := (Text.words s).map String.ofList
  if words = ["none"] then .ok {} else readWords {} words

/-! ## 2. Naming -/

/-- The words of a style in their fixed order. -/
def Parts.words (p : Parts) : List String :=
  (Style.attributes.filterMap fun (name, _) =>
      (p.attributes.lookup name).map fun on => if on then name else "not " ++ name)
    ++ p.colour.toList
    ++ (p.background.map ("on " ++ ·)).toList
    ++ (p.link.map ("link " ++ ·)).toList

def Parts.name (p : Parts) : String :=
  if p.words = [] then "none" else " ".intercalate p.words

/-- One name for all spellings of a style. -/
def normal? (name : List Char) : Option String :=
  match read name with
  | .ok p => some p.name
  | .error .unknownWord => some (Text.lower (String.ofList (Text.trim name)))
  | .error .noNumber => none

/-- Can text be shown in the style?  A style that is unknown does no harm. -/
def isPaintable (style : String) : Bool :=
  match read style.toList with
  | .error .noNumber => false
  | _ => true

end Style

end TypingPolicy
