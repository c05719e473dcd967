import TypingPolicy.Text.Digit

/-!
# Colours

A colour is written by name, as six hexadecimal digits, by its number, or by its three components.
Nearly every text that is no colour is simply none.  But three components with nothing, or far too much,
in the place of a number are a fault of its own, because they have the form of a colour.
-/

namespace TypingPolicy

/-- What a word is when a colour is looked for. -/
inductive ColourReading where
  | colour
  | noColour
  /-- The form of a colour with something that is no number in it. -/
  | noNumber
  deriving DecidableEq, Repr, Inhabited

namespace Colour

/-! ## 1. Names -/

def colourNames : List String := [
  "default", "black", "red", "green", "yellow", "blue", "magenta", "cyan", "white",
  "bright_black", "bright_red", "bright_green", "bright_yellow", "bright_blue", "bright_magenta",
  "bright_cyan", "bright_white", "navy_blue", "dark_blue", "blue3", "blue1", "dark_green",
  "deep_sky_blue4", "dodger_blue3", "dodger_blue2", "green4", "spring_green4", "turquoise4",
  "deep_sky_blue3", "dodger_blue1", "dark_cyan", "light_sea_green", "deep_sky_blue2",
  "deep_sky_blue1", "green3", "spring_green3", "cyan3", "dark_turquoise", "turquoise2", "green1",
  "spring_green2", "spring_green1", "medium_spring_green", "cyan2", "cyan1", "purple4", "purple3",
  "blue_violet", "medium_purple4", "slate_blue3", "royal_blue1", "chartreuse4", "pale_turquoise4",
  "steel_blue", "steel_blue3", "cornflower_blue", "dark_sea_green4", "cadet_blue", "sky_blue3",
  "chartreuse3", "sea_green3", "aquamarine3", "medium_turquoise", "steel_blue1", "sea_green2",
  "sea_green1", "dark_slate_gray2", "dark_red", "dark_magenta", "orange4", "light_pink4", "plum4",
  "medium_purple3", "slate_blue1", "wheat4", "light_slate_grey", "light_slate_gray",
  "medium_purple", "light_slate_blue", "yellow4", "dark_sea_green", "light_sky_blue3", "sky_blue2",
  "chartreuse2", "pale_green3", "dark_slate_gray3", "sky_blue1", "chartreuse1", "light_green",
  "aquamarine1", "dark_slate_gray1", "deep_pink4", "medium_violet_red", "dark_violet", "purple",
  "medium_orchid3", "medium_orchid", "dark_goldenrod", "rosy_brown", "medium_purple2",
  "medium_purple1", "dark_khaki", "navajo_white3", "light_steel_blue3", "light_steel_blue",
  "dark_olive_green3", "dark_sea_green3", "light_cyan3", "light_sky_blue1", "green_yellow",
  "dark_olive_green2", "pale_green1", "dark_sea_green2", "pale_turquoise1", "red3", "deep_pink3",
  "magenta3", "dark_orange3", "indian_red", "hot_pink3", "hot_pink2", "orchid", "orange3",
  "light_salmon3", "light_pink3", "pink3", "plum3", "violet", "gold3", "light_goldenrod3", "tan",
  "misty_rose3", "thistle3", "plum2", "yellow3", "khaki3", "light_yellow3", "light_steel_blue1",
  "yellow2", "dark_olive_green1", "dark_sea_green1", "honeydew2", "light_cyan1", "red1",
  "deep_pink2", "deep_pink1", "magenta2", "magenta1", "orange_red1", "indian_red1", "hot_pink",
  "medium_orchid1", "dark_orange", "salmon1", "light_coral", "pale_violet_red1", "orchid2",
  "orchid1", "orange1", "sandy_brown", "light_salmon1", "light_pink1", "pink1", "plum1", "gold1",
  "light_goldenrod2", "light_goldenrod1", "navajo_white1", "misty_rose1", "thistle1", "yellow1",
  "khaki1", "wheat1", "cornsilk1"]

/-- The shades of grey, in hundredths of white. -/
def greys : List Nat := [0, 3, 7, 11, 15, 19, 23, 27, 30, 35, 37, 39, 42, 46, 50, 53, 54, 58, 62, 63,
  66, 69, 70, 74, 78, 82, 84, 85, 89, 93, 100]

def greyNames : List String :=
  greys.flatMap fun n => ["grey" ++ toString n, "gray" ++ toString n]

/-! ## 2. Numbers -/

def isHexDigit (c : Char) : Bool := c.isDigit || ('a' ≤ c && c ≤ 'f')

/-- What stands between `name(` and `)`. -/
def argument? (name s : List Char) : Option (List Char) :=
  let opened := name ++ ['(']
  if opened.isPrefixOf s && s.getLast? = some ')' then
    some ((s.drop opened.length).dropLast)
  else none

/-- A number of one to three digits that is no more than 255. -/
def isNumber (s : List Char) : Bool :=
  1 ≤ s.length && s.length ≤ 3 && s.all Char.isDigit
    && s.foldl (fun n c => n * 10 + (c.toNat - 48)) 0 ≤ 255

def splitCommas : List Char → List (List Char)
  | [] => [[]]
  | c :: rest =>
    match splitCommas rest with
    | piece :: more => if c = ',' then [] :: piece :: more else (c :: piece) :: more
    | [] => [[c]]

/-- The most digits of a component. -/
def componentLimit : Nat := 4300

/-- The amount of a component, which may be written with the digits of any script. -/
def component? (s : List Char) : Option Nat :=
  if s = [] || componentLimit < s.length then none
  else (s.mapM Text.digit?).map (·.foldl (fun n d => n * 10 + d) 0)

/-- Three components, none of them more than 255. -/
def readComponents (inside : List Char) : ColourReading :=
  if inside = [] || !inside.all (fun c => c = ',' || (Text.digit? c).isSome) then .noColour
  else
    let parts := splitCommas inside
    if parts.length ≠ 3 then .noColour
    else match parts.mapM component? with
      | none => .noNumber
      | some amounts => if amounts.all (· ≤ 255) then .colour else .noColour

/-! ## 3. Colours -/

/-- Reads a colour in lower case. -/
def read (word : String) : ColourReading :=
  let s := word.toList
  if word ∈ colourNames || word ∈ greyNames
      || (s.head? = some '#' && s.length = 7 && (s.drop 1).all isHexDigit)
      || (argument? "color".toList s).any isNumber then .colour
  else match argument? "rgb".toList s with
    | some inside => readComponents inside
    | none => .noColour

end Colour

end TypingPolicy
