import TypingPolicy.Markup.Action
import TypingPolicy.Markup.Style

/-!
# Markup

Text with tags in square brackets.  `scan` cuts a text into plain characters, plain brackets and tags,
each bracket with the backslashes in front of it; writing and reading markup both rest on it.  `escape`
writes a text so that it is shown as it is.  `read` gives the text that markup stands for, with its
styles; `render` is the text alone.
-/

namespace TypingPolicy.Markup

/-! ## 1. Pieces -/

/-- A piece of a text. -/
inductive Piece where
  | plain (c : Char)
  /-- An opening bracket that begins no tag, behind so many backslashes. -/
  | bracket (slashes : Nat)
  /-- A bracketed tag, behind so many backslashes. -/
  | tag (slashes : Nat) (body : List Char)
  deriving DecidableEq, Repr, Inhabited

/-- A tag begins with a small letter or with one of three signs. -/
def startsTag (c : Char) : Bool := ('a' ≤ c && c ≤ 'z') || c = '#' || c = '/' || c = '@'

/-- The characters up to the closing bracket and those after it, if no opening bracket comes first. -/
def tagRest? : List Char → Option (List Char × List Char)
  | [] => none
  | ']' :: rest => some ([], rest)
  | '[' :: _ => none
  | c :: rest => (tagRest? rest).map fun (body, after) => (c :: body, after)

/-- The body of the tag that begins here, and what follows it. -/
def tag? : List Char → Option (List Char × List Char)
  | [] => none
  | c :: rest =>
    if startsTag c then (tagRest? rest).map fun (body, after) => (c :: body, after) else none

theorem length_tagRest? {s body after : List Char} (h : tagRest? s = some (body, after)) :
    after.length < s.length := by
  induction s generalizing body with
  | nil => simp [tagRest?] at h
  | cons c rest ih =>
    unfold tagRest? at h
    split at h
    · simp at h
    · simp_all
    · simp at h
    next a t _ _ heq =>
      obtain ⟨⟨b, r⟩, hr, hb⟩ := Option.map_eq_some_iff.1 h
      simp only [Prod.mk.injEq] at hb
      obtain ⟨-, rfl⟩ := hb
      simp only [List.cons.injEq] at heq
      obtain ⟨-, rfl⟩ := heq
      have := ih hr
      simp only [List.length_cons]
      omega

theorem length_tag? {s body after : List Char} (h : tag? s = some (body, after)) :
    after.length < s.length := by
  cases s with
  | nil => simp [tag?] at h
  | cons c rest =>
    simp only [tag?] at h
    split at h
    · obtain ⟨⟨b, r⟩, hr, hb⟩ := Option.map_eq_some_iff.1 h
      simp only [Prod.mk.injEq] at hb
      obtain ⟨-, rfl⟩ := hb
      have := length_tagRest? hr
      simp only [List.length_cons]
      omega
    · simp at h

def plainSlashes (n : Nat) : List Piece := List.replicate n (.plain '\\')

/-- Cuts a text into pieces; `slashes` backslashes have just been read. -/
def scan (slashes : Nat) (s : List Char) : List Piece :=
  match s with
  | [] => plainSlashes slashes
  | '\\' :: rest => scan (slashes + 1) rest
  | '[' :: rest =>
    match _h : tag? rest with
    | some (body, after) => .tag slashes body :: scan 0 after
    | none => .bracket slashes :: scan 0 rest
  | c :: rest => plainSlashes slashes ++ .plain c :: scan 0 rest
termination_by s.length
decreasing_by
  all_goals try (simp only [List.length_cons]; omega)
  have := length_tag? _h
  simp only [List.length_cons]
  omega

def pieces (s : List Char) : List Piece := scan 0 s

def slashes (n : Nat) : List Char := List.replicate n '\\'

def bracketed (body : List Char) : List Char := '[' :: body ++ [']']

/-! ## 2. Writing -/

/-- In front of a tag backslashes are doubled and one is added, so that the tag is taken literally. -/
def Piece.escape : Piece → List Char
  | .plain c => [c]
  | .bracket n => slashes n ++ ['[']
  | .tag n body => slashes (2 * n + 1) ++ bracketed body

/-- A single backslash at the end would act on what is written next. -/
def closeEnd (s : List Char) : List Char :=
  match s.reverse with
  | '\\' :: '\\' :: _ => s
  | '\\' :: _ => s ++ ['\\']
  | _ => s

/-- A text written so that it is shown as it is. -/
def escape (s : String) : String :=
  String.ofList (closeEnd ((pieces s.toList).flatMap Piece.escape))

/-! ## 3. Reading -/

/-- What can be wrong with markup. -/
inductive Fault where
  /-- A closing tag closes nothing. -/
  | nothingToClose
  /-- The arguments of an action are no values. -/
  | badArgument
  /-- The name of a tag has something in it that should be a number and is none. -/
  | noNumber
  deriving DecidableEq, Repr, Inhabited

/-- A tag that has not been closed. -/
structure OpenTag where
  /-- Where its text begins. -/
  start : Nat
  name : String
  /-- What stands behind the equals sign. -/
  argument : Option String
  deriving DecidableEq, Repr, Inhabited

namespace OpenTag

def isAction (t : OpenTag) : Bool := t.name.toList.head? = some '@'

/-- The style of the text in the tag. -/
def style (t : OpenTag) : String :=
  match t.argument with
  | some argument => t.name ++ " " ++ argument
  | none => t.name

end OpenTag

/-- A stretch of text in one style, from `start` up to `stop`. -/
structure Span where
  start : Nat
  stop : Nat
  style : String
  deriving DecidableEq, Repr, Inhabited

/-- A text with its styles, as far as it has been read. -/
structure Sheet where
  text : List Char := []
  /-- The open tags, the last one first. -/
  opened : List OpenTag := []
  spans : List Span := []
  deriving DecidableEq, Repr, Inhabited

namespace Sheet

def add (more : List Char) (s : Sheet) : Sheet := { s with text := s.text ++ more }

/-- The stretch from a tag to the end of the text. -/
def spanOf (s : Sheet) (t : OpenTag) : Span := ⟨t.start, s.text.length, t.style⟩

/-- Closes one of the open tags.  Actions have no style; their arguments are looked at only here. -/
def close (t : OpenTag) (s : Sheet) : Except Fault Sheet :=
  let s := { s with opened := s.opened.erase t }
  if !t.isAction then .ok { s with spans := s.spans ++ [s.spanOf t] }
  else if Action.accepts (t.argument.getD "") then .ok s
  else .error .badArgument

/-- The tag that a name closes: the last open one of the name, or the last one at all if there is no
name. -/
def closedBy (name : List Char) (s : Sheet) : Except Fault OpenTag :=
  if name = [] then
    match s.opened with
    | t :: _ => .ok t
    | [] => .error .nothingToClose
  else match Style.normal? name with
    | none => .error .noNumber
    | some style => match s.opened.find? (·.name = style) with
      | some t => .ok t
      | none => .error .nothingToClose

/-- Opens or closes a tag. -/
def tag (body : List Char) (s : Sheet) : Except Fault Sheet :=
  let name := body.takeWhile (· ≠ '=')
  match name with
  | '/' :: closing => (s.closedBy (Text.trim closing)).bind fun t => s.close t
  | _ => match Style.normal? name with
    | none => .error .noNumber
    | some style =>
      let argument := if '=' ∈ body then some (String.ofList (body.drop (name.length + 1))) else none
      .ok { s with opened := ⟨s.text.length, style, argument⟩ :: s.opened }

/-- Half of the backslashes in front of a tag are shown; an odd one makes the tag literal.  One backslash
in front of a plain bracket is dropped. -/
def piece (s : Sheet) : Piece → Except Fault Sheet
  | .plain c => .ok (s.add [c])
  | .bracket n => .ok (s.add (slashes (n - 1) ++ ['[']))
  | .tag n body =>
    if n % 2 = 1 then .ok (s.add (slashes (n / 2) ++ bracketed body))
    else (s.add (slashes (n / 2))).tag body

/-- Adds what pieces show. -/
def pieces (s : Sheet) : List Piece → Except Fault Sheet
  | [] => .ok s
  | p :: rest => (s.piece p).bind fun s => s.pieces rest

/-- At the end of the text all open tags end too. -/
def finish (s : Sheet) : Sheet :=
  { s with opened := [], spans := s.spans ++ s.opened.map s.spanOf }

/-- Is the style of the stretch asked for?  A text of several lines is shown line by line, and then a
stretch with no character on any line is passed over. -/
def isSeen (s : Sheet) (span : Span) : Bool :=
  !s.text.contains '\n' || ((s.text.take span.stop).drop span.start).any (· ≠ '\n')

/-- Can the text be shown in its styles? -/
def isPaintable (s : Sheet) : Bool :=
  s.spans.all fun span => !s.isSeen span || Style.isPaintable span.style

end Sheet

/-- Reads markup. -/
def read (s : String) : Except Fault Sheet :=
  (({} : Sheet).pieces (pieces s.toList)).map Sheet.finish

/-- The text that markup shows. -/
def render (s : String) : Except Fault String :=
  (read s).map fun sheet => String.ofList sheet.text

end TypingPolicy.Markup
