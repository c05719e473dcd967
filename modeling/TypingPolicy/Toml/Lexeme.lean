import TypingPolicy.Value

/-!
# The words of a TOML document

Strings, numbers, dates and bare keys, each read from the front of a list of characters.  A reader
returns what it read and the characters that follow.  `Toml.Fault` keeps apart the three ways in which
reading may fail: the document is malformed, it holds a decimal integer with too many digits, or its
values stand in one another too deeply.
-/

namespace TypingPolicy.Toml

inductive Fault where
  | malformed
  | oversizedInteger
  /-- Values stand in one another more deeply than can be read. -/
  | tooDeep
  deriving DecidableEq, Repr, Inhabited

/-! ## 1. Characters -/

def isBlank (c : Char) : Bool := c = ' ' || c = '\t'

def isControl (c : Char) : Bool := c.toNat < 32 || c.toNat = 127

/-- Control characters other than the tab stand neither in comments nor in strings of one line. -/
def isIllegal (c : Char) : Bool := isControl c && c ≠ '\t'

def isBareKey (c : Char) : Bool := c.isAlphanum || c = '-' || c = '_'

def isHex (c : Char) : Bool :=
  c.isDigit || ('a' ≤ c && c ≤ 'f') || ('A' ≤ c && c ≤ 'F')

def isOctal (c : Char) : Bool := '0' ≤ c && c ≤ '7'

def isBinary (c : Char) : Bool := c = '0' || c = '1'

def digitValue (c : Char) : Nat :=
  if c.isDigit then c.toNat - 48 else if c.isLower then c.toNat - 87 else c.toNat - 55

/-- The number that digits spell in a base. -/
def numeral (base : Nat) (digits : List Char) : Nat :=
  digits.foldl (fun n c => n * base + digitValue c) 0

def skipBlanks (s : List Char) : List Char := s.dropWhile isBlank

/-! ## 2. Comments -/

/-- Skips a comment, up to the end of the line. -/
def skipComment (s : List Char) : Except Fault (List Char) :=
  match s with
  | '#' :: rest =>
    if (rest.takeWhile (· ≠ '\n')).any isIllegal then .error .malformed
    else .ok (rest.dropWhile (· ≠ '\n'))
  | _ => .ok s

/-- Skips blanks, line ends and comments; `inComment` says that a comment has begun. -/
def skipTrivia (inComment : Bool) : List Char → Except Fault (List Char)
  | [] => .ok []
  | c :: rest =>
    if inComment then
      if c = '\n' then skipTrivia false rest
      else if isIllegal c then .error .malformed
      else skipTrivia true rest
    else if isBlank c || c = '\n' then skipTrivia false rest
    else if c = '#' then skipTrivia true rest
    else .ok (c :: rest)

/-! ## 3. Strings -/

/-- The character with the code that hexadecimal digits spell. -/
def escaped? (digits : List Char) : Option Char :=
  let code := numeral 16 digits
  if digits.all isHex && decide code.isValidChar then some (Char.ofNat code) else none

/-- The character that a letter after a backslash stands for. -/
def shortEscape? : Char → Option Char
  | 'b' => some '\x08'
  | 't' => some '\t'
  | 'n' => some '\n'
  | 'f' => some '\x0c'
  | 'r' => some '\r'
  | '"' => some '"'
  | '\\' => some '\\'
  | _ => none

/-- What follows a backslash at the end of a line: the line end and all blank space after it are
skipped.  Only blanks may stand between the backslash and the line end. -/
def afterLineEnd? (s : List Char) : Option (List Char) :=
  match skipBlanks s with
  | '\n' :: rest => some (rest.dropWhile fun c => isBlank c || c = '\n')
  | _ => none

theorem length_afterLineEnd? {s rest : List Char} (h : afterLineEnd? s = some rest) :
    rest.length < s.length := by
  unfold afterLineEnd? at h
  split at h
  next more hs =>
    have h₁ : more.length < s.length := by
      have := (List.dropWhile_suffix isBlank (l := s)).length_le
      rw [show s.dropWhile isBlank = '\n' :: more from hs, List.length_cons] at this
      omega
    have h₂ := (List.dropWhile_suffix (fun c => isBlank c || c = '\n') (l := more)).length_le
    obtain rfl := Option.some.inj h
    omega
  next => simp at h

/-- Reads the inside of a quoted string up to its end.  `text` is what was read so far, backwards. -/
def quoted (multiline : Bool) (text : List Char) (s : List Char) : Except Fault (List Char × List Char) :=
  match s with
  | [] => .error .malformed
  | '"' :: rest =>
    if !multiline then .ok (text.reverse, rest)
    else if rest.take 2 = ['"', '"'] then .ok (text.reverse, rest.drop 2)
    else quoted multiline ('"' :: text) rest
  | '\\' :: 'u' :: a :: b :: c :: d :: rest =>
    match escaped? [a, b, c, d] with
    | some x => quoted multiline (x :: text) rest
    | none => .error .malformed
  | '\\' :: 'U' :: a :: b :: c :: d :: e :: f :: g :: h :: rest =>
    match escaped? [a, b, c, d, e, f, g, h] with
    | some x => quoted multiline (x :: text) rest
    | none => .error .malformed
  | '\\' :: c :: rest =>
    match shortEscape? c with
    | some x => quoted multiline (x :: text) rest
    | none =>
      match multiline, _h : afterLineEnd? (c :: rest) with
      | true, some more => quoted multiline text more
      | _, _ => .error .malformed
  | c :: rest =>
    if c = '\\' || isIllegal c && !(multiline && c = '\n') then .error .malformed
    else quoted multiline (c :: text) rest
termination_by s.length
decreasing_by
  all_goals try (simp only [List.length_cons]; omega)
  have := length_afterLineEnd? _h
  simp only [List.length_cons] at this ⊢
  omega

/-- Reads a string in single quotes, which holds no escapes, up to the closing quote. -/
def literal (s : List Char) : Except Fault (List Char × List Char) :=
  let text := s.takeWhile (· ≠ '\'')
  match s.dropWhile (· ≠ '\'') with
  | _ :: rest => if text.any isIllegal then .error .malformed else .ok (text, rest)
  | [] => .error .malformed

/-- Reads a literal string over several lines, up to three closing quotes.  `text` is what was read so
far, backwards. -/
def literalLines (text : List Char) : List Char → Except Fault (List Char × List Char)
  | '\'' :: '\'' :: '\'' :: rest => .ok (text.reverse, rest)
  | c :: rest =>
    if isIllegal c && c ≠ '\n' then .error .malformed else literalLines (c :: text) rest
  | [] => .error .malformed

/-- One or two more quotes right behind the closing ones belong to the text. -/
def moreQuotes (quote : Char) : List Char × List Char → List Char × List Char
  | (text, a :: b :: rest) =>
    if a = quote then
      if b = quote then (text ++ [a, b], rest) else (text ++ [a], b :: rest)
    else (text, a :: b :: rest)
  | (text, [a]) => if a = quote then (text ++ [a], []) else (text, [a])
  | (text, []) => (text, [])

/-- A line end right behind the opening quotes does not count. -/
def skipFirstLineEnd : List Char → List Char
  | '\n' :: rest => rest
  | s => s

/-- Reads a string in double or single quotes, from its first quote on. -/
def string : List Char → Except Fault (String × List Char)
  | '"' :: '"' :: '"' :: rest => do
    let (text, rest) := moreQuotes '"' (← quoted true [] (skipFirstLineEnd rest))
    return (String.ofList text, rest)
  | '\'' :: '\'' :: '\'' :: rest => do
    let (text, rest) := moreQuotes '\'' (← literalLines [] (skipFirstLineEnd rest))
    return (String.ofList text, rest)
  | '"' :: rest => do
    let (text, rest) ← quoted false [] rest
    return (String.ofList text, rest)
  | '\'' :: rest => do
    let (text, rest) ← literal rest
    return (String.ofList text, rest)
  | _ => .error .malformed

/-! ## 4. Keys -/

/-- Reads one part of a key: bare, or a string of one line. -/
def keyPart (s : List Char) : Except Fault (String × List Char) :=
  match s with
  | '"' :: rest => do
    let (text, rest) ← quoted false [] rest
    return (String.ofList text, rest)
  | '\'' :: rest => do
    let (text, rest) ← literal rest
    return (String.ofList text, rest)
  | _ =>
    match s.takeWhile isBareKey with
    | [] => .error .malformed
    | text => .ok (String.ofList text, s.dropWhile isBareKey)

/-- Reads a key of one or more parts with points between them, and the blanks behind it.  A text of
`n` characters has no more than `n` parts. -/
def keyParts : Nat → List Char → Except Fault (List String × List Char)
  | 0, _ => .error .malformed
  | fuel + 1, s => do
    let (part, rest) ← keyPart s
    match skipBlanks rest with
    | '.' :: rest =>
      let (parts, rest) ← keyParts fuel (skipBlanks rest)
      return (part :: parts, rest)
    | rest => return ([part], rest)

def key (s : List Char) : Except Fault (List String × List Char) := keyParts (s.length + 1) s

/-! ## 5. Numbers -/

/-- Digits, with single underscores allowed between them; the underscores are dropped. -/
def digitRun (isDigit : Char → Bool) : List Char → List Char × List Char
  | '_' :: c :: rest =>
    if isDigit c then
      let (digits, rest) := digitRun isDigit rest
      (c :: digits, rest)
    else ([], '_' :: c :: rest)
  | c :: rest =>
    if isDigit c then
      let (digits, rest) := digitRun isDigit rest
      (c :: digits, rest)
    else ([], c :: rest)
  | [] => ([], [])

/-- A run of digits that starts with one. -/
def digitRun? (isDigit : Char → Bool) : List Char → Option (List Char × List Char)
  | c :: rest => if isDigit c then some (digitRun isDigit (c :: rest)) else none
  | [] => none

def sign : List Char → Bool × List Char
  | '-' :: rest => (true, rest)
  | '+' :: rest => (false, rest)
  | s => (false, s)

/-- The digits after a point. -/
def fraction? : List Char → Option (List Char × List Char)
  | '.' :: rest => digitRun? Char.isDigit rest
  | _ => none

/-- The power of ten after `e` or `E`. -/
def exponent? : List Char → Option (Int × List Char)
  | c :: rest =>
    if c = 'e' || c = 'E' then
      let (negative, rest) := sign rest
      (digitRun? Char.isDigit rest).map fun (digits, rest) =>
        let n := numeral 10 digits
        (if negative then -n else n, rest)
    else none
  | [] => none

/-- The most digits of a decimal integer. -/
def integerLimit : Nat := 4300

/-- The part of a decimal number before the point. -/
def whole? : List Char → Option (List Char × List Char)
  | '0' :: rest => some (['0'], rest)
  | s => digitRun? Char.isDigit s

/-- A decimal number: an integer, unless a fraction or an exponent follows. -/
def decimal? (s : List Char) : Option (Except Fault (Value × List Char)) :=
  let (negative, rest) := sign s
  (whole? rest).map fun (digits, rest) =>
    let (places, rest', isInteger) := match fraction? rest with
      | some (places, rest) => (places, rest, false)
      | none => ([], rest, true)
    let (power, rest', isInteger) := match exponent? rest' with
      | some (power, rest) => (power, rest, false)
      | none => (0, rest', isInteger)
    if isInteger then
      if integerLimit < digits.length then .error .oversizedInteger
      else
        let n : Int := numeral 10 digits
        .ok (.int (if negative then -n else n), rest')
    else
      let x := Binary64.ofDecimal negative (numeral 10 (digits ++ places)) (power - places.length)
      .ok (.float x, rest')

/-- An integer in base 2, 8 or 16; these may have any number of digits. -/
def based? : List Char → Option (Value × List Char)
  | '0' :: 'x' :: rest => read 16 isHex rest
  | '0' :: 'o' :: rest => read 8 isOctal rest
  | '0' :: 'b' :: rest => read 2 isBinary rest
  | _ => none
where
  read (base : Nat) (isDigit : Char → Bool) (s : List Char) : Option (Value × List Char) :=
    (digitRun? isDigit s).map fun (digits, rest) => (.int (numeral base digits), rest)

/-- The numbers that have no digits. -/
def special? (s : List Char) : Option (Value × List Char) :=
  let (negative, rest) := sign s
  match rest with
  | 'i' :: 'n' :: 'f' :: rest => some (.float (.infinite negative), rest)
  | 'n' :: 'a' :: 'n' :: rest => some (.float .nan, rest)
  | _ => none

/-! ## 6. Dates and times -/

/-- A number of exactly `n` digits within bounds. -/
def fixedDigits? (n low high : Nat) (s : List Char) : Option (Nat × List Char) :=
  let digits := s.take n
  if digits.length = n && digits.all Char.isDigit then
    let x := numeral 10 digits
    if low ≤ x && x ≤ high then some (x, s.drop n) else none
  else none

def expect? (c : Char) : List Char → Option (List Char)
  | d :: rest => if d = c then some rest else none
  | [] => none

/-- The fraction of a second in millionths; further digits are dropped. -/
def micros (s : List Char) : Nat × List Char :=
  match s with
  | '.' :: rest =>
    match rest.takeWhile Char.isDigit with
    | [] => (0, s)
    | digits =>
      let six := digits.take 6
      (numeral 10 (six ++ List.replicate (6 - six.length) '0'), rest.dropWhile Char.isDigit)
  | _ => (0, s)

def clock? (s : List Char) : Option (Clock × List Char) := do
  let (hour, s) ← fixedDigits? 2 0 23 s
  let (minute, s) ← fixedDigits? 2 0 59 (← expect? ':' s)
  let (second, s) ← fixedDigits? 2 0 59 (← expect? ':' s)
  let (micros, s) := micros s
  return (⟨hour, minute, second, micros⟩, s)

def day? (s : List Char) : Option (Day × List Char) := do
  let (year, s) ← fixedDigits? 4 0 9999 s
  let (month, s) ← fixedDigits? 2 1 12 (← expect? '-' s)
  let (day, s) ← fixedDigits? 2 1 31 (← expect? '-' s)
  return (⟨year, month, day⟩, s)

/-- An offset in hours and minutes. -/
def offsetAmount? (s : List Char) : Option (Nat × List Char) := do
  let (hours, s) ← fixedDigits? 2 0 23 s
  let (minutes, s) ← fixedDigits? 2 0 59 (← expect? ':' s)
  return (hours * 60 + minutes, s)

/-- The offset from universal time, if one follows. -/
def offset (s : List Char) : Option Int × List Char :=
  match s with
  | 'Z' :: rest | 'z' :: rest => (some 0, rest)
  | '+' :: rest => match offsetAmount? rest with
    | some (n, rest) => (some n, rest)
    | none => (none, s)
  | '-' :: rest => match offsetAmount? rest with
    | some (n, rest) => (some (-n), rest)
    | none => (none, s)
  | _ => (none, s)

/-- The time of day that follows a date, behind `T` or a space. -/
def clockAfter? : List Char → Option (Clock × List Char)
  | c :: rest => if c = 'T' || c = 't' || c = ' ' then clock? rest else none
  | [] => none

/-- A date, alone or with a time of day and an offset.  A date that is not in the calendar is
malformed. -/
def date? (s : List Char) : Option (Except Fault (Value × List Char)) :=
  (day? s).map fun (d, rest) =>
    if !d.exists? then .error .malformed
    else match clockAfter? rest with
      | some (c, rest) =>
        let (o, rest) := offset rest
        .ok (.moment (.both d c o), rest)
      | none => .ok (.moment (.day d), rest)

/-- Numbers, dates and times: what a date can be is a date, what a number can be is a number. -/
def scalar (s : List Char) : Except Fault (Value × List Char) :=
  match date? s with
  | some r => r
  | none =>
    match clock? s with
    | some (c, rest) => .ok (.moment (.clock c), rest)
    | none =>
      match based? s with
      | some r => .ok r
      | none =>
        match decimal? s with
        | some r => r
        | none => (special? s).elim (.error .malformed) .ok

end TypingPolicy.Toml
