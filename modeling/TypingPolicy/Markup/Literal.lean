import TypingPolicy.Text

/-!
# Literals

The arguments of an action tag are values written out: numbers, quoted texts, the words `None`, `True`
and `False`, and collections of values in brackets.  Nothing is computed, except that a sign may stand
before a number and that a real and an imaginary number may be added.  `Literal.accepts` decides whether
a text is such a value.

The text is cut into tokens first.  `Shape` is what the rules need to know of a value that has been read:
may it take a sign, may it be added to, may it be a member of a set.
-/

namespace TypingPolicy.Literal

/-! ## 1. Characters -/

def isHex (c : Char) : Bool :=
  c.isDigit || ('a' ≤ c && c ≤ 'f') || ('A' ≤ c && c ≤ 'F')

/-- A character that continues a name; all characters outside ASCII count here. -/
def continuesName (c : Char) : Bool := c.isAlphanum || c = '_' || 128 ≤ c.toNat

def isGap (c : Char) : Bool := c = ' ' || c = '\t' || c = '\x0c'

/-- Every line end is written as a line feed. -/
def plainLineEnds : List Char → List Char
  | '\r' :: '\n' :: rest => '\n' :: plainLineEnds rest
  | '\r' :: rest => '\n' :: plainLineEnds rest
  | c :: rest => c :: plainLineEnds rest
  | [] => []

/-! ## 2. Numbers -/

/-- Digits, in groups with single underscores between them.  An underscore must have a digit behind
it. -/
def digits (isDigit : Char → Bool) : List Char → Option (List Char × List Char)
  | '_' :: c :: rest =>
    if isDigit c then (digits isDigit rest).map fun (ds, rest) => (c :: ds, rest) else none
  | ['_'] => none
  | c :: rest =>
    if isDigit c then (digits isDigit rest).map fun (ds, rest) => (c :: ds, rest)
    else some ([], c :: rest)
  | [] => some ([], [])

/-- Digits of which there is at least one. -/
def someDigits (isDigit : Char → Bool) (s : List Char) : Option (List Char) :=
  match digits isDigit s with
  | some (_ :: _, rest) => some rest
  | _ => none

/-- The digits after a point, of which there may be none; no underscore may come first. -/
def fraction (s : List Char) : Option (List Char) :=
  match s with
  | c :: _ => if c.isDigit then someDigits Char.isDigit s else some s
  | [] => some []

/-- The power of ten, if one follows. -/
def power (s : List Char) : Option (Bool × List Char) :=
  match s with
  | e :: rest =>
    if e = 'e' || e = 'E' then
      let rest := match rest with
        | '+' :: rest | '-' :: rest => rest
        | rest => rest
      match rest with
      | c :: _ => if c.isDigit then (someDigits Char.isDigit rest).map (true, ·) else none
      | [] => none
    else some (false, s)
  | [] => some (false, [])

/-- The mark of an imaginary number, if it follows. -/
def imaginary : List Char → Bool × List Char
  | 'j' :: rest | 'J' :: rest => (true, rest)
  | s => (false, s)

/-- The most digits of a decimal integer. -/
def integerLimit : Nat := 4300

/-- Can the digits stand alone as an integer?  Only zero may begin with a zero, and it may be as long
as it likes. -/
def isInteger (ds : List Char) : Bool :=
  ds.all (· = '0') || ds.length ≤ integerLimit && ds.head? ≠ some '0'

/-- Reads a decimal number: is it imaginary, and what follows? -/
def decimal (s : List Char) : Option (Bool × List Char) := do
  let (whole, rest) ← match s with
    | '.' :: _ => some ([], s)
    | _ => digits Char.isDigit s
  let (isReal, rest) ← match rest with
    | '.' :: rest => (fraction rest).map (true, ·)
    | _ => some (false, rest)
  let (hasPower, rest) ← power rest
  let (isImaginary, rest) := imaginary rest
  if isReal || hasPower || isImaginary || isInteger whole then some (isImaginary, rest) else none

/-- Reads a number from its first digit, or from a point with a digit behind it. -/
def number (s : List Char) : Option (Bool × List Char) := do
  let based (isDigit : Char → Bool) (rest : List Char) : Option (Bool × List Char) :=
    (someDigits isDigit rest).map (false, ·)
  let (isImaginary, rest) ← match s with
    | '0' :: 'x' :: rest | '0' :: 'X' :: rest => based isHex rest
    | '0' :: 'o' :: rest | '0' :: 'O' :: rest => based (fun c => '0' ≤ c && c ≤ '7') rest
    | '0' :: 'b' :: rest | '0' :: 'B' :: rest => based (fun c => c = '0' || c = '1') rest
    | _ => decimal s
  if (rest.head?.any continuesName) then none else some (isImaginary, rest)

/-! ## 3. Quoted texts -/

/-- How a text is quoted. -/
structure Quoting where
  quote : Char
  /-- Three quotes on either side, so that line ends may stand inside. -/
  long : Bool
  /-- Backslashes stand for themselves. -/
  raw : Bool
  /-- A text of bytes, all of them in ASCII. -/
  bytes : Bool
  deriving DecidableEq, Repr, Inhabited

/-- How many hexadecimal digits follow a backslash and this letter. -/
def Quoting.codeWidth (q : Quoting) : Char → Nat
  | 'x' => 2
  | 'u' => if q.bytes then 0 else 4
  | 'U' => if q.bytes then 0 else 8
  | _ => 0

/-- Does a character have the code that the digits spell? -/
def isCode (ds : List Char) : Bool :=
  let value (c : Char) : Nat :=
    if c.isDigit then c.toNat - 48 else if c.isLower then c.toNat - 87 else c.toNat - 55
  ds.all isHex && ds.foldl (fun n c => n * 16 + value c) 0 ≤ 0x10FFFF

/-- Skips the inside of a quoted text and its closing quotes. -/
def skipQuoted (q : Quoting) : Nat → List Char → Option (List Char)
  | 0, _ => none
  | _, [] => none
  | fuel + 1, c :: rest =>
    if c = q.quote then
      if !q.long then some rest
      else if rest.take 2 = [c, c] then some (rest.drop 2)
      else skipQuoted q fuel rest
    else if c = '\n' && !q.long || q.bytes && 128 ≤ c.toNat then none
    else if c = '\\' then
      match rest with
      | [] => none
      | d :: more =>
        if q.bytes && 128 ≤ d.toNat then none
        else if q.raw then skipQuoted q fuel more
        else
          let width := q.codeWidth d
          let code := more.take width
          if code.length < width || !isCode code || d = 'N' && !q.bytes then none
          else skipQuoted q fuel (more.drop width)
    else skipQuoted q fuel rest

/-! ## 4. Tokens -/

inductive Token where
  | number (imaginary : Bool)
  | text (bytes : Bool)
  /-- One of the words and signs that are values by themselves. -/
  | constant
  /-- The name of the empty set, as it stands before two brackets. -/
  | setName
  | openRound
  | closeRound
  | openCurly
  | closeCurly
  | comma
  | colon
  | sign
  deriving DecidableEq, Repr, Inhabited

/-- Reads a quoted text from its first quote. -/
def quotedText (raw bytes : Bool) (s : List Char) : Option (Token × List Char) :=
  match s with
  | quote :: rest =>
    let long := rest.take 2 = [quote, quote]
    let inside := if long then rest.drop 2 else rest
    (skipQuoted ⟨quote, long, raw, bytes⟩ (inside.length + 1) inside).map (.text bytes, ·)
  | [] => none

def isQuote (c : Char) : Bool := c = '\'' || c = '"'

/-- Reads a word, or a quoted text with letters before it. -/
def word (s : List Char) : Option (Token × List Char) :=
  let name := String.ofList (s.takeWhile continuesName)
  let rest := s.dropWhile continuesName
  if rest.head?.any isQuote then
    match Text.lowerAscii name with
    | "u" => quotedText false false rest
    | "r" => quotedText true false rest
    | "b" => quotedText false true rest
    | "br" | "rb" => quotedText true true rest
    | _ => none
  else match name with
    | "None" | "True" | "False" => some (.constant, rest)
    | "set" => some (.setName, rest)
    | _ => none

/-- Reads one token. -/
def token (s : List Char) : Option (Token × List Char) :=
  match s with
  | '(' :: rest => some (.openRound, rest)
  | ')' :: rest => some (.closeRound, rest)
  | '\x7b' :: rest => some (.openCurly, rest)
  | '\x7d' :: rest => some (.closeCurly, rest)
  | ',' :: rest => some (.comma, rest)
  | ':' :: rest => some (.colon, rest)
  | '+' :: rest | '-' :: rest => some (.sign, rest)
  | '.' :: '.' :: '.' :: rest => some (.constant, rest)
  | '.' :: c :: _ =>
    if c.isDigit then (number s).map fun (i, rest) => (.number i, rest) else none
  | c :: _ =>
    if c.isDigit then (number s).map fun (i, rest) => (.number i, rest)
    else if isQuote c then quotedText false false s
    else if continuesName c then word s
    else none
  | [] => none

/-- The most brackets that are open at once. -/
def bracketLimit : Nat := 200

/-- How many brackets are open behind a token. -/
def Token.level (level : Nat) : Token → Option Nat
  | .openRound | .openCurly => if level < bracketLimit then some (level + 1) else none
  | .closeRound | .closeCurly => some (level - 1)
  | _ => some level

def afterLine (s : List Char) : List Char := s.dropWhile (· ≠ '\n')

/-- Are there only comments and blank space? -/
def isIdle (inComment : Bool) : List Char → Bool
  | [] => true
  | c :: rest =>
    if c = '\n' then isIdle false rest
    else if inComment || c = '#' then isIdle true rest
    else isGap c && isIdle false rest

/-- Skips lines with nothing on them but comments.  The first other line must not be indented; `column`
is how far it is, and a form feed starts it anew. -/
def skipIdleLines : Nat → Nat → List Char → Option (List Char)
  | 0, _, _ => none
  | _, _, [] => none
  | fuel + 1, column, c :: rest =>
    if c = '\x0c' then skipIdleLines fuel 0 rest
    else if isGap c then skipIdleLines fuel (column + 1) rest
    else if c = '\n' then skipIdleLines fuel 0 rest
    else if c = '#' then skipIdleLines fuel column (afterLine rest)
    else if c = '\\' && rest.head? = some '\n' then skipIdleLines fuel column (rest.drop 1)
    else if column = 0 then some (c :: rest)
    else none

/-- The tokens of a text, of which `level` brackets are open.  Within brackets a line end is a gap;
outside it ends the value. -/
def tokens : Nat → Nat → List Char → Option (List Token)
  | 0, _, _ => none
  | _, _, [] => some []
  | fuel + 1, level, c :: rest =>
    if isGap c then tokens fuel level rest
    else if c = '#' then tokens fuel level (afterLine rest)
    else if c = '\n' then
      if level = 0 then (if isIdle false rest then some [] else none) else tokens fuel level rest
    else if c = '\\' then
      match rest with
      | '\n' :: d :: more => tokens fuel level (d :: more)
      | _ => none
    else do
      let (t, rest) ← token (c :: rest)
      let level ← t.level level
      return t :: (← tokens fuel level rest)

/-! ## 5. Values -/

/-- What the rules need to know of a value. -/
inductive Shape where
  | number (imaginary : Bool)
  /-- A number with a sign. -/
  | signed (imaginary : Bool)
  /-- Any other value.  Members of sets and keys must be fixed: what holds a set or a table is not. -/
  | plain (isFixed : Bool)
  /-- The name of the empty set, which is no value before its brackets have been read. -/
  | setName
  deriving DecidableEq, Repr, Inhabited

namespace Shape

/-- Is a value complete, and if so, is it fixed? -/
def fixed? : Shape → Option Bool
  | .plain isFixed => some isFixed
  | .setName => none
  | _ => some true

/-- Puts a sign before a number. -/
def withSign : Shape → Option Shape
  | .number i => some (.signed i)
  | _ => none

/-- Adds an imaginary number to a real one. -/
def plus : Shape → Shape → Option Shape
  | .number false, .number true | .signed false, .number true => some (.plain true)
  | _, _ => none

end Shape

/-- Skips quoted texts that continue the one before: all of bytes, or none. -/
def moreTexts (bytes : Bool) : List Token → Option (List Token)
  | .text b :: rest => if b = bytes then moreTexts bytes rest else none
  | rest => some rest

/-- Brackets behind a value are only the call that makes an empty set. -/
def called (shape : Shape) : List Token → Option (Shape × List Token)
  | .openRound :: .closeRound :: rest =>
    if shape = .setName && rest.head? ≠ some .openRound then some (.plain false, rest) else none
  | .openRound :: _ => none
  | rest => some (shape, rest)

mutual

/-- A value, with all that is added to it. -/
def sum : Nat → List Token → Option (Shape × List Token)
  | 0, _ => none
  | fuel + 1, ts => do
    let (left, rest) ← operand fuel ts
    match rest with
    | .sign :: rest =>
      let (right, rest) ← operand fuel rest
      if rest.head? = some .sign then none
      else return (← left.plus right, rest)
    | rest => return (left, rest)

/-- A value, perhaps with a sign before it. -/
def operand : Nat → List Token → Option (Shape × List Token)
  | 0, _ => none
  | fuel + 1, .sign :: rest => do
    let (shape, rest) ← operand fuel rest
    return (← shape.withSign, rest)
  | fuel + 1, ts => do
    let (shape, rest) ← atom fuel ts
    called shape rest

/-- A single value, or a collection in brackets. -/
def atom : Nat → List Token → Option (Shape × List Token)
  | 0, _ => none
  | fuel + 1, ts =>
    match ts with
    | .number i :: rest => some (.number i, rest)
    | .text bytes :: rest => (moreTexts bytes rest).map (.plain true, ·)
    | .constant :: rest => some (.plain true, rest)
    | .setName :: rest => some (.setName, rest)
    | .openRound :: .closeRound :: rest => some (.plain true, rest)
    | .openRound :: rest => do
      let (first, rest) ← sum fuel rest
      match rest with
      | .closeRound :: rest => return (first, rest)
      | .comma :: rest =>
        let (isFixed, rest) ← members fuel .closeRound rest
        return (.plain ((← first.fixed?) && isFixed), rest)
      | _ => none
    | .openCurly :: .closeCurly :: rest => some (.plain false, rest)
    | .openCurly :: rest => do
      let (first, rest') ← sum fuel rest
      if (← first.fixed?) then
        match rest' with
        | .colon :: _ => return (.plain false, ← entries fuel rest)
        | .closeCurly :: rest => return (.plain false, rest)
        | .comma :: rest =>
          let (isFixed, rest) ← members fuel .closeCurly rest
          if isFixed then return (.plain false, rest) else none
        | _ => none
      else none
    | _ => none

/-- The members of a collection from a comma on up to its end: are all of them fixed? -/
def members : Nat → Token → List Token → Option (Bool × List Token)
  | 0, _, _ => none
  | fuel + 1, close, ts =>
    if ts.head? = some close then some (true, ts.drop 1)
    else do
      let (shape, rest) ← sum fuel ts
      let isFixed ← shape.fixed?
      match rest with
      | .comma :: rest =>
        let (others, rest) ← members fuel close rest
        return (isFixed && others, rest)
      | t :: rest => if t = close then some (isFixed, rest) else none
      | [] => none

/-- The entries of a table up to its end. -/
def entries : Nat → List Token → Option (List Token)
  | 0, _ => none
  | fuel + 1, ts => do
    let (key, rest) ← sum fuel ts
    if (← key.fixed?) then
      match rest with
      | .colon :: rest =>
        let (value, rest) ← sum fuel rest
        let _ ← value.fixed?
        match rest with
        | .closeCurly :: rest => return rest
        | .comma :: .closeCurly :: rest => return rest
        | .comma :: rest => entries fuel rest
        | _ => none
      | _ => none
    else none

end

/-- Values with commas between them, up to the end of the text. -/
def listing : Nat → List Token → Bool
  | 0, _ => false
  | fuel + 1, ts =>
    match sum (8 * ts.length + 8) ts with
    | none => false
    | some (shape, rest) =>
      shape.fixed?.isSome && match rest with
        | [] | [.comma] => true
        | .comma :: rest => listing fuel rest
        | _ => false

/-- Is the text a value, or a list of values with commas between them? -/
def accepts (s : List Char) : Bool :=
  let s := plainLineEnds (s.dropWhile fun c => c = ' ' || c = '\t')
  let tokens? := do
    if s.contains '\x00' then none
    else tokens (s.length + 1) 0 (← skipIdleLines (s.length + 1) 0 s)
  tokens?.any fun ts => listing (ts.length + 1) ts

end TypingPolicy.Literal
