import TypingPolicy.Markup.Basic
import TypingPolicy.Violation

/-!
# The console

Log records go through handlers.  One of them shows records on the backend, which can be exchanged: the
standard output or a buffer.  Another one, if the host adds it, keeps the messages as they were logged.
The level of the host decides which records are let through at all.  The host may have handlers of its
own, outside the console; no record goes on to them once a backend is in use.
-/

namespace TypingPolicy

/-! ## 1. Records -/

inductive Level where
  | notset
  | debug
  | info
  | warning
  | error
  | critical
  deriving DecidableEq, Repr, Inhabited

namespace Level

def rank : Level → Nat
  | .notset => 0
  | .debug => 10
  | .info => 20
  | .warning => 30
  | .error => 40
  | .critical => 50

def label : Level → String
  | .notset => "NOTSET"
  | .debug => "DEBUG"
  | .info => "INFO"
  | .warning => "WARNING"
  | .error => "ERROR"
  | .critical => "CRITICAL"

/-- The level of a name; two levels have a second name. -/
def ofName? : String → Option Level
  | "NOTSET" => some .notset
  | "DEBUG" => some .debug
  | "INFO" => some .info
  | "WARNING" | "WARN" => some .warning
  | "ERROR" => some .error
  | "CRITICAL" | "FATAL" => some .critical
  | _ => none

end Level

structure Record where
  level : Level
  message : String
  /-- Is the message markup? -/
  markup : Bool
  deriving DecidableEq, Repr, Inhabited

/-- The width of the column that the level stands in. -/
def levelWidth : Nat := 8

def spaces (n : Nat) : List Char := List.replicate n ' '

/-- The lines of a message, without spaces at their ends; the first one begins with `first` and the
others with as many spaces. -/
def layOut (first message : List Char) : List (List Char) :=
  match Text.splitLines message with
  | line :: more => Text.trimEnd (first ++ line) :: more.map (Text.trimEnd <| spaces first.length ++ ·)
  | [] => []

namespace Record

/-- The message as it is to be shown. -/
def sheet (r : Record) : Except Markup.Fault Markup.Sheet :=
  if r.markup then Markup.read r.message else .ok { text := r.message.toList }

/-- The lines that show a record: its level, and beside it the message.  There are none if the message
cannot be shown in its styles. -/
def lines (r : Record) : Except Markup.Fault (List String) :=
  let level := r.level.label.toList
  let first := level ++ spaces (levelWidth - level.length) ++ [' ']
  r.sheet.map fun sheet =>
    if sheet.isPaintable then (layOut first sheet.text).map String.ofList else []

end Record

/-! ## 2. Handlers and backends -/

inductive Backend where
  | standard
  | buffer (name : String)
  deriving DecidableEq, Repr, Inhabited

inductive Handler where
  | screen (backend : Backend)
  | recorder
  deriving DecidableEq, Repr, Inhabited

def Handler.isScreen : Handler → Bool
  | .screen _ => true
  | .recorder => false

structure Console where
  backend : Backend := .standard
  handlers : List Handler := [.screen .standard]
  /-- Do records go on to the host's own handlers? -/
  propagates : Bool := false
  threshold : Level := .warning
  /-- The lines on the standard output. -/
  standard : List String := []
  /-- The lines on each buffer. -/
  buffers : List (String × List String) := []
  /-- What the recorder was given. -/
  seen : List Record := []
  /-- What went on to the host's own handlers. -/
  passedOn : List Record := []
  deriving Repr, Inhabited

namespace Console

/-- Adds lines to a backend. -/
def write (backend : Backend) (lines : List String) (c : Console) : Console :=
  match backend with
  | .standard => { c with standard := c.standard ++ lines }
  | .buffer name => { c with buffers := c.buffers.map fun (n, old) =>
      if n = name then (n, old ++ lines) else (n, old) }

/-- Makes a backend the current one: the handler that shows records is made anew and comes last, and
records go no further. -/
def use (backend : Backend) (c : Console) : Console :=
  { c with backend, handlers := c.handlers.filter (!·.isScreen) ++ [.screen backend],
           propagates := false }

/-- Switches to a buffer, which is made on first use. -/
def useBuffer (name : String) (c : Console) : Console :=
  let c := if (c.buffers.lookup name).isSome then c
    else { c with buffers := c.buffers ++ [(name, [])] }
  c.use (.buffer name)

def reset (c : Console) : Console := c.use .standard

/-- Adds the recorder unless it is there. -/
def addRecorder (c : Console) : Console :=
  if .recorder ∈ c.handlers then c else { c with handlers := c.handlers ++ [.recorder] }

/-- Hands a record to one handler. -/
def handle (r : Record) (c : Console) : Handler → Except Markup.Fault Console
  | .screen backend => r.lines.map fun lines => c.write backend lines
  | .recorder => .ok { c with seen := c.seen ++ [r] }

/-- Hands a record to handlers in turn, until one fails. -/
def handleAll (r : Record) : List Handler → Console → Option Markup.Fault × Console
  | [], c => (none, c)
  | h :: rest, c => match c.handle r h with
    | .ok c => handleAll r rest c
    | .error e => (some e, c)

/-- All that handlers do is write lines and keep records, whether they fail or not. -/
theorem handleAll_keeps {P : Console → Prop}
    (hwrite : ∀ backend lines c, P c → P (c.write backend lines))
    (hseen : ∀ records c, P c → P { c with seen := records }) (r : Record) (handlers : List Handler)
    {c : Console} (h : P c) : P (c.handleAll r handlers).2 := by
  induction handlers generalizing c with
  | nil => exact h
  | cons handler rest ih =>
    rw [handleAll]
    cases handler with
    | recorder => exact ih (hseen (c.seen ++ [r]) c h)
    | screen backend =>
      cases hlines : r.lines with
      | error e =>
        simp only [handle, hlines, Except.map]
        exact h
      | ok lines =>
        simp only [handle, hlines, Except.map]
        exact ih (hwrite backend lines c h)

/-- Hands a record on to the host's own handlers, if records go that far. -/
def passOn (r : Record) (c : Console) : Console :=
  if c.propagates then { c with passedOn := c.passedOn ++ [r] } else c

/-- Logs a record, if its level reaches the threshold.  It goes on to the host only if no handler
failed. -/
def log (r : Record) (c : Console) : Option Markup.Fault × Console :=
  if c.threshold.rank ≤ r.level.rank then
    let (fault, c) := c.handleAll r c.handlers
    (fault, if fault.isNone then c.passOn r else c)
  else (none, c)

/-- Logs an error, whose message is markup. -/
def error (message : String) (c : Console) : Option Markup.Fault × Console :=
  c.log ⟨.error, "❌ " ++ message, true⟩

/-- Logs a debug line, which is shown as it is. -/
def debug (message : String) (c : Console) : Console := (c.log ⟨.debug, message, false⟩).2

/-- Writes a message on the backend as it is. -/
def print (message : String) (c : Console) : Console :=
  c.write c.backend ((layOut [] message.toList).map String.ofList)

/-! ## 3. Reports as log lines -/

/-- A report written as markup, its name set off. -/
def reportLine (r : Report) : String :=
  "[code]" ++ Markup.escape r.subject.name ++ "[/code] (" ++ r.subject.kind.label ++ "): "
    ++ Markup.escape r.message

/-- Logs reports as errors. -/
def report (r : Report) (c : Console) : Except Markup.Fault Console :=
  match c.error (reportLine r) with
  | (none, c) => .ok c
  | (some e, _) => .error e

end Console

end TypingPolicy
