import TypingPolicy.Policy.Basic

/-!
# Traces

A trace records what was decided: that a policy was built, which units and classes were begun or left
alone, which directives were injected, which violations were reported.  Every event gets an identifier,
numbered in the order in which they are handed out, also while recording is off; events of a unit name
the identifier of the event that began it as their parent.  `Trace.parentOf` says how a parent is shown:
by the place of its event, if that event was recorded.
-/

namespace TypingPolicy

inductive EventKind where
  | configInit
  | unitStart
  | unitSkipped
  | classSkipped
  | directiveInjected
  | violation
  deriving DecidableEq, Repr, Inhabited

namespace EventKind

def label : EventKind → String
  | .configInit => "config_init"
  | .unitStart => "unit_start"
  | .unitSkipped => "unit_skipped"
  | .classSkipped => "class_skipped"
  | .directiveInjected => "directive_injected"
  | .violation => "violation"

def all : List EventKind :=
  [.configInit, .unitStart, .unitSkipped, .classSkipped, .directiveInjected, .violation]

def ofLabel? (s : String) : Option EventKind := all.find? (·.label = s)

end EventKind

/-- A directive in a pool of classes: the class, and its place among the directives of that class.
Directives are only ever added at the end, so the place does not change. -/
structure DirectiveSite where
  classIndex : Nat
  position : Nat
  deriving DecidableEq, Repr, Inhabited

/-- What happened. -/
inductive Happening where
  | configured (found : Value) (config : Value)
  | unitStarted (name : String)
  | unitSkipped (name : String)
  | classSkipped (name reason : String)
  /-- The extensions are those of the injected directive, now and later: `site` says which directive
  that is, if it stands in the pool. -/
  | injected (name : String) (extensions : Value) (site : Option DirectiveSite)
  | violated (name kind message : String)
  deriving Repr, Inhabited

namespace Happening

def kind : Happening → EventKind
  | .configured _ _ => .configInit
  | .unitStarted _ => .unitStart
  | .unitSkipped _ => .unitSkipped
  | .classSkipped _ _ => .classSkipped
  | .injected _ _ _ => .directiveInjected
  | .violated _ _ _ => .violation

def description : Happening → String
  | .configured _ _ => "Policy configuration initialised"
  | .unitStarted name => name
  | .unitSkipped name => "Skipped unit '" ++ name ++ "'"
  | .classSkipped name _ => "Skipped class '" ++ name ++ "'"
  | .injected name _ _ => "Injected static directive into '" ++ name ++ "'"
  | .violated _ _ message => message

def details : Happening → Table
  | .configured found config => [("found", found), ("config", config)]
  | .unitStarted _ | .unitSkipped _ => []
  | .classSkipped _ reason => [("reason", .text reason)]
  | .injected _ extensions _ => [("extensions", extensions)]
  | .violated name kind _ => [("declaration", .text name), ("kind", .text kind)]

/-- The same event after the extensions of a directive have changed. -/
def withExtensions (site : DirectiveSite) (extensions : Value) : Happening → Happening
  | .injected name old s => .injected name (if s = some site then extensions else old) s
  | h => h

end Happening

structure Event where
  id : Nat
  parent : Option Nat
  what : Happening
  deriving Repr, Inhabited

structure Trace where
  enabled : Bool := true
  /-- How many identifiers were handed out. -/
  issued : Nat := 0
  events : List Event := []
  deriving Repr, Inhabited

/-- How the parent of an event is shown. -/
inductive ParentView where
  | none
  | at (place : Nat)
  | unknown
  deriving DecidableEq, Repr, Inhabited

namespace Trace

/-- A trace that records nothing. -/
def disabled : Trace := { enabled := false }

/-- Hands out the next identifier, and keeps the event if recording is on. -/
def record (what : Happening) (parent : Option Nat) (t : Trace) : Trace :=
  { t with
    issued := t.issued + 1
    events := if t.enabled then t.events ++ [⟨t.issued, parent, what⟩] else t.events }

/-- Begins a unit: its identifier is the one that was due. -/
def startUnit (name : String) (t : Trace) : Nat × Trace :=
  (t.issued, t.record (.unitStarted name) none)

def eventsOf (kind : EventKind) (t : Trace) : List Event :=
  t.events.filter (·.what.kind = kind)

/-- The place of an event in the whole trace. -/
def place? (id : Nat) (t : Trace) : Option Nat := t.events.findIdx? (·.id = id)

def parentOf (e : Event) (t : Trace) : ParentView :=
  match e.parent with
  | none => .none
  | some id => match t.place? id with
    | some place => .at place
    | none => .unknown

/-- Events that show a directive's extensions follow the directive. -/
def setExtensions (site : DirectiveSite) (extensions : Value) (t : Trace) : Trace :=
  { t with events := t.events.map fun e =>
      { e with what := e.what.withExtensions site extensions } }

end Trace

end TypingPolicy
