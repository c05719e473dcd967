import TypingPolicy.Console
import TypingPolicy.Outlet

/-!
# The outlets of one host

A host has a console and two collectors, and chooses for each call which of the three takes the reports.
Debug lines always go to the console.
-/

namespace TypingPolicy

structure Desk where
  console : Console := {}
  main : Collector := {}
  other : Collector := {}
  deriving Repr, Inhabited

/-- Why a report was refused. -/
inductive Refusal where
  | full
  | markup (fault : Markup.Fault)
  deriving DecidableEq, Repr, Inhabited

namespace Desk

def debug (line : String) (d : Desk) : Desk := { d with console := d.console.debug line }

def toMain : Outlet Refusal Desk where
  report r d := match d.main.add r with
    | .ok main => .ok { d with main }
    | .error _ => .error .full
  debug := debug

def toOther : Outlet Refusal Desk where
  report r d := match d.other.add r with
    | .ok other => .ok { d with other }
    | .error _ => .error .full
  debug := debug

def toConsole : Outlet Refusal Desk where
  report r d := match d.console.report r with
    | .ok console => .ok { d with console }
    | .error e => .error (.markup e)
  debug := debug

end Desk

end TypingPolicy
