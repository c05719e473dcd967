import TypingPolicy.Trace
import TypingPolicy.Declaration

/-!
# Host edits

A host may change classes between calls: add a directive to a class, or add an entry to the extension
list of a directive.  A trace event about an injected directive shows that directive's own list, so it
follows the second kind of edit.
-/

namespace TypingPolicy

/-- Why an extension cannot be added. -/
inductive EditFault where
  | noSuchDirective
  | notAList
  deriving DecidableEq, Repr, Inhabited

namespace Edit

/-- Adds a directive to a class of the pool. -/
def addDirective (c : Nat) (d : Directive) (pool : List ClassDecl) : List ClassDecl :=
  pool.modify c (·.addDirective d)

/-- The directive at a site. -/
def directive? (site : DirectiveSite) (pool : List ClassDecl) : Option Directive :=
  (pool[site.classIndex]?).bind fun k => k.directives[site.position]?

/-- Replaces the directive at a site. -/
def setDirective (site : DirectiveSite) (d : Directive) (pool : List ClassDecl) : List ClassDecl :=
  pool.modify site.classIndex fun k => { k with directives := k.directives.set site.position d }

/-- Adds an entry to the extension list of a directive, and to what the trace shows of it. -/
def appendExtension (site : DirectiveSite) (v : Value) (pool : List ClassDecl) (trace : Trace) :
    Except EditFault (List ClassDecl × Trace) :=
  match directive? site pool with
  | none => .error .noSuchDirective
  | some d => match d.appendExtension? v with
    | none => .error .notAList
    | some d => .ok (setDirective site d pool, trace.setExtensions site d.extensions)

end Edit

end TypingPolicy
