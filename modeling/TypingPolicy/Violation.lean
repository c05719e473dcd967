import TypingPolicy.Declaration
import TypingPolicy.Policy.Basic

/-!
# Violations

The three rules, each of them a list of at most one violation, and the rules that apply to each kind of
declaration (`check`).  Rules do not depend on each other: one declaration may break several.  A
`Report` is what a sink gets to see of a violation.
-/

namespace TypingPolicy

inductive ViolationKind where
  | dynamicCompile
  | extensionsLimited
  | untyped
  deriving DecidableEq, Repr, Inhabited

namespace ViolationKind

def label : ViolationKind → String
  | .dynamicCompile => "dynamic_compile_disallowed"
  | .extensionsLimited => "extensions_limited"
  | .untyped => "untyped_not_allowed"

def all : List ViolationKind := [.dynamicCompile, .extensionsLimited, .untyped]

def ofLabel? (s : String) : Option ViolationKind := all.find? (·.label = s)

end ViolationKind

structure Violation where
  kind : ViolationKind
  subject : Subject
  /-- What is allowed instead, if extensions are at issue. -/
  allowed : List String := []
  /-- What is used without being allowed, if extensions are at issue. -/
  offending : List String := []
  /-- What lacks a type; the kind of the subject if left open. -/
  untypedKind : Option DeclarationKind := none
  deriving DecidableEq, Repr, Inhabited

structure Report where
  message : String
  subject : Subject
  deriving DecidableEq, Repr, Inhabited

/-- How a missing type is reported.  No rule speaks of classes, whose text only follows the pattern. -/
def untypedMessage : DeclarationKind → String
  | .method => "Untyped method return types are not allowed."
  | kind => "Untyped " ++ kind.label ++ "s are not allowed."

namespace Violation

def message (v : Violation) : String :=
  match v.kind with
  | .dynamicCompile => "Dynamic compilation is not allowed for this " ++ v.subject.kind.label ++ "."
  | .extensionsLimited =>
    "Compile static extensions are limited to: [" ++ ", ".intercalate v.allowed ++ "]"
  | .untyped => untypedMessage (v.untypedKind.getD v.subject.kind)

def report (v : Violation) : Report := ⟨v.message, v.subject⟩

end Violation

/-! ## 1. Extensions -/

namespace Declaration

/-- The extension names on the static directives of a declaration, with repetitions. -/
def staticExtensions (d : Declaration) : List String :=
  (d.directivesOf .compileStatic).flatMap Directive.extensionNames

/-- The extensions that are not allowed, each where it occurs first. -/
def disallowedExtensions (d : Declaration) (allowed : List String) : List String :=
  Text.newNames allowed d.staticExtensions

def hasDisallowedExtensions (d : Declaration) (allowed : List String) : Bool :=
  d.staticExtensions.any (· ∉ allowed)

end Declaration

/-! ## 2. Rules -/

namespace Policy

/-- Dynamic compilation is reported unless the class that owns the declaration is exempt. -/
def checkDynamic (p : Policy) (exempt : Bool) (d : Declaration) : List Violation :=
  if p.disableDynamicCompile && !exempt && d.hasDirective [.compileDynamic] then
    [{ kind := .dynamicCompile, subject := d.toSubject }]
  else []

def checkExtensions (p : Policy) (d : Declaration) : List Violation :=
  if p.limitExtensions && d.hasDisallowedExtensions p.allowedExtensions then
    [{ kind := .extensionsLimited, subject := d.toSubject, allowed := p.allowedExtensions,
       offending := d.disallowedExtensions p.allowedExtensions }]
  else []

def checkUntyped (p : Policy) (d : Declaration) : List Violation :=
  if !p.untypedAllowed && d.untyped then
    [{ kind := .untyped, subject := d.toSubject, untypedKind := some d.kind }]
  else []

/-- The rules on directives. -/
def checkDirectives (p : Policy) (exempt : Bool) (d : Declaration) : List Violation :=
  p.checkDynamic exempt d ++ p.checkExtensions d

/-- The violations of one declaration, in the order of the rules. -/
def check (p : Policy) (exempt : Bool) (d : Declaration) : List Violation :=
  match d.kind with
  | .classDecl => p.checkDirectives exempt d
  | .method => p.checkUntyped d ++ p.checkDirectives exempt d
  | .field | .parameter => p.checkUntyped d

/-- The violations of a class and all it owns. -/
def checkClass (p : Policy) (exempt : Bool) (c : Nat) (k : ClassDecl) : List Violation :=
  (k.declarations c).flatMap (p.check exempt)

end Policy

end TypingPolicy
