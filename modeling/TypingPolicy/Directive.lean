import TypingPolicy.Value

/-!
# Directives

A directive is an annotation on a declaration.  Two kinds matter: the one that asks for static
compilation and the one that asks for dynamic compilation.  The extension argument of a directive is
kept as it was written, because trees built by hand may hold anything there; `extensionNames` is the
part of it that means something.
-/

namespace TypingPolicy

inductive DirectiveKind where
  | compileStatic
  | compileDynamic
  | other
  deriving DecidableEq, Repr, Inhabited

namespace DirectiveKind

def label : DirectiveKind → String
  | .compileStatic => "compile_static"
  | .compileDynamic => "compile_dynamic"
  | .other => "other"

def all : List DirectiveKind := [.compileStatic, .compileDynamic, .other]

def ofLabel? (s : String) : Option DirectiveKind := all.find? (·.label = s)

/-- The kind that an annotation name announces. -/
def ofName (name : String) : DirectiveKind :=
  if name ∈ ["CompileStatic", "groovy.transform.CompileStatic", "compile_static"] then
    .compileStatic
  else if name ∈ ["CompileDynamic", "groovy.transform.CompileDynamic", "compile_dynamic"] then
    .compileDynamic
  else .other

/-- Does the kind settle how a class is compiled? -/
def isMarker : DirectiveKind → Bool
  | .other => false
  | _ => true

end DirectiveKind

structure Directive where
  name : String
  kind : DirectiveKind := .other
  extensions : Value := .null
  deriving Repr, Inhabited

namespace Directive

/-- A directive whose kind follows from its name. -/
def named (name : String) (extensions : Value) : Directive :=
  ⟨name, .ofName name, extensions⟩

def compileStatic (extensions : Value) : Directive :=
  ⟨"compile_static", .compileStatic, extensions⟩

def compileDynamic : Directive := ⟨"compile_dynamic", .compileDynamic, .null⟩

/-- The names in the extension argument: the texts of a list, and nothing of anything else. -/
def extensionNames (d : Directive) : List String :=
  match d.extensions with
  | .list items => items.filterMap fun
    | .text s => some s
    | _ => none
  | _ => []

def same (d e : Directive) : Bool :=
  d.name = e.name && d.kind = e.kind && d.extensions.same e.extensions

/-- Adds an entry at the end of the extension list, if the argument is a list. -/
def appendExtension? (d : Directive) (v : Value) : Option Directive :=
  match d.extensions with
  | .list items => some { d with extensions := .list (items ++ [v]) }
  | _ => none

end Directive

end TypingPolicy
