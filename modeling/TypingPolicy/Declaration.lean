import TypingPolicy.Directive

/-!
# Declarations

The tree that a host hands over: a class owns fields and methods, a method owns parameters, and each of
them carries directives.  Rules do not look at the tree but at single declarations; `ClassDecl.declarations`
lists those of a class in the order in which they are visited.  Two declarations may agree in everything
that is written in them, so each is told apart by its `Site`.
-/

namespace TypingPolicy

inductive DeclarationKind where
  | classDecl
  | field
  | method
  | parameter
  deriving DecidableEq, Repr, Inhabited

namespace DeclarationKind

def label : DeclarationKind → String
  | .classDecl => "class"
  | .field => "field"
  | .method => "method"
  | .parameter => "parameter"

def all : List DeclarationKind := [.classDecl, .field, .method, .parameter]

def ofLabel? (s : String) : Option DeclarationKind := all.find? (·.label = s)

end DeclarationKind

/-! ## 1. The tree -/

/-- A field or a parameter. -/
structure Member where
  name : String
  directives : List Directive := []
  untyped : Bool := false
  deriving Repr, Inhabited

/-- A method; `untyped` speaks of its return type. -/
structure Method extends Member where
  parameters : List Member := []
  deriving Repr, Inhabited

structure ClassDecl where
  name : String
  directives : List Directive := []
  package : Option String := none
  fields : List Member := []
  methods : List Method := []
  deriving Repr, Inhabited

/-- A compilation unit names its classes by their place in a pool, so that a class may belong to
several units, or to one unit several times. -/
structure SourceUnit where
  name : String
  classes : List Nat := []
  deriving DecidableEq, Repr, Inhabited

namespace ClassDecl

/-- A class without a package, or with an empty one. -/
def inDefaultPackage (k : ClassDecl) : Bool := k.package.getD "" = ""

/-- Does the class say itself how it is compiled? -/
def isMarked (k : ClassDecl) : Bool := k.directives.any (·.kind.isMarker)

def addDirective (k : ClassDecl) (d : Directive) : ClassDecl :=
  { k with directives := k.directives ++ [d] }

end ClassDecl

/-! ## 2. Single declarations -/

/-- Where a declaration stands: in which class of the pool, and at which place in it. -/
inductive Site where
  | classAt (c : Nat)
  | fieldAt (c f : Nat)
  | methodAt (c m : Nat)
  | parameterAt (c m p : Nat)
  deriving DecidableEq, Repr, Inhabited

def Site.kind : Site → DeclarationKind
  | .classAt _ => .classDecl
  | .fieldAt _ _ => .field
  | .methodAt _ _ => .method
  | .parameterAt _ _ _ => .parameter

/-- What a report points at. -/
structure Subject where
  site : Site
  name : String
  deriving DecidableEq, Repr, Inhabited

def Subject.kind (s : Subject) : DeclarationKind := s.site.kind

/-- What a rule sees of a declaration. -/
structure Declaration extends Subject where
  directives : List Directive := []
  untyped : Bool := false
  deriving Repr, Inhabited

namespace Declaration

def hasDirective (d : Declaration) (kinds : List DirectiveKind) : Bool :=
  d.directives.any (·.kind ∈ kinds)

def directivesOf (d : Declaration) (kind : DirectiveKind) : List Directive :=
  d.directives.filter (·.kind = kind)

end Declaration

def Member.declaration (m : Member) (site : Site) : Declaration :=
  ⟨⟨site, m.name⟩, m.directives, m.untyped⟩

namespace ClassDecl

/-- The class itself, as class number `c`; a class is never untyped. -/
def self (k : ClassDecl) (c : Nat) : Declaration := ⟨⟨.classAt c, k.name⟩, k.directives, false⟩

def fieldDeclarations (k : ClassDecl) (c : Nat) : List Declaration :=
  k.fields.mapIdx fun f m => m.declaration (.fieldAt c f)

/-- Method number `m` of class number `c`, and then its parameters. -/
def methodDeclarations (c m : Nat) (method : Method) : List Declaration :=
  method.declaration (.methodAt c m)
    :: method.parameters.mapIdx fun p q => q.declaration (.parameterAt c m p)

/-- All declarations of a class: itself, its fields, and each method followed by its parameters. -/
def declarations (k : ClassDecl) (c : Nat) : List Declaration :=
  k.self c :: k.fieldDeclarations c ++ (k.methods.mapIdx (methodDeclarations c)).flatten

end ClassDecl

/-! ## 3. A node on its own -/

/-- One node of the tree with all below it. -/
inductive Node where
  | classDecl (k : ClassDecl)
  | field (m : Member)
  | method (m : Method)
  | parameter (m : Member)
  deriving Repr, Inhabited

namespace Node

/-- The node seen as the first declaration of its kind in class number `c`. -/
def declaration (c : Nat) : Node → Declaration
  | .classDecl k => k.self c
  | .field m => m.declaration (.fieldAt c 0)
  | .method m => m.declaration (.methodAt c 0)
  | .parameter m => m.declaration (.parameterAt c 0 0)

def addDirective (d : Directive) : Node → Node
  | .classDecl k => .classDecl (k.addDirective d)
  | .field m => .field { m with directives := m.directives ++ [d] }
  | .method m => .method { m with directives := m.directives ++ [d] }
  | .parameter m => .parameter { m with directives := m.directives ++ [d] }

/-- Only classes have a package. -/
def inDefaultPackage? : Node → Option Bool
  | .classDecl k => some k.inDefaultPackage
  | _ => none

end Node

end TypingPolicy
