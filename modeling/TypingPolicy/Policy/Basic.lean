import TypingPolicy.Directive
import TypingPolicy.Policy.Settings

/-!
# Policies

A policy is the fixed answer to every question that enforcement asks.  Without configuration all is
allowed.  `ofRaw` makes a policy from whatever a configuration source found: something that cannot be
used as a whole counts as nothing at all, so one bad setting leaves the defaults in every field.
-/

namespace TypingPolicy

structure Policy where
  /-- Report classes and methods that ask for dynamic compilation. -/
  disableDynamicCompile : Bool := false
  /-- Fragments of the names of exempt classes. -/
  whitelist : List String := []
  /-- Report extensions that are not allowed. -/
  limitExtensions : Bool := false
  /-- Allowed on, and injected with, the static directive. -/
  allowedExtensions : List String := []
  /-- If false, untyped fields, returns and parameters are reported. -/
  untypedAllowed : Bool := true
  /-- Leave classes without a package alone. -/
  skipDefaultPackage : Bool := false
  deriving DecidableEq, Repr, Inhabited

namespace Policy

/-! ## 1. Building a policy -/

/-- Open settings take their defaults, and a repeated name counts once. -/
def ofSettings (s : Settings) : Policy where
  disableDynamicCompile := s.disableDynamicCompile.getD false
  whitelist := Text.newNames [] (s.dynamicCompileWhitelist.getD [])
  limitExtensions := s.limitCompileStaticExtensions.getD false
  allowedExtensions := Text.newNames [] (s.compileStaticExtensions.getD [])
  untypedAllowed := s.defAllowed.getD true
  skipDefaultPackage := s.skipDefaultPackage.getD false

/-- The policy that a value describes, if it can be read as a table and all its settings are usable. -/
def ofValue? (v : Value) : Option Policy :=
  v.toTable?.bind fun t => (Settings.ofTable t).toOption.map ofSettings

/-- The policy for what a source found. -/
def ofRaw : Option Value → Policy
  | none => {}
  | some v => (ofValue? v).getD {}

/-! ## 2. Building a policy field by field -/

/-- The value of a field if it is given, a default otherwise; here null is a value like any other. -/
def readField (read : String → Value → Reading (Option α)) (key : String) (default : α)
    (fields : Table) : Reading α :=
  match fields.get? key with
  | none => ⟨default, []⟩
  | some v => let r := read key v; ⟨r.value.getD default, r.problems⟩

/-- A policy from its own fields, which keep repeated names; keys that name no field are not looked
at. -/
def ofFields (fields : Table) : Except (List Problem) Policy :=
  let disable := readField readFlag "disable_dynamic_compile" false fields
  let whitelist := readField (readNames .notATuple) "dynamic_compile_whitelist" [] fields
  let limit := readField readFlag "limit_extensions" false fields
  let allowed := readField (readNames .notATuple) "allowed_extensions" [] fields
  let untyped := readField readFlag "untyped_allowed" true fields
  let skip := readField readFlag "skip_default_package" false fields
  let problems := disable.problems ++ whitelist.problems ++ limit.problems ++ allowed.problems
    ++ untyped.problems ++ skip.problems
  if problems = [] then
    .ok ⟨disable.value, whitelist.value, limit.value, allowed.value, untyped.value, skip.value⟩
  else .error problems

/-- A policy never changes: an attempt to set a field is a problem with that field. -/
def assign (_ : Policy) (field : String) : List Problem := [⟨.frozen, .key field⟩]

/-! ## 3. What a policy says -/

/-- Is any rule in its restrictive state? -/
def enforcing (p : Policy) : Bool :=
  p.disableDynamicCompile || p.limitExtensions || !p.untypedAllowed

/-- The extension argument that goes with an injected directive, absent if nothing is allowed. -/
def injectedExtensions (p : Policy) : Value :=
  if p.allowedExtensions = [] then .null else .list (p.allowedExtensions.map .text)

/-- The directive that is injected into classes without one. -/
def staticDirective (p : Policy) : Directive := .compileStatic p.injectedExtensions

/-- A name is exempt if it holds one of the fragments. -/
def exempts (p : Policy) (name : String) : Bool := p.whitelist.any (Text.occursIn · name)

/-- The fields as a value. -/
def toValue (p : Policy) : Value := .table [
  ("disable_dynamic_compile", .bool p.disableDynamicCompile),
  ("dynamic_compile_whitelist", .list (p.whitelist.map .text)),
  ("limit_extensions", .bool p.limitExtensions),
  ("allowed_extensions", .list (p.allowedExtensions.map .text)),
  ("untyped_allowed", .bool p.untypedAllowed),
  ("skip_default_package", .bool p.skipDefaultPackage)]

end Policy

end TypingPolicy
