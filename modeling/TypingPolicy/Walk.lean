import TypingPolicy.Outlet
import TypingPolicy.Trace

/-!
# Walks

A walk goes through the classes of a unit.  A class that is exempt or, if the policy says so, has no
package is left alone.  Any other class gets the static directive unless it carries a directive that
already settles the matter, and then each of its declarations is checked and every violation reported.

A report goes to the outlet first, then into the trace, and is counted last.  When the outlet refuses
one, the walk ends there; what was done until then stays done.
-/

namespace TypingPolicy

/-- Why a class is left alone. -/
inductive SkipReason where
  | whitelist
  | defaultPackage
  deriving DecidableEq, Repr, Inhabited

def SkipReason.label : SkipReason → String
  | .whitelist => "whitelist"
  | .defaultPackage => "default_package"

structure WalkResult where
  unit : String
  excluded : Bool := false
  skipped : List String := []
  injected : List String := []
  reported : Nat := 0
  deriving DecidableEq, Repr, Inhabited

/-- All that a walk can change: the classes, the trace, the outlet's state, and what a walker remembers
between calls, namely the unit begun last and the number of reports since then. -/
structure Walk (σ : Type) where
  pool : List ClassDecl
  trace : Trace
  sink : σ
  unit : Option Nat := none
  reported : Nat := 0

/-- The two name lists of a walk in progress. -/
structure Tally where
  skipped : List String := []
  injected : List String := []
  deriving DecidableEq, Repr, Inhabited

def Policy.skipReason (p : Policy) (k : ClassDecl) : Option SkipReason :=
  if p.exempts k.name then some .whitelist
  else if p.skipDefaultPackage && k.inDefaultPackage then some .defaultPackage
  else none

namespace Walk

variable {ε σ : Type}

/-- Records an event of the current unit. -/
def note (what : Happening) (s : Walk σ) : Walk σ :=
  { s with trace := s.trace.record what s.unit }

/-! ## 1. Injection -/

/-- Adds the static directive to class `c` of the pool, and says whether it did. -/
def inject (p : Policy) (c : Nat) (k : ClassDecl) (s : Walk σ) : Bool × Walk σ :=
  if k.isMarked then (false, s)
  else
    let site : DirectiveSite := ⟨c, k.directives.length⟩
    let s := { s with pool := s.pool.set c (k.addDirective p.staticDirective) }
    (true, s.note (.injected k.name p.injectedExtensions (some site)))

/-! ## 2. Enforcement -/

/-- One report: outlet, trace, counter. -/
def deliver (outlet : Outlet ε σ) (v : Violation) (s : Walk σ) : Except ε (Walk σ) :=
  (outlet.report v.report s.sink).map fun sink =>
    let s := { s with sink }.note (.violated v.subject.name v.kind.label v.message)
    { s with reported := s.reported + 1 }

/-- Reports until one is refused. -/
def deliverAll (outlet : Outlet ε σ) : List Violation → Walk σ → Option ε × Walk σ
  | [], s => (none, s)
  | v :: rest, s =>
    match s.deliver outlet v with
    | .ok s => deliverAll outlet rest s
    | .error e => (some e, s)

/-- Checks a class and all it owns, if any rule is in force. -/
def enforce (p : Policy) (outlet : Outlet ε σ) (c : Nat) (k : ClassDecl) (s : Walk σ) :
    Option ε × Walk σ :=
  if p.enforcing then s.deliverAll outlet (p.checkClass (p.exempts k.name) c k) else (none, s)

/-! ## 3. Units -/

/-- Injection, then enforcement of the class as injection leaves it. -/
def treat (p : Policy) (outlet : Outlet ε σ) (c : Nat) (k : ClassDecl) (tally : Tally)
    (s : Walk σ) : Except ε Tally × Walk σ :=
  let (added, s) := s.inject p c k
  let tally := if added then { tally with injected := tally.injected ++ [k.name] } else tally
  let k := if added then k.addDirective p.staticDirective else k
  match s.enforce p outlet c k with
  | (none, s) => (.ok tally, s)
  | (some e, s) => (.error e, s)

/-- Goes through the classes listed; places outside the pool name no class. -/
def classes (p : Policy) (outlet : Outlet ε σ) : List Nat → Tally → Walk σ →
    Except ε Tally × Walk σ
  | [], tally, s => (.ok tally, s)
  | c :: rest, tally, s =>
    match s.pool[c]? with
    | none => classes p outlet rest tally s
    | some k =>
      match p.skipReason k with
      | some reason =>
        classes p outlet rest { tally with skipped := tally.skipped ++ [k.name] }
          (s.note (.classSkipped k.name reason.label))
      | none =>
        match s.treat p outlet c k tally with
        | (.ok tally, s) => classes p outlet rest tally s
        | (.error e, s) => (.error e, s)

/-- Walks a unit.  Counting starts afresh, and the unit becomes the parent of all that follows. -/
def unitOf (p : Policy) (outlet : Outlet ε σ) (u : SourceUnit) (s : Walk σ) :
    Except ε WalkResult × Walk σ :=
  let (id, trace) := s.trace.startUnit u.name
  match classes p outlet u.classes {} { s with trace, unit := some id, reported := 0 } with
  | (.ok tally, s) =>
    (.ok { unit := u.name, skipped := tally.skipped, injected := tally.injected,
           reported := s.reported }, s)
  | (.error e, s) => (.error e, s)

end Walk

end TypingPolicy
