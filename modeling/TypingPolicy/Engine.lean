import TypingPolicy.Policy.Describe
import TypingPolicy.Source
import TypingPolicy.Walk

/-!
# Engines

An engine is called once for each compilation unit.  Units that are scripts are left alone.  The first
other call asks a source for the configuration and fixes the policy; after that no call changes it.  A
source that fails counts as one that found nothing, so configuration never makes a call fail.
-/

namespace TypingPolicy

structure Engine where
  source : Source := .fixed .null
  excludedNames : List String := ["embedded_script_in_groovy_Ant_task"]
  excludedBeginnings : List String := ["Script", "script", "GStringTemplateScript"]
  policy : Option Policy := none
  /-- How often the engine's own source was asked. -/
  lookups : Nat := 0
  /-- How often a source that came with a call was asked in its place. -/
  otherLookups : Nat := 0
  deriving Repr, Inhabited

/-- An engine with all that its calls can see and change. -/
structure Host (σ : Type) where
  engine : Engine := {}
  files : FileTree := .empty
  pool : List ClassDecl := []
  trace : Trace := .disabled
  sink : σ

def Engine.excludes (e : Engine) (name : String) : Bool :=
  name ∈ e.excludedNames || e.excludedBeginnings.any (Text.begins · name)

/-! ## 1. The configuration -/

/-- What is known of a failure, after a blank; nothing where only the system could say.  That there is
always a text is the assumption of `Failure`. -/
def LookupFault.detail : LookupFault → String
  | .failed .key => " 'lookup failed'"
  | .failed (.other text) => " " ++ text
  | .failed _ => " lookup failed"
  | _ => ""

/-- What a source found, a failure being nothing, and the debug lines about it. -/
def Source.ask (files : FileTree) (source : Source) : Option Value × List String :=
  match source.lookup files with
  | ⟨.ok raw, notes⟩ => (raw, notes)
  | ⟨.error e, notes⟩ =>
    (none, notes ++ ["Conventions lookup failed, using defaults:" ++ e.detail])

/-- The debug lines about turning what was found into a policy. -/
def policyNotes (raw : Option Value) : List String :=
  let rejected := raw.any fun v => (Policy.ofValue? v).isNone
  (if rejected then ["Ignoring invalid conventions configuration:"] else [])
    ++ ["Policy configuration initialised (found=" ++ Policy.flagText raw.isSome ++ "): "
      ++ (Policy.ofRaw raw).describe]

namespace Host

variable {ε σ : Type}

/-- Asks the given source, or else the engine's own, and counts the question. -/
def ask (given : Option Source) (h : Host σ) : (Option Value × List String) × Host σ :=
  match given with
  | some source =>
    (source.ask h.files,
     { h with engine := { h.engine with otherLookups := h.engine.otherLookups + 1 } })
  | none =>
    (h.engine.source.ask h.files,
     { h with engine := { h.engine with lookups := h.engine.lookups + 1 } })

/-- Asks for the configuration and fixes the policy. -/
def initialise (outlet : Outlet ε σ) (given : Option Source) (h : Host σ) : Policy × Host σ :=
  let ((raw, notes), h) := h.ask given
  let policy := Policy.ofRaw raw
  (policy, { h with
    engine := { h.engine with policy := some policy }
    trace := h.trace.record (.configured (.bool raw.isSome) policy.toValue) none
    sink := (notes ++ policyNotes raw).foldl (fun s line => outlet.debug line s) h.sink })

/-- The policy in force, which the first call fixes. -/
def ensureInitialised (outlet : Outlet ε σ) (given : Option Source) (h : Host σ) :
    Policy × Host σ :=
  match h.engine.policy with
  | some policy => (policy, h)
  | none => h.initialise outlet given

/-! ## 2. Units -/

/-- Treats one unit: nothing happens to an excluded one, any other is walked under the policy. -/
def visit (outlet : Outlet ε σ) (u : SourceUnit) (h : Host σ) : Except ε WalkResult × Host σ :=
  if h.engine.excludes u.name then
    (.ok { unit := u.name, excluded := true },
     { h with trace := h.trace.record (.unitSkipped u.name) none })
  else
    let (policy, h) := h.ensureInitialised outlet none
    let (result, w) := Walk.unitOf policy outlet u { pool := h.pool, trace := h.trace, sink := h.sink }
    (result, { h with pool := w.pool, trace := w.trace, sink := w.sink })

end Host

/-- Treats one unit with an engine of its own. -/
def enforce {ε σ : Type} (outlet : Outlet ε σ) (config : Value) (u : SourceUnit)
    (pool : List ClassDecl) (sink : σ) : Except ε WalkResult × Host σ :=
  Host.visit outlet u { engine := { source := .fixed config }, pool, sink }

end TypingPolicy
