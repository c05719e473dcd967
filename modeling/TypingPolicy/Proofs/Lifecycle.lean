import TypingPolicy.Edit
import TypingPolicy.Engine
import TypingPolicy.Proofs.Recording

/-!
# The life cycle of a policy

An engine has no policy at first, and the first call that needs one fixes it for good.  This file
looks at an engine over a whole run: calls that ask for the policy, with sources of their own or
without, and visits of all kinds, among them visits to excluded units and visits that an outlet
cuts short; between them classes and files may change.

Everything is derived from what one call does to the engine (`engine_call`) and to the
configuration events of the trace (`configEvents_call`).  The main statement is
`run_fixes_policy_once`.
-/

namespace TypingPolicy

variable {ε σ : Type}

/-! ## 1. What a walk writes into the trace -/

/-- **Walks never speak of configuration.**  What no other event can spoil survives a walk, also
one that is cut short. -/
theorem Walk.unitOf_trace {p : Policy} {outlet : Outlet ε σ} {P : Trace → Prop}
    (hP : ∀ t what parent, what.kind ≠ .configInit → P t → P (t.record what parent))
    {u : SourceUnit} {s : Walk σ} (h : P s.trace) : P (unitOf p outlet u s).2.trace := by
  obtain ⟨hs, hdetails, htrace⟩ := (adds_unitOf p outlet u s).recorded
  have hstart : P (s.begun u).trace := hP _ _ _ (by simp [Happening.kind]) h
  rw [htrace]
  refine Trace.recordAll_keeps (fun t what hwhat => hP t what _ ?_) hstart
  intro hkind
  exact absurd (hdetails what hwhat) (by simp [hkind, EventKind.isDetail])

/-! ## 2. Asking for a policy -/

/-- The policy that a source decides on.  One that fails, or finds nothing, leaves the defaults. -/
def Source.policy (files : FileTree) (source : Source) : Policy :=
  match (source.lookup files).outcome with
  | .ok (some v) => Policy.ofRaw (some v)
  | .ok none | .error _ => {}

theorem Source.ofRaw_ask (files : FileTree) (source : Source) :
    Policy.ofRaw (source.ask files).1 = source.policy files := by
  unfold Source.ask Source.policy
  rcases source.lookup files with ⟨⟨e⟩ | ⟨_ | v⟩, notes⟩ <;> rfl

namespace Trace

theorem eventsOf_record_of_ne {what : Happening} {parent : Option Nat} {kind : EventKind}
    {t : Trace} (h : what.kind ≠ kind) : (t.record what parent).eventsOf kind = t.eventsOf kind := by
  unfold record eventsOf
  cases t.enabled <;> simp [h]

theorem length_eventsOf_record (what : Happening) (parent : Option Nat) (kind : EventKind)
    (t : Trace) : ((t.record what parent).eventsOf kind).length ≤ (t.eventsOf kind).length + 1 := by
  unfold record eventsOf
  cases t.enabled <;> by_cases h : what.kind = kind <;> simp [h]

end Trace

namespace Engine

/-- How often the engine asked a source, its own or another. -/
def asked (e : Engine) : Nat := e.lookups + e.otherLookups

/-- The engine after it asked for a policy. -/
def configured (files : FileTree) (given : Option Source) (e : Engine) : Engine :=
  match given with
  | some source =>
    { e with policy := some (source.policy files), otherLookups := e.otherLookups + 1 }
  | none => { e with policy := some (e.source.policy files), lookups := e.lookups + 1 }

theorem policy_configured (files : FileTree) (given : Option Source) (e : Engine) :
    (e.configured files given).policy = some ((given.getD e.source).policy files) := by
  cases given <;> rfl

theorem asked_configured (files : FileTree) (given : Option Source) (e : Engine) :
    (e.configured files given).asked = e.asked + 1 := by
  cases given <;> simp only [configured, asked] <;> omega

end Engine

namespace Host

variable {outlet : Outlet ε σ} {given : Option Source} {h : Host σ}

/-- The source that a call with the source `given` is about. -/
def asks (given : Option Source) (h : Host σ) : Source := given.getD h.engine.source

theorem initialise_eq :
    h.initialise outlet given
      = (((h.asks given).policy h.files),
         { h with
           engine := h.engine.configured h.files given
           trace := h.trace.record (.configured (.bool ((h.asks given).ask h.files).1.isSome)
             ((h.asks given).policy h.files).toValue) none
           sink := (((h.asks given).ask h.files).2
             ++ policyNotes ((h.asks given).ask h.files).1).foldl
               (fun s line => outlet.debug line s) h.sink }) := by
  unfold initialise ask
  cases given <;> simp only [Source.ofRaw_ask, Engine.configured, asks, Option.getD_none,
    Option.getD_some]

theorem ensureInitialised_of_some {p : Policy} (hp : h.engine.policy = some p) :
    h.ensureInitialised outlet given = (p, h) := by
  simp only [ensureInitialised, hp]

theorem ensureInitialised_of_none (hp : h.engine.policy = none) :
    h.ensureInitialised outlet given = h.initialise outlet given := by
  simp only [ensureInitialised, hp]

/-- Getting a policy concerns no class. -/
theorem pool_ensureInitialised (outlet : Outlet ε σ) (given : Option Source) (h : Host σ) :
    (h.ensureInitialised outlet given).2.pool = h.pool := by
  cases hp : h.engine.policy with
  | none => rw [ensureInitialised_of_none hp, initialise_eq]
  | some p => rw [ensureInitialised_of_some hp]

/-- The walk that a visit to `u` consists of, once there is a policy. -/
def walkUnder (p : Policy) (outlet : Outlet ε σ) (u : SourceUnit) (h : Host σ) :
    Except ε WalkResult × Host σ :=
  let (result, w) := Walk.unitOf p outlet u { pool := h.pool, trace := h.trace, sink := h.sink }
  (result, { h with pool := w.pool, trace := w.trace, sink := w.sink })

theorem visit_of_excluded {u : SourceUnit} (hx : h.engine.excludes u.name = true) :
    h.visit outlet u
      = (.ok { unit := u.name, excluded := true },
         { h with trace := h.trace.record (.unitSkipped u.name) none }) := by
  simp only [visit, hx, if_true]

theorem visit_of_included {u : SourceUnit} (hx : h.engine.excludes u.name = false) :
    h.visit outlet u
      = (h.ensureInitialised outlet none).2.walkUnder (h.ensureInitialised outlet none).1 outlet u :=
  by simp only [visit, hx, Bool.false_eq_true, if_false, walkUnder]

/-- Once there is a policy `p`, whoever asks gets `p`, and every walk is one under `p`. -/
structure Governed (ε : Type) (p : Policy) (h : Host σ) : Prop where
  policy : h.engine.policy = some p
  ensure : ∀ (outlet : Outlet ε σ) (given : Option Source), h.ensureInitialised outlet given = (p, h)
  visit : ∀ (outlet : Outlet ε σ) (u : SourceUnit), h.engine.excludes u.name = false →
    h.visit outlet u = h.walkUnder p outlet u

theorem governed_of_some {p : Policy} (hp : h.engine.policy = some p) : Governed ε p h where
  policy := hp
  ensure _ _ := ensureInitialised_of_some hp
  visit outlet u hx := by
    rw [visit_of_included hx, ensureInitialised_of_some hp]

end Host

/-! ## 3. Calls -/

/-- What a host does with its engine, and what may happen to it in between. -/
inductive Call (ε σ : Type) where
  /-- Ask for the policy, with a source of its own or without. -/
  | ensure (given : Option Source)
  /-- Visit a unit, with an outlet of its own or without. -/
  | visit (u : SourceUnit) (outlet : Option (Outlet ε σ))
  /-- Add a directive to a class. -/
  | annotate (c : Nat) (d : Directive)
  /-- Other files are found from now on. -/
  | refile (files : FileTree)

namespace Call

/-- Does the call need a policy? -/
def settles (e : Engine) : Call ε σ → Bool
  | .ensure _ => true
  | .visit u _ => !e.excludes u.name
  | .annotate _ _ | .refile _ => false

/-- The source that comes with a call. -/
def given : Call ε σ → Option Source
  | .ensure given => given
  | _ => none

end Call

namespace Host

/-- One call; `own` is the outlet of the engine. -/
def call (own : Outlet ε σ) (h : Host σ) : Call ε σ → Host σ
  | .ensure given => (h.ensureInitialised own given).2
  | .visit u outlet => (h.visit (outlet.getD own) u).2
  | .annotate c d => { h with pool := Edit.addDirective c d h.pool }
  | .refile files => { h with files }

/-- One call after the other. -/
def run (own : Outlet ε σ) (calls : List (Call ε σ)) (h : Host σ) : Host σ :=
  calls.foldl (call own) h

variable {own : Outlet ε σ} {h : Host σ} {c : Call ε σ}

theorem engine_walkUnder (p : Policy) (outlet : Outlet ε σ) (u : SourceUnit) (h : Host σ) :
    (h.walkUnder p outlet u).2.engine = h.engine := rfl

/-- **What one call does to the engine.**  The first call that needs a policy fixes it; nothing else
happens to an engine. -/
theorem engine_call :
    (h.call own c).engine
      = if h.engine.policy = none ∧ c.settles h.engine = true
        then h.engine.configured h.files c.given else h.engine := by
  have hensure : ∀ (outlet : Outlet ε σ) (given : Option Source),
      (h.ensureInitialised outlet given).2.engine
        = if h.engine.policy = none then h.engine.configured h.files given else h.engine := by
    intro outlet given
    cases hp : h.engine.policy with
    | none => rw [ensureInitialised_of_none hp, initialise_eq, if_pos rfl]
    | some p => rw [ensureInitialised_of_some hp, if_neg (by simp)]
  cases c with
  | ensure given => simpa [call, Call.settles, Call.given] using hensure own given
  | visit u outlet =>
    cases hx : h.engine.excludes u.name with
    | true => simp [call, Call.settles, hx, visit_of_excluded hx]
    | false =>
      rw [call, visit_of_included hx, engine_walkUnder, hensure]
      simp [Call.settles, Call.given, hx]
  | annotate c d => simp [call, Call.settles]
  | refile files => simp [call, Call.settles]

/-- **What one call does to the configuration events.**  No more of them are recorded than
questions are asked. -/
theorem configEvents_call (own : Outlet ε σ) (h : Host σ) (c : Call ε σ) :
    ((h.call own c).trace.eventsOf .configInit).length + h.engine.asked
      ≤ (h.trace.eventsOf .configInit).length + (h.call own c).engine.asked := by
  have hensure : ∀ (outlet : Outlet ε σ) (given : Option Source),
      ((h.ensureInitialised outlet given).2.trace.eventsOf .configInit).length + h.engine.asked
        ≤ (h.trace.eventsOf .configInit).length
          + (h.ensureInitialised outlet given).2.engine.asked := by
    intro outlet given
    cases hp : h.engine.policy with
    | none =>
      have := Trace.length_eventsOf_record (.configured (.bool ((h.asks given).ask h.files).1.isSome)
        ((h.asks given).policy h.files).toValue) none .configInit h.trace
      rw [ensureInitialised_of_none hp, initialise_eq, Engine.asked_configured]
      simp only
      omega
    | some p => simp only [ensureInitialised_of_some hp, Nat.le_refl]
  cases c with
  | ensure given => exact hensure own given
  | visit u outlet =>
    rw [call]
    cases hx : h.engine.excludes u.name with
    | true =>
      have hskip : (h.trace.record (.unitSkipped u.name) none).eventsOf .configInit
          = h.trace.eventsOf .configInit := Trace.eventsOf_record_of_ne (by simp [Happening.kind])
      simp only [visit_of_excluded hx, hskip, Nat.le_refl]
    | false =>
      have hwalk : ∀ (p : Policy) (h' : Host σ),
          (h'.walkUnder p (outlet.getD own) u).2.trace.eventsOf .configInit
            = h'.trace.eventsOf .configInit := by
        intro p h'
        exact Walk.unitOf_trace (P := fun t => t.eventsOf .configInit = h'.trace.eventsOf .configInit)
          (fun t what parent hne ht => (Trace.eventsOf_record_of_ne hne).trans ht) rfl
      rw [visit_of_included hx, hwalk, engine_walkUnder]
      exact hensure _ _
  | annotate c d => exact Nat.le_refl _
  | refile files => exact Nat.le_refl _

/-! ## 4. Runs -/

theorem run_append (front rest : List (Call ε σ)) (h : Host σ) :
    h.run own (front ++ rest) = (h.run own front).run own rest := by
  simp only [run, List.foldl_append]

/-- An engine with a policy keeps it, and asks no more. -/
theorem engine_run_of_some {p : Policy} :
    ∀ (calls : List (Call ε σ)) {h : Host σ}, h.engine.policy = some p →
      (h.run own calls).engine = h.engine
  | [], _, _ => rfl
  | c :: calls, h, hp => by
    have hc : (h.call own c).engine = h.engine := by
      rw [engine_call, if_neg (by simp [hp])]
    exact (engine_run_of_some calls (hc ▸ hp)).trans hc

/-- Calls that need no policy leave the engine as it is. -/
theorem engine_run_of_spared :
    ∀ (calls : List (Call ε σ)) {h : Host σ}, (∀ c ∈ calls, c.settles h.engine = false) →
      (h.run own calls).engine = h.engine
  | [], _, _ => rfl
  | c :: calls, h, hs => by
    have hc : (h.call own c).engine = h.engine := by
      rw [engine_call, if_neg (by simp [hs c])]
    have hrest : ∀ d ∈ calls, d.settles (h.call own c).engine = false := by
      intro d hd
      rw [hc]
      exact hs d (List.mem_cons_of_mem c hd)
    exact (engine_run_of_spared calls hrest).trans hc

/-- The first call that needs a policy decides what the engine is from then on. -/
theorem engine_run_of_first (own : Outlet ε σ) {front : List (Call ε σ)} (rest : List (Call ε σ))
    (hfresh : h.engine.policy = none) (hfront : ∀ d ∈ front, d.settles h.engine = false)
    (hc : c.settles h.engine = true) :
    (h.run own (front ++ c :: rest)).engine
      = h.engine.configured (h.run own front).files c.given := by
  have he : (h.run own front).engine = h.engine := engine_run_of_spared front hfront
  have hcall : ((h.run own front).call own c).engine
      = h.engine.configured (h.run own front).files c.given := by
    rw [engine_call, he, if_pos ⟨hfresh, hc⟩]
  have hpolicy := Engine.policy_configured (h.run own front).files c.given h.engine
  rw [← hcall] at hpolicy
  rw [run_append]
  exact (engine_run_of_some rest hpolicy).trans hcall

/-- Either no call of a run needs a policy, or one is the first to do so. -/
theorem spared_or_first (e : Engine) (calls : List (Call ε σ)) :
    (∀ c ∈ calls, c.settles e = false) ∨
      ∃ front c rest, calls = front ++ c :: rest ∧ (∀ d ∈ front, d.settles e = false) ∧
        c.settles e = true := by
  cases hf : calls.find? (Call.settles e) with
  | none =>
    left
    intro c hc
    simpa using List.find?_eq_none.mp hf c hc
  | some c =>
    right
    obtain ⟨hc, front, rest, hcalls, hfront⟩ := List.find?_eq_some_iff_append.mp hf
    exact ⟨front, c, rest, hcalls, fun d hd => by simpa using hfront d hd, hc⟩

theorem configEvents_run (own : Outlet ε σ) :
    ∀ (calls : List (Call ε σ)) (h : Host σ),
      ((h.run own calls).trace.eventsOf .configInit).length + h.engine.asked
        ≤ (h.trace.eventsOf .configInit).length + (h.run own calls).engine.asked
  | [], _ => Nat.le_refl _
  | c :: calls, h => by
    have h1 := configEvents_call own h c
    have h2 := configEvents_run own calls (h.call own c)
    have hrun : h.run own (c :: calls) = (h.call own c).run own calls := rfl
    rw [hrun]
    omega

/-- **The policy is fixed once.**  In a run of an engine that has no policy yet, a source is asked
at most once and at most one configuration event is recorded.  The engine stays without a policy
exactly as long as no call needs one, as visits to excluded units do not.  The first call that
does decides: the policy is that of the source which came with the call, or else of the engine's
own, as the files are then.  From then on this policy governs the engine whatever is called, and
no source is asked again. -/
theorem run_fixes_policy_once (own : Outlet ε σ) (h : Host σ) (hfresh : h.engine.policy = none)
    (calls : List (Call ε σ)) :
    (h.run own calls).engine.asked ≤ h.engine.asked + 1 ∧
      ((h.run own calls).trace.eventsOf .configInit).length
        ≤ (h.trace.eventsOf .configInit).length + 1 ∧
      ((h.run own calls).engine.policy = none ↔ ∀ c ∈ calls, c.settles h.engine = false) ∧
      ∀ front c rest, calls = front ++ c :: rest → (∀ d ∈ front, d.settles h.engine = false) →
        c.settles h.engine = true →
        let now := h.run own front
        let p := (c.given.getD h.engine.source).policy now.files
        (∀ given, c = .ensure given → (now.ensureInitialised own given).1 = p) ∧
          (∀ u outlet, c = .visit u outlet → now.visit (outlet.getD own) u
            = (now.ensureInitialised (outlet.getD own) none).2.walkUnder p (outlet.getD own) u) ∧
          ∀ mid tail, rest = mid ++ tail →
            Governed ε p (h.run own (front ++ c :: mid)) ∧
              (h.run own (front ++ c :: mid)).engine.asked = h.engine.asked + 1 := by
  have hevents := configEvents_run own calls h
  have hasked : (h.run own calls).engine.asked ≤ h.engine.asked + 1 ∧
      ((h.run own calls).engine.policy = none ↔ ∀ c ∈ calls, c.settles h.engine = false) := by
    rcases spared_or_first h.engine calls with hs | ⟨front, c, rest, rfl, hfront, hc⟩
    · rw [engine_run_of_spared calls hs]
      exact ⟨Nat.le_succ _, iff_of_true hfresh hs⟩
    · rw [engine_run_of_first own rest hfresh hfront hc, Engine.asked_configured,
        Engine.policy_configured]
      refine ⟨Nat.le_refl _, iff_of_false (by simp) (fun hall => ?_)⟩
      rw [hall c (by simp)] at hc
      exact absurd hc (by simp)
  refine ⟨hasked.1, by omega, hasked.2, ?_⟩
  rintro front c rest rfl hfront hc now p
  have hnow : now.engine = h.engine := engine_run_of_spared front hfront
  have hnone : now.engine.policy = none := by rw [hnow, hfresh]
  have hdecides : ∀ (outlet : Outlet ε σ), (now.ensureInitialised outlet c.given).1 = p := by
    intro outlet
    rw [ensureInitialised_of_none hnone, initialise_eq, asks, hnow]
  refine ⟨?_, ?_, ?_⟩
  · rintro given rfl
    exact hdecides own
  · rintro u outlet rfl
    have hx : now.engine.excludes u.name = false := by
      rw [hnow]
      simpa [Call.settles] using hc
    rw [visit_of_included hx]
    exact congrArg (fun q => (now.ensureInitialised (outlet.getD own) none).2.walkUnder q
      (outlet.getD own) u) (hdecides (outlet.getD own))
  · intro mid tail _
    have he := engine_run_of_first own mid hfresh hfront hc
    refine ⟨governed_of_some ?_, ?_⟩
    · rw [he, Engine.policy_configured]
    · rw [he, Engine.asked_configured]

/-- A script is visited, then the policy is asked for while the source fails; a source that would
answer comes too late. -/
theorem run_fixes_policy_once_after_failure :
    ∃ (h : Host Collector) (calls : List (Call Full Collector)),
      h.engine = { source := .failing .system } ∧ h.engine.policy = none ∧
      calls = [.visit ⟨"Script1", []⟩ none, .ensure none,
        .ensure (some (.fixed (.table [("defAllowed", .bool false)])))] ∧
      Governed Full {} (h.run Collector.outlet calls) ∧
      (h.run Collector.outlet calls).engine.asked = 1 := by
  have hrun := (run_fixes_policy_once Collector.outlet
    { engine := { source := .failing .system }, sink := ({} : Collector) } rfl
    [.visit ⟨"Script1", []⟩ none, .ensure none,
      .ensure (some (.fixed (.table [("defAllowed", .bool false)])))]).2.2.2
    [.visit ⟨"Script1", []⟩ none] (.ensure none)
    [.ensure (some (.fixed (.table [("defAllowed", .bool false)])))] rfl
    (by decide) rfl
  exact ⟨_, _, rfl, rfl, rfl, hrun.2.2 _ [] (List.append_nil _).symm⟩

end Host

end TypingPolicy
