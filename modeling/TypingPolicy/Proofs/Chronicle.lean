import TypingPolicy.Proofs.VisitOrder

/-!
# The trace tells what happened

A visit keeps four records of what it decides: the two name lists of its result, the number of
reports, what the outlet was handed, and the trace.  They are written at different places.  Here
the trace of a visit is put down line by line, on the classes as they were before it
(`Policy.account`); the other three are then read off that list:

* `happenings_settledPool`: a walk, which sees each class as it left it when it was there last,
  records just these lines;
* `skippedName_happenings`, `injectedName_happenings`, `complaint_happenings`: of each kind there
  are as many lines as the other records have entries, in the same order.

The main statement is `visit_tells`.
-/

namespace TypingPolicy

variable {ε σ : Type}

/-! ## 1. The account of a walk -/

namespace Policy

/-- What is told of class number `c` when it comes up and the places `met` have been there before. -/
def entryAt (p : Policy) (met : List Nat) (c : Nat) (k : ClassDecl) : List Happening :=
  if p.exempts k.name then [.classSkipped k.name "whitelist"]
  else if p.skipDefaultPackage && k.inDefaultPackage then
    [.classSkipped k.name "default_package"]
  else
    (if k.isMarked = true ∨ c ∈ met then []
      else [.injected k.name p.injectedExtensions (some ⟨c, k.directives.length⟩)])
      ++ (p.findings c k).map Violation.happening

/-- What is told of a walk through the places listed, after the places `met`. -/
def account (p : Policy) (pool : List ClassDecl) : List Nat → List Nat → List Happening
  | _, [] => []
  | met, c :: rest => pool[c]?.elim [] (p.entryAt met c) ++ account p pool (met ++ [c]) rest

variable (p : Policy)

theorem skipReason_of_skips {p : Policy} {k : ClassDecl} (h : p.Skips k) :
    ∃ reason, p.skipReason k = some reason :=
  Option.ne_none_iff_exists'.mp fun hn => skipReason_eq_none_iff.mp hn h

theorem skipReason_settled (k : ClassDecl) : p.skipReason (p.settled k) = p.skipReason k := by
  unfold settled
  split <;> rfl

theorem entryAt_of_skipped {k : ClassDecl} {reason : SkipReason} (met : List Nat) (c : Nat)
    (h : p.skipReason k = some reason) :
    p.entryAt met c k = [.classSkipped k.name reason.label] := by
  unfold skipReason at h
  unfold entryAt
  split
  · rename_i hw
    rw [if_pos hw] at h
    obtain rfl := Option.some.inj h
    rfl
  · rename_i hw
    rw [if_neg hw] at h
    split
    · rename_i hd
      rw [if_pos hd] at h
      obtain rfl := Option.some.inj h
      rfl
    · rename_i hd
      rw [if_neg hd] at h
      exact absurd h.symm (Option.some_ne_none _)

theorem entryAt_of_treated {k : ClassDecl} (met : List Nat) (c : Nat) (h : p.skipReason k = none) :
    p.entryAt met c k
      = (if c ∈ met then [] else p.injection c k) ++ (p.findings c k).map Violation.happening := by
  have hs : ¬ p.Skips k := skipReason_eq_none_iff.mp h
  have hpackage : ¬ (p.skipDefaultPackage && k.inDefaultPackage) = true := by
    intro hd
    rw [Bool.and_eq_true, inDefaultPackage_iff] at hd
    exact hs (Or.inr hd)
  have hinjects : p.Injects k ↔ ¬ k.isMarked = true := by
    rw [Injects, Bool.not_eq_true]
    exact and_iff_right hs
  unfold entryAt injection
  rw [if_neg (by simp [exempts_of_not_skips hs]), if_neg hpackage]
  congr 1
  by_cases hc : c ∈ met <;> by_cases hm : k.isMarked = true <;> simp [hc, hm, hinjects]

/-- A class that was met before is seen as it was left then, and the account knows it. -/
theorem happeningsAt_seen (met : List Nat) (c : Nat) (k : ClassDecl) :
    p.happeningsAt c (if c ∈ met then p.settled k else k) = p.entryAt met c k := by
  have hseen : ∀ k', k' = (if c ∈ met then p.settled k else k) →
      k'.name = k.name ∧ p.skipReason k' = p.skipReason k ∧ p.findings c k' = p.findings c k ∧
        p.injection c k' = if c ∈ met then [] else p.injection c k := by
    rintro k' rfl
    by_cases hc : c ∈ met
    · simp only [if_pos hc]
      exact ⟨name_settled p k, skipReason_settled p k, findings_settled p c k,
        if_neg (not_injects_settled p k)⟩
    · rw [if_neg hc, if_neg hc]
      exact ⟨rfl, rfl, rfl, rfl⟩
  obtain ⟨hname, hreason, hfindings, hinjection⟩ := hseen _ rfl
  unfold happeningsAt
  cases hr : p.skipReason k with
  | some reason =>
    rw [hreason, hr, hname]
    exact (p.entryAt_of_skipped met c hr).symm
  | none =>
    rw [hreason, hr, hfindings, hinjection]
    exact (p.entryAt_of_treated met c hr).symm

/-- **The account of a walk** is read off the classes as they were before the places `met`. -/
theorem happenings_settledPool (pool : List ClassDecl) :
    ∀ (cs met : List Nat), p.happenings (p.settledPool met pool) cs = p.account pool met cs
  | [], _ => rfl
  | c :: cs, met => by
    rw [happenings, account, settledPool_settledPool, happenings_settledPool pool cs,
      getElem?_settledPool]
    congr 1
    cases pool[c]? with
    | none => rfl
    | some k => exact p.happeningsAt_seen met c k

theorem happenings_eq_account (pool : List ClassDecl) (cs : List Nat) :
    p.happenings pool cs = p.account pool [] cs := by
  rw [← happenings_settledPool, settledPool_nil]

end Policy

/-! ## 2. The other records, read off the account -/

namespace Happening

/-- The class that was left alone. -/
def skippedName : Happening → Option String
  | .classSkipped name _ => some name
  | _ => none

/-- The class that got a directive. -/
def injectedName : Happening → Option String
  | .injected name _ _ => some name
  | _ => none

/-- The declaration that was reported, and the message. -/
def complaint : Happening → Option (String × String)
  | .violated name _ message => some (name, message)
  | _ => none

end Happening

namespace Policy

variable (p : Policy)

/-- What is picked out of the account of a walk, if it can be said class by class. -/
theorem filterMap_happenings {β : Type} {f : Happening → Option β}
    {g : List ClassDecl → List Nat → List β} (hnil : ∀ pool, g pool [] = [])
    (hone : ∀ pool c, g pool [c]
      = (pool[c]?.elim [] (p.happeningsAt c)).filterMap f)
    (hcons : ∀ pool c cs, g pool (c :: cs) = g pool [c] ++ g (p.settledPool [c] pool) cs) :
    ∀ (cs : List Nat) (pool : List ClassDecl), (p.happenings pool cs).filterMap f = g pool cs
  | [], pool => (hnil pool).symm
  | c :: cs, pool => by
    rw [happenings, List.filterMap_append, filterMap_happenings hnil hone hcons cs, hcons, hone]

/-- Nothing is picked out of a treated class but by way of its injection and its violations. -/
theorem filterMap_happeningsAt {β : Type} (f : Happening → Option β) {c : Nat} {k : ClassDecl}
    (hs : ¬ p.Skips k) :
    (p.happeningsAt c k).filterMap f
      = (p.injection c k).filterMap f
        ++ (p.findings c k).filterMap fun v => f v.happening := by
  rw [happeningsAt, skipReason_eq_none_iff.mpr hs]
  simp only [List.filterMap_append, List.filterMap_map, Function.comp_def]

theorem skippedName_happenings (pool : List ClassDecl) (cs : List Nat) :
    (p.happenings pool cs).filterMap Happening.skippedName = p.skippedNames pool cs := by
  refine p.filterMap_happenings (fun _ => rfl) ?_ ?_ cs pool
  · intro pool c
    rw [skippedNames_singleton]
    cases pool[c]? with
    | none => rfl
    | some k =>
      by_cases hs : p.Skips k
      · obtain ⟨reason, hr⟩ := skipReason_of_skips hs
        simp [happeningsAt, hr, hs, Happening.skippedName]
      · have hinjection : (p.injection c k).filterMap Happening.skippedName = [] := by
          unfold injection
          split <;> rfl
        simp only [Option.elim_some, if_neg hs, filterMap_happeningsAt p _ hs, hinjection]
        simp [Violation.happening, Happening.skippedName]
  · intro pool c cs
    have happend := skippedNames_append p pool [c] cs
    rw [skippedNames_settledPool]
    exact happend

theorem injectedName_happenings (pool : List ClassDecl) (cs : List Nat) :
    (p.happenings pool cs).filterMap Happening.injectedName = p.injectedNames pool cs := by
  refine p.filterMap_happenings (fun _ => rfl) ?_ (p.injectedNames_cons) cs pool
  intro pool c
  rw [injectedNames_singleton]
  cases pool[c]? with
  | none => rfl
  | some k =>
    by_cases hs : p.Skips k
    · obtain ⟨reason, hr⟩ := skipReason_of_skips hs
      have hi : ¬ p.Injects k := fun hi => hi.1 hs
      simp [happeningsAt, hr, hi, Happening.injectedName]
    · have hinjection : (p.injection c k).filterMap Happening.injectedName
          = if p.Injects k then [k.name] else [] := by
        unfold injection
        split <;> rfl
      simp only [Option.elim_some, filterMap_happeningsAt p _ hs, hinjection]
      simp [Violation.happening, Happening.injectedName]

theorem complaint_happenings (pool : List ClassDecl) (cs : List Nat) :
    (p.happenings pool cs).filterMap Happening.complaint
      = (p.unitFindings pool cs).map fun v => (v.subject.name, v.message) := by
  refine p.filterMap_happenings
    (g := fun pool cs => (p.unitFindings pool cs).map fun v => (v.subject.name, v.message))
    (fun _ => rfl) ?_ ?_ cs pool
  · intro pool c
    rw [unitFindings_singleton]
    cases pool[c]? with
    | none => rfl
    | some k =>
      by_cases hs : p.Skips k
      · obtain ⟨reason, hr⟩ := skipReason_of_skips hs
        simp [happeningsAt, hr, hs, Happening.complaint]
      · have hinjection : (p.injection c k).filterMap Happening.complaint = [] := by
          unfold injection
          split <;> rfl
        simp only [Option.elim_some, if_neg hs, filterMap_happeningsAt p _ hs, hinjection]
        simp [Violation.happening, Happening.complaint]
  · intro pool c cs
    rw [unitFindings_cons, unitFindings_settledPool, List.map_append]

end Policy

theorem Trace.filterMap_numbered {β : Type} (f : Happening → Option β) (parent : Option Nat)
    (start : Nat) (hs : List Happening) :
    (Trace.numbered parent start hs).filterMap (fun e => f e.what) = hs.filterMap f := by
  conv => rhs; rw [← Trace.map_what_numbered parent start hs, List.filterMap_map]
  rfl

/-- Every event of a violation is a complaint, and no other event is. -/
theorem Trace.length_violations (events : List Event) :
    (events.filter fun e => e.what.kind = .violation).length
      = (events.filterMap fun e => e.what.complaint).length := by
  rw [List.length_filterMap_eq_countP, List.countP_eq_length_filter]
  congr 2
  funext e
  cases e.what <;> rfl

/-! ## 3. A visit that returns -/

namespace Host

variable {outlet : Outlet ε σ} {u : SourceUnit} {h after : Host σ} {result : WalkResult}

/-- The event of a policy that is decided on, if that is still to come. -/
def opening (h : Host σ) : List Event :=
  match h.engine.policy with
  | some _ => []
  | none =>
    [⟨h.trace.issued, none,
      .configured (.bool (h.engine.source.ask h.files).1.isSome) h.ruling.toValue⟩]

/-- The events of a visit to `u`, in the order recorded, and numbered from where the trace stands:
the policy, if it is decided on now, then the unit, and below it what is told of its classes. -/
def tells (h : Host σ) (u : SourceUnit) : List Event :=
  let start := h.trace.issued + h.opening.length
  h.opening ++ ⟨start, none, .unitStarted u.name⟩ ::
    Trace.numbered (some start) (start + 1) (h.ruling.account h.pool [] u.classes)

theorem trace_ensureInitialised (outlet : Outlet ε σ) (hrec : h.trace.enabled = true) :
    (h.ensureInitialised outlet none).2.trace
      = { h.trace with
          issued := h.trace.issued + h.opening.length
          events := h.trace.events ++ h.opening } := by
  cases hp : h.engine.policy with
  | none =>
    have hruling : h.engine.source.policy h.files = h.ruling := by
      rw [ruling, hp, Option.getD_none]
    rw [ensureInitialised_of_none hp, initialise_eq, opening, hp]
    simp only [Trace.record, hrec, if_true, asks, Option.getD_none, hruling, List.length_cons,
      List.length_nil]
  | some p =>
    rw [ensureInitialised_of_some hp, opening, hp, List.append_nil]
    rfl

/-- A visit that returns was refused no report. -/
theorem accept_of_visit (hx : h.engine.excludes u.name = false)
    (hv : h.visit outlet u = (.ok result, after)) :
    outlet.accept ((h.ruling.unitFindings h.pool u.classes).map Violation.report)
      (outlet.debugAll h.debugLines h.sink) = .ok after.sink := by
  obtain ⟨hp, -, -, hsink⟩ := ensureInitialised_ruling outlet h
  have hpool := pool_ensureInitialised outlet none h
  rw [visit_of_included hx, hp, walkUnder, hpool, hsink, Prod.mk.injEq] at hv
  obtain ⟨hresult, hafter⟩ := hv
  rw [← hafter]
  exact Walk.accept_of_unitOf (Prod.ext hresult rfl)

/-- The events of a visit that is refused no report. -/
theorem events_visit_of_accept {sink : σ} (hrec : h.trace.enabled = true)
    (hx : h.engine.excludes u.name = false)
    (hs : outlet.accept ((h.ruling.unitFindings h.pool u.classes).map Violation.report)
      (outlet.debugAll h.debugLines h.sink) = .ok sink) :
    (h.visit outlet u).2.trace.events = h.trace.events ++ h.tells u := by
  rw [visit_eq_of_accept hx hs, trace_ensureInitialised outlet hrec, Policy.happenings_eq_account,
    Trace.events_recordAll _ (by simpa using hrec)]
  simp [Trace.record, hrec, tells]

/-- Nothing is picked out of the events of a visit but by way of its classes. -/
theorem filterMap_tells {β : Type} {f : Happening → Option β} (h : Host σ) (u : SourceUnit)
    (hpolicy : ∀ found config, f (.configured found config) = none)
    (hunit : ∀ name, f (.unitStarted name) = none) :
    (h.tells u).filterMap (fun e => f e.what)
      = (h.ruling.happenings h.pool u.classes).filterMap f := by
  have hopening : h.opening.filterMap (fun e => f e.what) = [] := by
    unfold opening
    cases h.engine.policy with
    | none => simp [hpolicy]
    | some p => rfl
  rw [tells, List.filterMap_append, hopening, List.nil_append,
    List.filterMap_cons_none (f := fun e : Event => f e.what) (hunit u.name),
    Trace.filterMap_numbered, Policy.happenings_eq_account]

/-- **The trace tells what happened.**  A visit that returns has added to a recording trace exactly
the events of `tells`: first the policy, if there was none before; then the unit; then, for each
class in the order of the unit, either that it was left alone and why, or the directive that it got,
if it got one, and after that one event for each report on it.  All of these stand below the event
of the unit.  They are the other records of the visit once more: the classes left alone are the
skipped ones of the result, those that got a directive are the injected ones, and the violations are
what the outlet was handed, as many as the result counts. -/
theorem visit_tells (outlet : Outlet ε σ) (u : SourceUnit) (h : Host σ)
    (hrec : h.trace.enabled = true) (hx : h.engine.excludes u.name = false) (result : WalkResult)
    (after : Host σ) (hv : h.visit outlet u = (.ok result, after)) :
    let told := h.tells u
    after.trace.events = h.trace.events ++ told ∧
      told.filterMap (fun e => e.what.skippedName) = result.skipped ∧
      told.filterMap (fun e => e.what.injectedName) = result.injected ∧
      told.filterMap (fun e => e.what.complaint)
        = (h.heard outlet u).map (fun r => (r.subject.name, r.message)) ∧
      (told.filter fun e => e.what.kind = .violation).length = result.reported := by
  intro told
  have hs := accept_of_visit hx hv
  have hevents := events_visit_of_accept hrec hx hs
  obtain ⟨hresult, -, -⟩ := visit_of_accept hx hs
  rw [hv] at hevents hresult
  obtain rfl := Except.ok.inj hresult
  have hcomplaints : told.filterMap (fun e => e.what.complaint)
      = (h.ruling.unitFindings h.pool u.classes).map fun v => (v.subject.name, v.message) := by
    rw [filterMap_tells h u (fun _ _ => rfl) (fun _ => rfl), Policy.complaint_happenings]
  refine ⟨hevents, ?_, ?_, ?_, ?_⟩
  · rw [filterMap_tells h u (fun _ _ => rfl) (fun _ => rfl), Policy.skippedName_happenings]
  · rw [filterMap_tells h u (fun _ _ => rfl) (fun _ => rfl), Policy.injectedName_happenings]
  · rw [hcomplaints, heard_of_accept hx hs, List.map_map]
    rfl
  · rw [Trace.length_violations, hcomplaints, List.length_map]

/-- The first visit of an engine, to an exempt class, one without a package, and one with an untyped
field that the unit lists twice. -/
theorem visit_tells_first :
    ∃ (h after : Host Collector) (result : WalkResult),
      h.engine.policy = none ∧ h.trace.enabled = true ∧
      h.visit Collector.outlet ⟨"Pair.groovy", [0, 1, 2, 2]⟩ = (.ok result, after) ∧
      after.trace.events.map (fun e => (e.id, e.parent, e.what.kind))
        = [(0, none, .configInit), (1, none, .unitStart), (2, some 1, .classSkipped),
           (3, some 1, .classSkipped), (4, some 1, .directiveInjected), (5, some 1, .violation),
           (6, some 1, .violation)] ∧
      result.skipped = ["app.Exempt", "Bare"] ∧ result.injected = ["app.Pair"] ∧
      result.reported = 2 := by
  let h : Host Collector :=
    { engine := { source := .fixed (.table [("dynamicCompileWhiteList", .list [.text "Exempt"]),
                    ("defAllowed", .bool false), ("skipDefaultPackage", .bool true)]) }
      pool := [{ name := "app.Exempt", package := some "app" }, { name := "Bare" },
        { name := "app.Pair", package := some "app", fields := [{ name := "left", untyped := true }] }]
      trace := {}
      sink := {} }
  obtain ⟨hresult, -, -⟩ := visit_of_accept (h := h) (u := ⟨"Pair.groovy", [0, 1, 2, 2]⟩) rfl
    (Collector.accept_of_unlimited rfl _)
  obtain ⟨hevents, hskipped, hinjected, -, hreported⟩ := visit_tells Collector.outlet
    ⟨"Pair.groovy", [0, 1, 2, 2]⟩ h rfl rfl _ _ (Prod.ext hresult rfl)
  refine ⟨h, _, _, rfl, rfl, Prod.ext hresult rfl, ?_, ?_, ?_, ?_⟩
  · rw [hevents]
    decide +kernel
  · rw [← hskipped]
    decide +kernel
  · rw [← hinjected]
    decide +kernel
  · rw [← hreported]
    decide +kernel

end Host

end TypingPolicy
