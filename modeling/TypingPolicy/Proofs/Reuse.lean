import TypingPolicy.Proofs.Fallback

/-!
# One engine for all units, or a new one for each

A host may keep one engine for all its units, or make a new one for each of them and throw it away
afterwards (`enforce`).  In the first case the policy is decided on once and kept; in the second it
is decided on again and again, while the classes that earlier units have changed stay changed.

The two go in step.  What they have in common at each point is `Host.Alike`, the relation under
which visits cannot be told apart: the same policy is to rule, over the same classes, with the same
sink.  An engine that was just made and one that has been through some visits satisfy it, because
no visit changes which policy is to rule (`visit_frame`).

The main statement is `visits_eq_enforceAll`.
-/

namespace TypingPolicy

variable {ε σ : Type}

/-- Debug lines go elsewhere. -/
def Outlet.Undisturbed (outlet : Outlet ε σ) : Prop := ∀ line s, outlet.debug line s = s

theorem Collector.undisturbed_outlet : outlet.Undisturbed := fun _ _ => rfl

/-- Where debug lines go elsewhere, they make no difference at all. -/
theorem Outlet.Undisturbed.discreet {outlet : Outlet ε σ} (h : outlet.Undisturbed) :
    outlet.Discreet Eq where
  blind := outlet.blind_eq
  left line s _ hst := (h line s).trans hst
  right line _ t hst := hst.trans (h line t).symm

/-- Treats one unit after the other, each with an engine of its own: the results, and the classes and
the sink in the end. -/
def enforceAll (outlet : Outlet ε σ) (config : Value) :
    List SourceUnit → List ClassDecl → σ → List (Except ε WalkResult) × List ClassDecl × σ
  | [], pool, sink => ([], pool, sink)
  | u :: us, pool, sink =>
    let (result, after) := enforce outlet config u pool sink
    let (results, last) := enforceAll outlet config us after.pool after.sink
    (result :: results, last)

namespace Host

/-- A host with an engine that was just made. -/
def fresh (config : Value) (pool : List ClassDecl) (sink : σ) : Host σ :=
  { engine := { source := .fixed config }, pool, sink }

variable {outlet : Outlet ε σ} {config : Value} {h : Host σ}

/-- What a value decides on does not depend on files. -/
theorem policy_fixed (files files' : FileTree) (config : Value) :
    (Source.fixed config).policy files = (Source.fixed config).policy files' := by
  cases config <;> rfl

/-- After a visit, a new engine would do as well. -/
theorem alike_fresh_visit {pool : List ClassDecl} {sink : σ} (hquiet : outlet.Undisturbed)
    (ha : Alike Eq h (fresh config pool sink)) (u : SourceUnit) :
    (h.visit outlet u).1 = (enforce outlet config u pool sink).1 ∧
      Alike Eq (h.visit outlet u).2
        (fresh config (enforce outlet config u pool sink).2.pool
          (enforce outlet config u pool sink).2.sink) := by
  obtain ⟨hresult, hnext⟩ := ha.visit hquiet.discreet u
  obtain ⟨hruling, hexcludes⟩ := visit_frame outlet u (fresh config pool sink)
  exact ⟨hresult, hnext.ruling.trans hruling, hnext.excludes.trans hexcludes, hnext.pool, hnext.sink⟩

/-- **Both ways go in step**, unit by unit. -/
theorem alike_fresh_visits (hquiet : outlet.Undisturbed) :
    ∀ (us : List SourceUnit) {h : Host σ} {pool : List ClassDecl} {sink : σ},
      Alike Eq h (fresh config pool sink) →
      (h.visits (us.map (·, outlet))).1.map (·.result) = (enforceAll outlet config us pool sink).1 ∧
        (h.visits (us.map (·, outlet))).2.pool = (enforceAll outlet config us pool sink).2.1 ∧
        (h.visits (us.map (·, outlet))).2.sink = (enforceAll outlet config us pool sink).2.2
  | [], _, _, _, ha => ⟨rfl, ha.pool, ha.sink⟩
  | u :: us, h, pool, sink, ha => by
    obtain ⟨hresult, hnext⟩ := alike_fresh_visit hquiet ha u
    obtain ⟨ihresults, ihpool, ihsink⟩ := alike_fresh_visits hquiet us hnext
    refine ⟨?_, ihpool, ihsink⟩
    simp only [List.map_cons, visits, enforceAll, hresult, ihresults]

/-- Where the outlet never fails, a visit returns a result. -/
theorem visit_returns {I : σ → Prop} (u : SourceUnit) (hout : outlet.Steady I) (hI : I h.sink) :
    (∃ result, (h.visit outlet u).1 = .ok result) ∧ I (h.visit outlet u).2.sink := by
  obtain ⟨houtcome, -, -, hI'⟩ := visit_spec u hout hI
  refine ⟨?_, hI'⟩
  cases hr : (h.visit outlet u).1 with
  | ok result => exact ⟨result, rfl⟩
  | error e =>
    rw [hr] at houtcome
    exact absurd (congrArg Outcome.result houtcome) (by simp [Outcome.withoutInjected, Except.map])

theorem enforceAll_returns {I : σ → Prop} (hout : outlet.Steady I) (config : Value) :
    ∀ (us : List SourceUnit) (pool : List ClassDecl) {sink : σ}, I sink →
      ∃ results : List WalkResult,
        (enforceAll outlet config us pool sink).1 = results.map Except.ok
  | [], _, _, _ => ⟨[], rfl⟩
  | u :: us, pool, sink, hI => by
    have hone : (∃ result, (enforce outlet config u pool sink).1 = .ok result) ∧
        I (enforce outlet config u pool sink).2.sink :=
      visit_returns (h := fresh config pool sink) u hout hI
    obtain ⟨⟨result, hresult⟩, hI'⟩ := hone
    obtain ⟨results, hresults⟩ := enforceAll_returns hout config us
      (enforce outlet config u pool sink).2.pool hI'
    refine ⟨result :: results, ?_⟩
    simp only [enforceAll, List.map_cons, hresult, hresults]

/-- **One engine does what many would do.**  Whatever the configuration, visiting units one after the
other on one engine gives the results, the sink and the classes that come of treating each of them
with an engine of its own, on the same classes and with the same sink; it does not matter which
files there are, nor whether the one engine is traced.  This holds if units share classes, if some of
them are excluded and if reports are refused; where none is ever refused, each unit has a result. -/
theorem visits_eq_enforceAll (outlet : Outlet ε σ) (hquiet : outlet.Undisturbed) (config : Value)
    (us : List SourceUnit) (files : FileTree) (trace : Trace) (pool : List ClassDecl) (sink : σ) :
    let reused := visits (us.map (·, outlet))
      { engine := { source := .fixed config }, files, pool, trace, sink }
    let renewed := enforceAll outlet config us pool sink
    (reused.1.map (·.result) = renewed.1 ∧ reused.2.sink = renewed.2.2 ∧ reused.2.pool = renewed.2.1) ∧
      ∀ I : σ → Prop, outlet.Steady I → I sink →
        ∃ results : List WalkResult, reused.1.map (·.result) = results.map Except.ok := by
  intro reused renewed
  have halike : Alike Eq { engine := { source := .fixed config }, files, pool, trace, sink }
      (fresh config pool sink) := ⟨policy_fixed files {} config, rfl, rfl, rfl⟩
  obtain ⟨hresults, hpool, hsink⟩ := alike_fresh_visits hquiet us halike
  refine ⟨⟨hresults, hsink, hpool⟩, ?_⟩
  intro I hout hI
  obtain ⟨results, hok⟩ := enforceAll_returns hout config us pool hI
  exact ⟨results, hresults.trans hok⟩

/-- Two units share a class, and a script comes between them.  The first of the two injects it, and
both report it, however many engines there are. -/
theorem visits_eq_enforceAll_shared :
    let config : Value := .table [("defAllowed", .bool false)]
    let us : List SourceUnit := [⟨"One", [0]⟩, ⟨"Script1", [0]⟩, ⟨"Two", [0]⟩]
    let pool : List ClassDecl := [{ name := "Pair", fields := [{ name := "left", untyped := true }] }]
    let reused := visits (us.map (·, Collector.outlet))
      { engine := { source := .fixed config }, pool, sink := {} }
    let renewed := enforceAll Collector.outlet config us pool {}
    Collector.outlet.Undisturbed ∧ Collector.outlet.Steady (·.capacity = none) ∧
      reused.1.map (·.result) = renewed.1 ∧ reused.2.sink = renewed.2.2 ∧ reused.2.pool = renewed.2.1 ∧
      renewed.1 = [.ok { unit := "One", injected := ["Pair"], reported := 1 },
        .ok { unit := "Script1", excluded := true }, .ok { unit := "Two", reported := 1 }] ∧
      renewed.2.2.reports
        = List.replicate 2 ⟨"Untyped fields are not allowed.", .fieldAt 0 0, "left"⟩ := by
  intro config us pool reused renewed
  have hquiet : Collector.outlet.Undisturbed := Collector.undisturbed_outlet
  obtain ⟨⟨hresults, hsink, hpool⟩, -⟩ :=
    visits_eq_enforceAll Collector.outlet hquiet config us {} .disabled pool {}
  exact ⟨hquiet, Collector.steady_outlet, hresults, hsink, hpool, rfl, rfl⟩

end Host

end TypingPolicy
