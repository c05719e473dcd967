import Mathlib.Data.List.Perm.Basic
import TypingPolicy.Proofs.Completion
import TypingPolicy.Proofs.Lifecycle

/-!
# The order of visits does not matter

Units may share classes, and the first visit to a shared class changes it for all later ones;
the first visit of all also decides on the policy.  Still each unit is reported as if it had been
the first.  The reason is that a run of visits has a closed form, and that only its list of
injected names knows of an order:

* which policy rules is settled before the first visit (`Host.ruling`), and no visit changes it;
* what is expected of a unit (`Host.expected`) is read off the classes as they were at first;
* the classes in the end depend on which places were walked, not in which order (`visits_spec`).

The main statement is `visits_perm`.
-/

namespace TypingPolicy

variable {ε σ : Type}

/-! ## 1. Outlets that never fail -/

namespace Outlet

/-- In the states `I` the outlet refuses nothing, and nothing that it is handed leads out of `I`. -/
structure Steady (outlet : Outlet ε σ) (I : σ → Prop) : Prop where
  report : ∀ r s, I s → ∃ s', outlet.report r s = .ok s' ∧ I s'
  debug : ∀ line s, I s → I (outlet.debug line s)

variable {outlet : Outlet ε σ} {I : σ → Prop}

theorem Steady.accept (h : outlet.Steady I) :
    ∀ (rs : List Report) {s : σ}, I s → ∃ s', outlet.accept rs s = .ok s' ∧ I s'
  | [], s, hs => ⟨s, rfl, hs⟩
  | r :: rs, s, hs => by
    obtain ⟨s1, hr, hs1⟩ := h.report r s hs
    obtain ⟨s', hrs, hs'⟩ := h.accept rs hs1
    exact ⟨s', by rw [Outlet.accept, hr]; exact hrs, hs'⟩

/-- Takes debug lines one after the other. -/
def debugAll (outlet : Outlet ε σ) (lines : List String) (s : σ) : σ :=
  lines.foldl (fun s line => outlet.debug line s) s

theorem Steady.debugAll (h : outlet.Steady I) :
    ∀ (lines : List String) {s : σ}, I s → I (outlet.debugAll lines s)
  | [], _, hs => hs
  | line :: lines, s, hs => h.debugAll lines (h.debug line s hs)

/-- Debug lines are no reports. -/
theorem debugAll_logged (log : List Report) :
    ∀ (lines : List String) (s : σ),
      outlet.logged.debugAll lines (s, log) = (outlet.debugAll lines s, log)
  | [], _ => rfl
  | line :: lines, s => debugAll_logged log lines (outlet.debug line s)

end Outlet

/-- A collector without a capacity never fails. -/
theorem Collector.steady_outlet : outlet.Steady fun k => k.capacity = none where
  report r k hk := ⟨k.gained [r], by simp [outlet, add, isFull, gained, hk], hk⟩
  debug _ _ hk := hk

/-! ## 2. One visit -/

namespace Host

variable {outlet : Outlet ε σ} {u : SourceUnit} {h : Host σ}

/-- The policy that there is or, failing that, the one that the engine's source decides on. -/
def ruling (h : Host σ) : Policy := h.engine.policy.getD (h.engine.source.policy h.files)

/-- The debug lines that a visit writes before its walk. -/
def debugLines (h : Host σ) : List String :=
  match h.engine.policy with
  | some _ => []
  | none => (h.engine.source.ask h.files).2 ++ policyNotes (h.engine.source.ask h.files).1

theorem ensureInitialised_ruling (outlet : Outlet ε σ) (h : Host σ) :
    (h.ensureInitialised outlet none).1 = h.ruling ∧
      (h.ensureInitialised outlet none).2.ruling = h.ruling ∧
      (h.ensureInitialised outlet none).2.engine.excludes = h.engine.excludes ∧
      (h.ensureInitialised outlet none).2.sink = outlet.debugAll h.debugLines h.sink := by
  cases hp : h.engine.policy with
  | none =>
    have hruling : h.ruling = h.engine.source.policy h.files := by rw [ruling, hp, Option.getD_none]
    rw [ensureInitialised_of_none hp, initialise_eq, hruling, debugLines, hp]
    exact ⟨rfl, rfl, rfl, rfl⟩
  | some p =>
    have hruling : h.ruling = p := by rw [ruling, hp, Option.getD_some]
    rw [ensureInitialised_of_some hp, debugLines, hp]
    exact ⟨hruling.symm, rfl, rfl, rfl⟩

/-- No visit changes which policy rules and which units are excluded. -/
theorem visit_frame (outlet : Outlet ε σ) (u : SourceUnit) (h : Host σ) :
    (h.visit outlet u).2.ruling = h.ruling ∧
      (h.visit outlet u).2.engine.excludes = h.engine.excludes := by
  cases hx : h.engine.excludes u.name with
  | true =>
    rw [visit_of_excluded hx]
    exact ⟨rfl, rfl⟩
  | false =>
    obtain ⟨-, hruling, hexcludes, -⟩ := ensureInitialised_ruling outlet h
    rw [visit_of_included hx]
    exact ⟨hruling, hexcludes⟩

/-- A visit whose outlet goes along. -/
theorem visit_eq_of_accept {sink : σ} (hx : h.engine.excludes u.name = false)
    (hs : outlet.accept ((h.ruling.unitFindings h.pool u.classes).map Violation.report)
      (outlet.debugAll h.debugLines h.sink) = .ok sink) :
    h.visit outlet u
      = (.ok { unit := u.name
               skipped := h.ruling.skippedNames h.pool u.classes
               injected := h.ruling.injectedNames h.pool u.classes
               reported := (h.ruling.unitFindings h.pool u.classes).length },
         { (h.ensureInitialised outlet none).2 with
           pool := h.ruling.settledPool u.classes h.pool
           trace := ((h.ensureInitialised outlet none).2.trace.record (.unitStarted u.name)
             none).recordAll (h.ruling.happenings h.pool u.classes)
               (some (h.ensureInitialised outlet none).2.trace.issued)
           sink }) := by
  obtain ⟨hp, -, -, hsink⟩ := ensureInitialised_ruling outlet h
  have hpool := pool_ensureInitialised outlet none h
  have hwalk := Walk.unitOf_of_accept (p := h.ruling) (u := u)
    (s := { pool := (h.ensureInitialised outlet none).2.pool
            trace := (h.ensureInitialised outlet none).2.trace
            sink := (h.ensureInitialised outlet none).2.sink })
    (by rw [hpool, hsink]; exact hs)
  rw [visit_of_included hx, hp, walkUnder, hwalk, hpool]
  rfl

theorem visit_of_accept {sink : σ} (hx : h.engine.excludes u.name = false)
    (hs : outlet.accept ((h.ruling.unitFindings h.pool u.classes).map Violation.report)
      (outlet.debugAll h.debugLines h.sink) = .ok sink) :
    (h.visit outlet u).1
        = .ok { unit := u.name
                skipped := h.ruling.skippedNames h.pool u.classes
                injected := h.ruling.injectedNames h.pool u.classes
                reported := (h.ruling.unitFindings h.pool u.classes).length } ∧
      (h.visit outlet u).2.pool = h.ruling.settledPool u.classes h.pool ∧
      (h.visit outlet u).2.sink = sink := by
  rw [visit_eq_of_accept hx hs]
  exact ⟨rfl, rfl, rfl⟩

/-- The same host with an empty list beside its sink. -/
def listening (h : Host σ) : Host (σ × List Report) := { h with sink := (h.sink, []) }

/-- The reports that the outlet takes during a visit, in order. -/
def heard (outlet : Outlet ε σ) (u : SourceUnit) (h : Host σ) : List Report :=
  (h.listening.visit outlet.logged u).2.sink.2

theorem heard_of_excluded (hx : h.engine.excludes u.name = true) : h.heard outlet u = [] := by
  rw [heard, visit_of_excluded (h := h.listening) hx]
  rfl

theorem heard_of_accept {sink : σ} (hx : h.engine.excludes u.name = false)
    (hs : outlet.accept ((h.ruling.unitFindings h.pool u.classes).map Violation.report)
      (outlet.debugAll h.debugLines h.sink) = .ok sink) :
    h.heard outlet u = (h.ruling.unitFindings h.pool u.classes).map Violation.report := by
  have hlogged := Outlet.accept_logged [] hs
  rw [← Outlet.debugAll_logged] at hlogged
  have hvisit := visit_of_accept (h := h.listening) (u := u) hx hlogged
  rw [heard, hvisit.2.2]
  rfl

/-! ## 3. A run of visits -/

/-- Visits one unit after the other, each with an outlet of its own: the outcomes, and the host in
the end. -/
def visits : List (SourceUnit × Outlet ε σ) → Host σ → List (Outcome ε) × Host σ
  | [], h => ([], h)
  | (u, outlet) :: rest, h =>
    let (outcomes, last) := visits rest (h.visit outlet u).2
    (⟨(h.visit outlet u).1, h.heard outlet u⟩ :: outcomes, last)

/-- What is expected of a visit to `u`, whenever it takes place: result and reports. -/
def expected (h : Host σ) (u : SourceUnit) : WalkResult × List Report :=
  if h.engine.excludes u.name then ({ unit := u.name, excluded := true }, [])
  else
    ({ unit := u.name
       skipped := h.ruling.skippedNames h.pool u.classes
       reported := (h.ruling.unitFindings h.pool u.classes).length },
     (h.ruling.unitFindings h.pool u.classes).map Violation.report)

/-- The places that visits to `us` walk, one unit after the other. -/
def places (h : Host σ) (us : List SourceUnit) : List Nat :=
  (us.filter fun u => !h.engine.excludes u.name).flatMap (·.classes)

end Host

namespace Outcome

/-- An outcome but for the names of the injected classes. -/
def withoutInjected (o : Outcome ε) : Outcome ε :=
  { o with result := o.result.map fun r => { r with injected := [] } }

/-- The names of the injected classes. -/
def injected (o : Outcome ε) : List String :=
  match o.result with
  | .ok r => r.injected
  | .error _ => []

end Outcome

/-- A walk through two lists injects what the walk through the first does, and then what is left. -/
theorem Policy.injectedNames_append (p : Policy) (ds : List Nat) :
    ∀ (cs : List Nat) (pool : List ClassDecl),
      p.injectedNames pool (cs ++ ds)
        = p.injectedNames pool cs ++ p.injectedNames (p.settledPool cs pool) ds
  | [], pool => by
    rw [Policy.settledPool_nil]
    rfl
  | c :: cs, pool => by
    rw [List.cons_append, injectedNames_cons, injectedNames_append p ds cs,
      injectedNames_cons p pool c cs, settledPool_settledPool, List.append_assoc]
    rfl

namespace Host

/-- What a visit does, excluded or not: it returns what is expected, and walks its places. -/
theorem visit_spec {outlet : Outlet ε σ} {I : σ → Prop} (u : SourceUnit) {h : Host σ}
    (hout : outlet.Steady I) (hI : I h.sink) :
    Outcome.withoutInjected ⟨(h.visit outlet u).1, h.heard outlet u⟩
        = ⟨.ok (h.expected u).1, (h.expected u).2⟩ ∧
      Outcome.injected ⟨(h.visit outlet u).1, h.heard outlet u⟩
        = h.ruling.injectedNames h.pool (h.places [u]) ∧
      (h.visit outlet u).2.pool = h.ruling.settledPool (h.places [u]) h.pool ∧
      I (h.visit outlet u).2.sink := by
  cases hx : h.engine.excludes u.name with
  | true =>
    have hplaces : h.places [u] = [] := by simp [places, hx]
    rw [visit_of_excluded hx, heard_of_excluded hx, hplaces, Policy.settledPool_nil, expected,
      if_pos hx]
    exact ⟨rfl, rfl, rfl, hI⟩
  | false =>
    have hplaces : h.places [u] = u.classes := by simp [places, hx]
    obtain ⟨sink, hs, hIs⟩ := hout.accept
      ((h.ruling.unitFindings h.pool u.classes).map Violation.report)
      (hout.debugAll h.debugLines hI)
    obtain ⟨hresult, hpool, hsink⟩ := visit_of_accept hx hs
    rw [hresult, heard_of_accept hx hs, hplaces, hpool, hsink, expected, if_neg (by simp [hx])]
    exact ⟨rfl, rfl, rfl, hIs⟩

/-- Nothing is expected differently after some places have been walked. -/
theorem expected_of_settled {h h' : Host σ} {cs : List Nat} (hruling : h'.ruling = h.ruling)
    (hexcludes : h'.engine.excludes = h.engine.excludes)
    (hpool : h'.pool = h.ruling.settledPool cs h.pool) : h'.expected = h.expected := by
  funext u
  simp only [expected, hruling, hexcludes, hpool, Policy.skippedNames_settledPool,
    Policy.unitFindings_settledPool]

theorem places_cons (h : Host σ) (u : SourceUnit) (us : List SourceUnit) :
    h.places (u :: us) = h.places [u] ++ h.places us := by
  unfold places
  rw [← List.flatMap_append, ← List.filter_append, List.singleton_append]

/-- **A run of visits in closed form.**  Each visit comes to what was expected of it at first; all
visits together inject what one walk through all their places would inject, and leave the classes
as that walk would. -/
theorem visits_spec {I : σ → Prop} :
    ∀ (vs : List (SourceUnit × Outlet ε σ)) {h : Host σ}, (∀ v ∈ vs, v.2.Steady I) → I h.sink →
      (h.visits vs).1.map Outcome.withoutInjected
          = vs.map (fun v => ⟨.ok (h.expected v.1).1, (h.expected v.1).2⟩) ∧
        (h.visits vs).1.flatMap Outcome.injected
          = h.ruling.injectedNames h.pool (h.places (vs.map Prod.fst)) ∧
        (h.visits vs).2.pool = h.ruling.settledPool (h.places (vs.map Prod.fst)) h.pool
  | [], h, _, _ => ⟨rfl, rfl, (Policy.settledPool_nil _ _).symm⟩
  | (u, outlet) :: vs, h, hout, hI => by
    obtain ⟨hcommon, hinjected, hpool, hI'⟩ := visit_spec u (hout _ List.mem_cons_self) hI
    obtain ⟨hruling, hexcludes⟩ := visit_frame outlet u h
    obtain ⟨ih1, ih2, ih3⟩ := visits_spec vs (fun v hv => hout v (List.mem_cons_of_mem _ hv)) hI'
    have hplaces : (h.visit outlet u).2.places = h.places := by
      funext us
      simp only [places, hexcludes]
    -- The rest of the run speaks of the host after this visit; bring it back to the host before it.
    rw [expected_of_settled hruling hexcludes hpool] at ih1
    rw [hruling, hplaces, hpool] at ih2 ih3
    simp only [visits, List.map_cons, List.flatMap_cons]
    rw [places_cons h u]
    refine ⟨?_, ?_, ?_⟩
    · rw [hcommon, ih1]
    · rw [hinjected, ih2, Policy.injectedNames_append]
    · rw [ih3, Policy.settledPool_settledPool]

end Host

/-! ## 4. Another order -/

theorem nodup_eraseDups : ∀ ns : List Nat, ns.eraseDups.Nodup
  | [] => by simp
  | n :: ns => by
    rw [List.eraseDups_cons, List.nodup_cons]
    exact ⟨by simp [List.mem_eraseDups], nodup_eraseDups _⟩
  termination_by ns => ns.length
  decreasing_by
    have := List.length_filter_le (fun m => !m == n) ns
    simp only [List.length_cons]
    omega

/-- In which order places are walked decides only on the order of the injected names. -/
theorem Policy.injectedNames_perm (p : Policy) (pool : List ClassDecl) {cs ds : List Nat}
    (h : cs.Perm ds) : (p.injectedNames pool cs).Perm (p.injectedNames pool ds) := by
  have hfilter := h.filter fun c => pool[c]?.any fun k => p.Injects k
  have hdups : (cs.filter fun c => pool[c]?.any fun k => p.Injects k).eraseDups.Perm
      (ds.filter fun c => pool[c]?.any fun k => p.Injects k).eraseDups := by
    rw [List.perm_ext_iff_of_nodup (nodup_eraseDups _) (nodup_eraseDups _)]
    intro i
    rw [List.mem_eraseDups, List.mem_eraseDups, hfilter.mem_iff]
  exact (hdups.filterMap _).map _

namespace Host

theorem places_perm (h : Host σ) {us us' : List SourceUnit} (hperm : us.Perm us') :
    (h.places us).Perm (h.places us') :=
  (hperm.filter _).flatMap_right _

/-- **The order of visits does not matter.**  If the same units are visited on the same host in
another order, each time with outlets that do not fail, the classes in the end are the same.  A
visit to a unit returns the same in both orders, but for the names of injected classes, and hands
over the same reports; taken together, the names of injected classes are the same too, as often as
they occur. -/
theorem visits_perm (h : Host σ) {I : σ → Prop} (hI : I h.sink)
    {vs vs' : List (SourceUnit × Outlet ε σ)} (hout : ∀ v ∈ vs, v.2.Steady I)
    (hout' : ∀ v ∈ vs', v.2.Steady I) (hperm : (vs.map Prod.fst).Perm (vs'.map Prod.fst)) :
    (h.visits vs).2.pool = (h.visits vs').2.pool ∧
      (∃ common : SourceUnit → WalkResult × List Report,
        (h.visits vs).1.map Outcome.withoutInjected
            = vs.map (fun v => ⟨.ok (common v.1).1, (common v.1).2⟩) ∧
          (h.visits vs').1.map Outcome.withoutInjected
            = vs'.map (fun v => ⟨.ok (common v.1).1, (common v.1).2⟩)) ∧
      ((h.visits vs).1.flatMap Outcome.injected).Perm
        ((h.visits vs').1.flatMap Outcome.injected) := by
  obtain ⟨hcommon, hinjected, hpool⟩ := visits_spec vs hout hI
  obtain ⟨hcommon', hinjected', hpool'⟩ := visits_spec vs' hout' hI
  have hplaces := h.places_perm hperm
  refine ⟨?_, ⟨h.expected, hcommon, hcommon'⟩, ?_⟩
  · rw [hpool, hpool']
    exact Policy.settledPool_congr _ _ (fun _ => hplaces.mem_iff)
  · rw [hinjected, hinjected']
    exact Policy.injectedNames_perm _ _ hplaces

/-- Two units share a class, one of them lists it twice, and a script lists it too.  In either order
the class is injected once, and is the same in the end. -/
theorem visits_perm_shared :
    ∃ (h : Host Collector) (vs vs' : List (SourceUnit × Outlet Full Collector)),
      h.engine.policy = none ∧ h.sink.capacity = none ∧
      (∀ v ∈ vs, v.2.Steady fun k => k.capacity = none) ∧
      (∀ v ∈ vs', v.2.Steady fun k => k.capacity = none) ∧
      vs.map Prod.fst = [⟨"One", [0]⟩, ⟨"Script1", [0]⟩, ⟨"Two", [0, 0]⟩] ∧
      vs'.map Prod.fst = [⟨"Two", [0, 0]⟩, ⟨"One", [0]⟩, ⟨"Script1", [0]⟩] ∧
      (h.visits vs).2.pool = (h.visits vs').2.pool ∧
      (h.visits vs).1.flatMap Outcome.injected = ["Pair"] ∧
      (h.visits vs').1.flatMap Outcome.injected = ["Pair"] := by
  let h : Host Collector :=
    { engine := { source := .fixed (.table [("defAllowed", .bool false)]) }
      pool := [{ name := "Pair", fields := [{ name := "left", untyped := true }] }]
      sink := {} }
  let visit (u : SourceUnit) : SourceUnit × Outlet Full Collector := (u, Collector.outlet)
  have hout : ∀ us : List SourceUnit, ∀ v ∈ us.map visit,
      v.2.Steady fun k => k.capacity = none := by
    intro us v hv
    obtain ⟨u, -, rfl⟩ := List.mem_map.mp hv
    exact Collector.steady_outlet
  obtain ⟨hpool, -, hinjected⟩ := visits_perm h (I := fun k => k.capacity = none) rfl
    (hout [⟨"One", [0]⟩, ⟨"Script1", [0]⟩, ⟨"Two", [0, 0]⟩])
    (hout [⟨"Two", [0, 0]⟩, ⟨"One", [0]⟩, ⟨"Script1", [0]⟩]) (by decide)
  have hfirst : (h.visits ([⟨"One", [0]⟩, ⟨"Script1", [0]⟩, ⟨"Two", [0, 0]⟩].map visit)).1.flatMap
      Outcome.injected = ["Pair"] := by
    rw [(visits_spec _ (hout _) rfl).2.1]
    decide
  rw [hfirst] at hinjected
  exact ⟨h, _, _, rfl, rfl, hout _, hout _, rfl, rfl, hpool, hfirst,
    List.perm_singleton.mp hinjected.symm⟩

end Host

end TypingPolicy
