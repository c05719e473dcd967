import Mathlib.Data.List.Basic
import Mathlib.Data.List.Flatten
import TypingPolicy.Proofs.Traversal

/-!
# Laxer policies report less

Six settings make a policy more or less strict, some by being on and some by being off, and they
act in different places: on who is passed over, on what is injected, and on the three rules.
`Policy.Laxer` compares two policies setting by setting.  A laxer policy passes over more classes
and finds less in the others, declaration by declaration and in the same order, so what it reports
is a subsequence of what the stricter one reports (`unitOf_of_laxer`).  That the two walks inject
different directives does not matter, since both find what there was before.
-/

namespace TypingPolicy

variable {ε ε' σ σ' : Type}

/-- What is wrong and where, without the words in which it is reported. -/
def Violation.key (v : Violation) : ViolationKind × Subject := (v.kind, v.subject)

namespace Policy

/-- `p` allows whatever `q` allows, setting by setting. -/
structure Laxer (p q : Policy) : Prop where
  dynamic : p.disableDynamicCompile = true → q.disableDynamicCompile = true
  limit : p.limitExtensions = true → q.limitExtensions = true
  untyped : q.untypedAllowed = true → p.untypedAllowed = true
  skipDefault : q.skipDefaultPackage = true → p.skipDefaultPackage = true
  whitelist : ∀ e ∈ q.whitelist, e ∈ p.whitelist
  extensions : ∀ e ∈ q.allowedExtensions, e ∈ p.allowedExtensions

variable {p q : Policy}

/-! ## 1. Who is passed over -/

theorem Laxer.skips (h : p.Laxer q) {k : ClassDecl} (hk : q.Skips k) : p.Skips k := by
  rcases hk with ⟨e, he, hin⟩ | ⟨hskip, hpackage⟩
  · exact Or.inl ⟨e, h.whitelist e he, hin⟩
  · exact Or.inr ⟨h.skipDefault hskip, hpackage⟩

theorem Laxer.skippedNames (h : p.Laxer q) (pool : List ClassDecl) (cs : List Nat) :
    (q.skippedNames pool cs).Sublist (p.skippedNames pool cs) := by
  refine List.Sublist.map _ (List.monotone_filter_right _ ?_)
  intro o ho
  exact decide_eq_true (h.skips (of_decide_eq_true ho))

/-! ## 2. What is found -/

/-- A rule that says one thing, if it says anything, says no more under a weaker condition. -/
theorem map_key_ite_sublist {b b' : Bool} {v v' : Violation} (hb : b = true → b' = true)
    (hv : v.key = v'.key) :
    ((if b then [v] else []).map Violation.key).Sublist
      ((if b' then [v'] else []).map Violation.key) := by
  cases b with
  | false => exact List.nil_sublist _
  | true => simp [hb rfl, hv]

theorem Laxer.checkDynamic (h : p.Laxer q) (exempt : Bool) (d : Declaration) :
    ((p.checkDynamic exempt d).map Violation.key).Sublist
      ((q.checkDynamic exempt d).map Violation.key) := by
  refine map_key_ite_sublist ?_ rfl
  simp only [Bool.and_eq_true]
  exact fun hp => ⟨⟨h.dynamic hp.1.1, hp.1.2⟩, hp.2⟩

theorem Laxer.checkExtensions (h : p.Laxer q) (d : Declaration) :
    ((p.checkExtensions d).map Violation.key).Sublist
      ((q.checkExtensions d).map Violation.key) := by
  refine map_key_ite_sublist ?_ rfl
  simp only [Bool.and_eq_true, Declaration.hasDisallowedExtensions, List.any_eq_true,
    decide_eq_true_eq]
  rintro ⟨hlimit, e, he, hnot⟩
  exact ⟨h.limit hlimit, e, he, fun hin => hnot (h.extensions e hin)⟩

theorem Laxer.checkUntyped (h : p.Laxer q) (d : Declaration) :
    ((p.checkUntyped d).map Violation.key).Sublist ((q.checkUntyped d).map Violation.key) := by
  refine map_key_ite_sublist ?_ rfl
  simp only [Bool.and_eq_true, Bool.not_eq_true', ← Bool.not_eq_true]
  exact fun hp => ⟨fun hq => hp.1 (h.untyped hq), hp.2⟩

theorem Laxer.check (h : p.Laxer q) (exempt : Bool) (d : Declaration) :
    ((p.check exempt d).map Violation.key).Sublist ((q.check exempt d).map Violation.key) := by
  have hdirectives : ((p.checkDirectives exempt d).map Violation.key).Sublist
      ((q.checkDirectives exempt d).map Violation.key) := by
    simp only [checkDirectives, List.map_append]
    exact (h.checkDynamic exempt d).append (h.checkExtensions d)
  unfold Policy.check
  cases d.kind with
  | classDecl => exact hdirectives
  | method =>
    simp only [List.map_append]
    exact (h.checkUntyped d).append hdirectives
  | field => exact h.checkUntyped d
  | parameter => exact h.checkUntyped d

theorem Laxer.findings (h : p.Laxer q) (c : Nat) (k : ClassDecl) :
    ((p.findings c k).map Violation.key).Sublist ((q.findings c k).map Violation.key) := by
  simp only [← checkClass_false, checkClass, List.map_flatMap]
  exact List.Sublist.flatMap_right _ (fun d _ => h.check false d)

/-- The laxer policy looks at fewer occurrences, and finds less at each. -/
theorem Laxer.unitFindings (h : p.Laxer q) (pool : List ClassDecl) (cs : List Nat) :
    ((p.unitFindings pool cs).map Violation.key).Sublist
      ((q.unitFindings pool cs).map Violation.key) := by
  have hwalked : ((occurrences pool cs).filter fun o => ¬ p.Skips o.2).Sublist
      ((occurrences pool cs).filter fun o => ¬ q.Skips o.2) := by
    refine List.monotone_filter_right _ ?_
    intro o ho
    exact decide_eq_true (fun hq => of_decide_eq_true ho (h.skips hq))
  simp only [Policy.unitFindings, List.map_flatMap]
  exact (hwalked.flatMap _).trans
    (List.Sublist.flatMap_right _ (fun o _ => h.findings o.1 o.2))

end Policy

/-! ## 3. Walks -/

namespace Walk

/-- **A laxer policy reports a subsequence.**  Of two walks through the same unit and the same
classes, the one under the laxer policy reports a subsequence of what the other reports, up to the
wording, and skips every occurrence of a class that the other skips. -/
theorem unitOf_of_laxer {p q : Policy} (hpq : p.Laxer q) (u : SourceUnit) (s : Walk σ)
    (s' : Walk σ') (hpool : s.pool = s'.pool) (outlet : Outlet ε σ) (outlet' : Outlet ε' σ')
    (hout : outlet.Unfailing s.sink) (hout' : outlet'.Unfailing s'.sink) :
    ∃ result w result' w', unitOf p outlet u s = (.ok result, w) ∧
      unitOf q outlet' u s' = (.ok result', w') ∧
      outlet.accept ((p.unitFindings s.pool u.classes).map Violation.report) s.sink = .ok w.sink ∧
      outlet'.accept ((q.unitFindings s.pool u.classes).map Violation.report) s'.sink
        = .ok w'.sink ∧
      ((p.unitFindings s.pool u.classes).map Violation.key).Sublist
        ((q.unitFindings s.pool u.classes).map Violation.key) ∧
      result.skipped = p.skippedNames s.pool u.classes ∧
      result'.skipped = q.skippedNames s.pool u.classes ∧
      result'.skipped.Sublist result.skipped ∧
      ∀ o ∈ occurrences s.pool u.classes, q.Skips o.2 → p.Skips o.2 := by
  obtain ⟨sink, h⟩ := hout ((p.unitFindings s.pool u.classes).map Violation.report)
  obtain ⟨sink', h'⟩ := hout' ((q.unitFindings s'.pool u.classes).map Violation.report)
  have hw := unitOf_of_accept h
  have hw' := unitOf_of_accept h'
  rw [← hpool] at h' hw'
  exact ⟨_, _, _, _, hw, hw', h, h', hpq.unitFindings _ _, rfl, rfl, hpq.skippedNames _ _,
    fun o _ hq => hpq.skips hq⟩

/-- Exempting one class and allowing dynamic compilation leaves one report of three. -/
theorem unitOf_of_laxer_exempt :
    ∃ (p q : Policy) (pool : List ClassDecl),
      p.Laxer q ∧ Collector.outlet.Unfailing {} ∧
      (p.unitFindings pool [0, 1]).map Violation.key
        = [(.untyped, ⟨.fieldAt 1 0, "right"⟩)] ∧
      (q.unitFindings pool [0, 1]).map Violation.key
        = [(.untyped, ⟨.fieldAt 0 0, "left"⟩), (.dynamicCompile, ⟨.classAt 1, "New"⟩),
          (.untyped, ⟨.fieldAt 1 0, "right"⟩)] ∧
      ∃ result w result' w',
        unitOf p Collector.outlet ⟨"Unit", [0, 1]⟩ { pool, trace := {}, sink := {} }
          = (.ok result, w) ∧
        unitOf q Collector.outlet ⟨"Unit", [0, 1]⟩ { pool, trace := {}, sink := {} }
          = (.ok result', w') ∧
        result'.skipped.Sublist result.skipped := by
  let p : Policy := { untypedAllowed := false, whitelist := ["Old"] }
  let q : Policy := { untypedAllowed := false, disableDynamicCompile := true }
  let pool : List ClassDecl :=
    [{ name := "OldPair", fields := [{ name := "left", untyped := true }] },
     { name := "New", directives := [.compileDynamic],
       fields := [{ name := "right", untyped := true }] }]
  have hpq : p.Laxer q := ⟨by decide, by decide, by decide, by decide, by decide, by decide⟩
  have hout : Collector.outlet.Unfailing {} := Collector.unfailing_of_unlimited rfl
  obtain ⟨result, w, result', w', h, h', -, -, -, -, -, hskipped, -⟩ :=
    unitOf_of_laxer hpq ⟨"Unit", [0, 1]⟩ { pool, trace := {}, sink := {} }
      { pool, trace := {}, sink := {} } rfl Collector.outlet Collector.outlet hout hout
  exact ⟨p, q, pool, hpq, hout, rfl, rfl, result, w, result', w', h, h', hskipped⟩

end Walk

end TypingPolicy
