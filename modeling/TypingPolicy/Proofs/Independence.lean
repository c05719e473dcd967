import TypingPolicy.Proofs.Completion

/-!
# Each rule stands alone

A policy has three rules, and each can be switched off.  `Policy.only` leaves one of them as it is
and switches the others off.  What this policy finds in a declaration is what the full policy finds
there of the one kind (`filter_check`), because no rule looks at what another found; so the same
holds of whole walks (`unitOf_reports_by_kind`), although a walk under the reduced policy may take
the short way and not look at any declaration.

Within a declaration the order is fixed as well: at most one violation of each kind, first the one
about types, then the one about dynamic compilation, then the one about extensions
(`kinds_check_sublist`).
-/

namespace TypingPolicy

variable {ε ε' σ σ' : Type}

namespace Policy

/-! ## 1. One rule at a time -/

/-- The policy with the rule about `kind` as it is and the other two rules switched off. -/
def only (kind : ViolationKind) (p : Policy) : Policy :=
  match kind with
  | .dynamicCompile => { p with limitExtensions := false, untypedAllowed := true }
  | .extensionsLimited => { p with disableDynamicCompile := false, untypedAllowed := true }
  | .untyped => { p with disableDynamicCompile := false, limitExtensions := false }

/-- What a rule about `kind` says of the declaration `d`: nothing, or one thing. -/
def Says (kind : ViolationKind) (d : Declaration) (vs : List Violation) : Prop :=
  vs = [] ∨ ∃ v, vs = [v] ∧ v.kind = kind ∧ v.subject = d.toSubject

namespace Says

variable {kind : ViolationKind} {d : Declaration} {vs : List Violation}

theorem ite (b : Bool) {v : Violation} (hk : v.kind = kind) (hs : v.subject = d.toSubject) :
    Says kind d (if b then [v] else []) := by
  cases b with
  | false => exact Or.inl rfl
  | true => exact Or.inr ⟨v, rfl, hk, hs⟩

theorem filter (h : Says kind d vs) (other : ViolationKind) :
    vs.filter (·.kind = other) = if kind = other then vs else [] := by
  rcases h with rfl | ⟨v, rfl, hk, -⟩
  · simp
  · by_cases he : kind = other <;> simp [hk, he]

theorem filter_ne (h : Says kind d vs) (other : ViolationKind) :
    vs.filter (·.kind ≠ other) = if kind = other then [] else vs := by
  rcases h with rfl | ⟨v, rfl, hk, -⟩
  · simp
  · by_cases he : kind = other <;> simp [hk, he]

theorem kinds (h : Says kind d vs) : (vs.map (·.kind)).Sublist [kind] := by
  rcases h with rfl | ⟨v, rfl, hk, -⟩
  · exact List.nil_sublist _
  · simp [hk]

theorem of_mem (h : Says kind d vs) {v : Violation} (hv : v ∈ vs) :
    v.kind = kind ∧ v.subject = d.toSubject := by
  rcases h with rfl | ⟨w, rfl, hk, hs⟩
  · exact absurd hv List.not_mem_nil
  · rw [List.mem_singleton.mp hv]
    exact ⟨hk, hs⟩

end Says

variable (p : Policy) (kind : ViolationKind) (exempt : Bool) (d : Declaration)

theorem says_checkDynamic : Says .dynamicCompile d (p.checkDynamic exempt d) :=
  Says.ite _ rfl rfl

theorem says_checkExtensions : Says .extensionsLimited d (p.checkExtensions d) :=
  Says.ite _ rfl rfl

theorem says_checkUntyped : Says .untyped d (p.checkUntyped d) :=
  Says.ite _ rfl rfl

theorem checkDynamic_only :
    (p.only kind).checkDynamic exempt d
      = if .dynamicCompile = kind then p.checkDynamic exempt d else [] := by
  cases kind <;> rfl

theorem checkExtensions_only :
    (p.only kind).checkExtensions d
      = if .extensionsLimited = kind then p.checkExtensions d else [] := by
  cases kind <;> rfl

theorem checkUntyped_only :
    (p.only kind).checkUntyped d = if .untyped = kind then p.checkUntyped d else [] := by
  cases kind <;> rfl

/-- **Rules do not depend on each other.**  The violations of one kind are those of the policy that
has this rule only. -/
theorem filter_check :
    (p.check exempt d).filter (·.kind = kind) = (p.only kind).check exempt d := by
  have huntyped : (p.checkUntyped d).filter (·.kind = kind) = (p.only kind).checkUntyped d := by
    rw [(says_checkUntyped p d).filter, checkUntyped_only]
  have hdirectives : (p.checkDirectives exempt d).filter (·.kind = kind)
      = (p.only kind).checkDirectives exempt d := by
    rw [checkDirectives, checkDirectives, List.filter_append, (says_checkDynamic p exempt d).filter,
      (says_checkExtensions p d).filter, checkDynamic_only, checkExtensions_only]
  unfold check
  cases d.kind with
  | classDecl => exact hdirectives
  | method =>
    simp only [List.filter_append]
    rw [huntyped, hdirectives]
  | field => exact huntyped
  | parameter => exact huntyped

/-! ## 2. The violations of one declaration -/

theorem kinds_check_sublist :
    ((p.check exempt d).map (·.kind)).Sublist [.untyped, .dynamicCompile, .extensionsLimited] := by
  have huntyped := (says_checkUntyped p d).kinds
  have hdirectives : ((p.checkDirectives exempt d).map (·.kind)).Sublist
      [.dynamicCompile, .extensionsLimited] := by
    rw [checkDirectives, List.map_append]
    exact (says_checkDynamic p exempt d).kinds.append (says_checkExtensions p d).kinds
  unfold check
  cases d.kind with
  | classDecl => exact hdirectives.cons _
  | method =>
    rw [List.map_append]
    exact huntyped.append hdirectives
  | field => exact huntyped.trans (List.sublist_append_left _ _)
  | parameter => exact huntyped.trans (List.sublist_append_left _ _)

/-- What is found in a declaration was found by one of the rules. -/
theorem mem_check_cases {v : Violation} (hv : v ∈ p.check exempt d) :
    v ∈ p.checkUntyped d ∨ v ∈ p.checkDynamic exempt d ∨ v ∈ p.checkExtensions d := by
  unfold check at hv
  cases hk : d.kind with
  | classDecl =>
    rw [hk] at hv
    exact Or.inr (List.mem_append.mp hv)
  | method =>
    rw [hk] at hv
    rcases List.mem_append.mp hv with h | h
    · exact Or.inl h
    · exact Or.inr (List.mem_append.mp h)
  | field =>
    rw [hk] at hv
    exact Or.inl hv
  | parameter =>
    rw [hk] at hv
    exact Or.inl hv

/-- All that is found in a declaration is about this declaration. -/
theorem subject_of_mem_check {v : Violation} (hv : v ∈ p.check exempt d) :
    v.subject = d.toSubject := by
  rcases mem_check_cases p exempt d hv with h | h | h
  · exact ((says_checkUntyped p d).of_mem h).2
  · exact ((says_checkDynamic p exempt d).of_mem h).2
  · exact ((says_checkExtensions p d).of_mem h).2

/-! ## 3. The declarations of a unit -/

/-- The declarations that a walk looks at, in order: those of the listed classes that are not passed
over, as often as these are listed. -/
def visited (p : Policy) (pool : List ClassDecl) (cs : List Nat) : List Declaration :=
  ((occurrences pool cs).filter fun o => ¬ p.Skips o.2).flatMap fun o => o.2.declarations o.1

theorem unitFindings_eq_flatMap (pool : List ClassDecl) (cs : List Nat) :
    p.unitFindings pool cs = (p.visited pool cs).flatMap (p.check false) := by
  unfold unitFindings visited
  rw [List.flatMap_assoc]
  simp only [← checkClass_false, checkClass]

/-- Switching rules off changes nothing about who is passed over. -/
theorem skips_only (k : ClassDecl) : (p.only kind).Skips k ↔ p.Skips k := by
  cases kind <;> exact Iff.rfl

theorem visited_only (pool : List ClassDecl) (cs : List Nat) :
    (p.only kind).visited pool cs = p.visited pool cs := by
  simp only [visited, skips_only]

theorem filter_unitFindings (pool : List ClassDecl) (cs : List Nat) :
    (p.unitFindings pool cs).filter (·.kind = kind) = (p.only kind).unitFindings pool cs := by
  rw [unitFindings_eq_flatMap, unitFindings_eq_flatMap, visited_only, List.filter_flatMap]
  simp only [filter_check]

end Policy

/-! ## 4. Walks -/

namespace Walk

/-- The walk through `u` returns and reports the violations `vs`: they are what the rules find on
the declarations visited, one declaration after the other, and the outlet takes a report of each.
-/
structure Reports (p : Policy) (outlet : Outlet ε σ) (u : SourceUnit) (s : Walk σ)
    (vs : List Violation) : Prop where
  found : vs = (p.visited s.pool u.classes).flatMap (p.check false)
  heard : s.heard p outlet u = vs.map Violation.report
  returned : ∃ result w, unitOf p outlet u s = (.ok result, w) ∧ result.reported = vs.length

theorem reports_unitFindings {p : Policy} {outlet : Outlet ε σ} {u : SourceUnit} {s : Walk σ}
    (hout : outlet.Unfailing s.sink) :
    Reports p outlet u s (p.unitFindings s.pool u.classes) := by
  obtain ⟨sink, h⟩ := hout ((p.unitFindings s.pool u.classes).map Violation.report)
  exact ⟨Policy.unitFindings_eq_flatMap p s.pool u.classes, heard_of_accept h,
    _, _, unitOf_of_accept h, rfl⟩

/-- **Each rule reports what it would report alone.**  Of two walks through the same unit and the
same classes, one under a policy and the other under this policy with all rules but one switched
off, the second reports exactly the violations of that kind that the first reports, in the same
order and the same in all their parts.  The first reports at most one violation of each kind for
each declaration visited, in a fixed order. -/
theorem unitOf_reports_by_kind (p : Policy) (kind : ViolationKind) (u : SourceUnit)
    (outlet : Outlet ε σ) (s : Walk σ) (hout : outlet.Unfailing s.sink)
    (outlet' : Outlet ε' σ') (s' : Walk σ') (hout' : outlet'.Unfailing s'.sink)
    (hpool : s'.pool = s.pool) :
    ∃ vs ws, Reports p outlet u s vs ∧ Reports (p.only kind) outlet' u s' ws ∧
      vs.filter (·.kind = kind) = ws ∧
      ∀ d ∈ p.visited s.pool u.classes,
        ((p.check false d).map (·.kind)).Sublist [.untyped, .dynamicCompile, .extensionsLimited] ∧
          ∀ v ∈ p.check false d, v.subject = d.toSubject := by
  refine ⟨_, _, reports_unitFindings hout, reports_unitFindings hout', ?_, ?_⟩
  · rw [hpool]
    exact Policy.filter_unitFindings p kind s.pool u.classes
  · intro d _
    exact ⟨Policy.kinds_check_sublist p false d,
      fun v hv => Policy.subject_of_mem_check p false d hv⟩

/-- An untyped method that asks for dynamic compilation and also names an extension breaks all three
rules, and its class one of them.  Under the extension rule alone two violations remain. -/
theorem unitOf_reports_by_kind_extensions :
    ∃ (p : Policy) (pool : List ClassDecl) (vs ws : List Violation),
      Collector.outlet.Unfailing {} ∧
      Reports p Collector.outlet ⟨"Unit", [0]⟩ { pool, trace := {}, sink := {} } vs ∧
      Reports (p.only .extensionsLimited) Collector.outlet ⟨"Unit", [0]⟩
        { pool, trace := {}, sink := {} } ws ∧
      vs.map (·.kind) = [.extensionsLimited, .untyped, .dynamicCompile, .extensionsLimited] ∧
      vs.filter (·.kind = .extensionsLimited) = ws ∧
      ws.map (·.offending) = [["outer"], ["inner"]] := by
  let p : Policy :=
    { disableDynamicCompile := true, limitExtensions := true, untypedAllowed := false }
  let pool : List ClassDecl :=
    [{ name := "Both"
       directives := [.compileStatic (.list [.text "outer"])]
       methods := [{ name := "run"
                     untyped := true
                     directives := [.compileDynamic, .compileStatic (.list [.text "inner"])] }] }]
  have hout : Collector.outlet.Unfailing {} := Collector.unfailing_of_unlimited rfl
  obtain ⟨vs, ws, hvs, hws, hfilter, -⟩ := unitOf_reports_by_kind p .extensionsLimited ⟨"Unit", [0]⟩
    Collector.outlet { pool, trace := {}, sink := {} } hout
    Collector.outlet { pool, trace := {}, sink := {} } hout rfl
  refine ⟨p, pool, vs, ws, hout, hvs, hws, ?_, hfilter, ?_⟩
  · rw [hvs.found]
    rfl
  · rw [hws.found]
    rfl

end Walk

end TypingPolicy
