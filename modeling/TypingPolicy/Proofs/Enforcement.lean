import TypingPolicy.Proofs.Independence

/-!
# Enforcing a single class

A host may ask for the enforcement of one class, whatever a walk would do with it.  Enforcement
takes two shortcuts: it does nothing where no rule is in force, and it looks at the whitelist once,
for the class, and not for its members.  `Walk.traverse` is enforcement without the first of them: a
loop over the class, its fields, its methods and their parameters, which checks each declaration
when it comes to it and ends with the first refusal.

* `enforce_eq_traverse`: the first shortcut changes nothing that can be observed;
* `enforce_of_whitelist`: the second one, for an exempt class, takes the dynamic directives out of
  what is reported and nothing else, and for any other class takes nothing out; an outlet that takes
  all reports then holds these (`Policy.ReportsOn.of_accept`).
-/

namespace TypingPolicy

variable {ε σ α β : Type}

namespace Walk

/-! ## 1. Loops that a refusal ends -/

/-- A part of a traversal: it changes the state, and may end in a refusal. -/
abbrev Passage (ε σ : Type) := Walk σ → Option ε × Walk σ

namespace Passage

/-- One part after another; nothing comes after a refusal. -/
def andThen (f g : Passage ε σ) : Passage ε σ := fun s =>
  match f s with
  | (none, s) => g s
  | (some e, s) => (some e, s)

/-- The same part for each item of a list. -/
def each (f : α → Passage ε σ) : List α → Passage ε σ
  | [] => fun s => (none, s)
  | a :: rest => (f a).andThen (each f rest)

theorem andThen_assoc (f g h : Passage ε σ) :
    (f.andThen g).andThen h = f.andThen (g.andThen h) := by
  funext s
  unfold andThen
  rcases f s with ⟨_ | e, s⟩ <;> rfl

theorem each_append (f : α → Passage ε σ) (xs ys : List α) :
    each f (xs ++ ys) = (each f xs).andThen (each f ys) := by
  induction xs with
  | nil => rfl
  | cons a xs ih => rw [List.cons_append, each, each, ih, andThen_assoc]

/-- A loop in a loop is one loop over all the items. -/
theorem each_flatMap (f : β → Passage ε σ) (g : α → List β) (xs : List α) :
    each f (xs.flatMap g) = each (fun a => each f (g a)) xs := by
  induction xs with
  | nil => rfl
  | cons a xs ih => rw [List.flatMap_cons, each_append, ih, each]

end Passage

/-! ## 2. Enforcement without a guard -/

/-- Reports one violation. -/
def tell (outlet : Outlet ε σ) (v : Violation) : Passage ε σ := fun s =>
  match s.deliver outlet v with
  | .ok s => (none, s)
  | .error e => (some e, s)

/-- Checks one declaration, and reports what the rules say of it. -/
def inspect (p : Policy) (outlet : Outlet ε σ) (exempt : Bool) (d : Declaration) : Passage ε σ :=
  .each (tell outlet) (p.check exempt d)

/-- Goes through a class, its fields, and each method with its parameters.  Whether any rule is in
force is not asked. -/
def traverse (p : Policy) (outlet : Outlet ε σ) (c : Nat) (k : ClassDecl) : Passage ε σ :=
  let look := inspect p outlet (p.exempts k.name)
  let fields := Passage.each (fun (m, f) => look (m.declaration (.fieldAt c f))) k.fields.zipIdx
  let methods := Passage.each (fun (m, i) =>
      (look (m.declaration (.methodAt c i))).andThen
        (.each (fun (q, j) => look (q.declaration (.parameterAt c i j))) m.parameters.zipIdx))
    k.methods.zipIdx
  ((look (k.self c)).andThen fields).andThen methods

theorem deliverAll_eq_each (outlet : Outlet ε σ) (vs : List Violation) :
    deliverAll outlet vs = Passage.each (tell outlet) vs := by
  induction vs with
  | nil => rfl
  | cons v vs ih =>
    funext s
    rw [deliverAll, Passage.each, Passage.andThen, tell, ← ih]
    cases s.deliver outlet v <;> rfl

/-- The loops report the violations of the class one by one. -/
theorem traverse_eq_deliverAll (p : Policy) (outlet : Outlet ε σ) (c : Nat) (k : ClassDecl) :
    traverse p outlet c k = deliverAll outlet (p.checkClass (p.exempts k.name) c k) := by
  rw [deliverAll_eq_each, Policy.checkClass_eq]
  simp only [Passage.each_append, Passage.each_flatMap]
  rfl

/-- **The shortcut is exact.**  Under any policy, for any class, outlet and state, enforcement ends as
the traversal does that never asks whether a rule is in force: with the same refusal or none, and
with the same sink, trace and count.  A refusal can be anything; that of an outlet which changes as
it fails carries the state in which it is left. -/
theorem enforce_eq_traverse (p : Policy) (outlet : Outlet ε σ) (c : Nat) (k : ClassDecl)
    (s : Walk σ) : s.enforce p outlet c k = traverse p outlet c k s := by
  rw [enforce_eq_deliverAll, traverse_eq_deliverAll]

end Walk

/-! ## 3. Exempt classes -/

namespace Policy

/-- The policy with an empty whitelist. -/
def unlisted (p : Policy) : Policy := { p with whitelist := [] }

/-- Enforcement of class number `c` reports the violations `vs` in this order, to any outlet and from
any state, and nothing else; only a refusal keeps it from going on to the next. -/
def ReportsOn (p : Policy) (c : Nat) (k : ClassDecl) (vs : List Violation) : Prop :=
  ∀ (ε σ : Type) (outlet : Outlet ε σ) (s : Walk σ),
    s.enforce p outlet c k = s.deliverAll outlet vs

variable (p : Policy) (d : Declaration) (c : Nat) (k : ClassDecl)

theorem exempts_unlisted (name : String) : p.unlisted.exempts name = false := rfl

/-- No rule looks at the whitelist itself. -/
theorem checkClass_unlisted (exempt : Bool) :
    p.unlisted.checkClass exempt c k = p.checkClass exempt c k := rfl

theorem checkDynamic_true : p.checkDynamic true d = [] := by
  simp [checkDynamic]

/-- In a declaration of an exempt class all is found but a dynamic directive. -/
theorem check_true : p.check true d = (p.check false d).filter (·.kind ≠ .dynamicCompile) := by
  have huntyped : (p.checkUntyped d).filter (·.kind ≠ .dynamicCompile) = p.checkUntyped d := by
    rw [(says_checkUntyped p d).filter_ne, if_neg (by decide)]
  have hdirectives : (p.checkDirectives false d).filter (·.kind ≠ .dynamicCompile)
      = p.checkDirectives true d := by
    rw [checkDirectives, checkDirectives, List.filter_append,
      (says_checkDynamic p false d).filter_ne, (says_checkExtensions p d).filter_ne,
      if_pos rfl, if_neg (by decide), checkDynamic_true]
  unfold check
  cases d.kind with
  | classDecl => exact hdirectives.symm
  | method =>
    simp only [List.filter_append]
    rw [huntyped, hdirectives]
  | field => exact huntyped.symm
  | parameter => exact huntyped.symm

theorem checkClass_true :
    p.checkClass true c k = (p.checkClass false c k).filter (·.kind ≠ .dynamicCompile) := by
  rw [checkClass, checkClass, List.filter_flatMap, funext (check_true p)]

/-- Dynamic directives are looked for on classes and on methods. -/
theorem kind_of_dynamic {exempt : Bool} {v : Violation} (hv : v ∈ p.check exempt d)
    (hk : v.kind = .dynamicCompile) : d.kind = .classDecl ∨ d.kind = .method := by
  have huntyped : v ∉ p.checkUntyped d := fun h =>
    absurd (((says_checkUntyped p d).of_mem h).1.symm.trans hk) (by decide)
  unfold check at hv
  cases hd : d.kind with
  | classDecl => exact Or.inl rfl
  | method => exact Or.inr rfl
  | field =>
    rw [hd] at hv
    exact absurd hv huntyped
  | parameter =>
    rw [hd] at hv
    exact absurd hv huntyped

theorem declares_of_dynamic {v : Violation} (hv : v ∈ p.findings c k)
    (hk : v.kind = .dynamicCompile) :
    ∃ d ∈ k.declarations c, v.subject = d.toSubject ∧ (d.kind = .classDecl ∨ d.kind = .method) := by
  rw [← checkClass_false, checkClass] at hv
  obtain ⟨d, hd, hv⟩ := List.mem_flatMap.mp hv
  exact ⟨d, hd, subject_of_mem_check p false d hv, kind_of_dynamic p d hv hk⟩

variable {p c k} in
/-- An outlet that takes the reports has been handed all of them, and they are traced and counted. -/
theorem ReportsOn.of_accept {vs : List Violation} (h : p.ReportsOn c k vs) {outlet : Outlet ε σ}
    {s : Walk σ} {sink : σ} (haccept : outlet.accept (vs.map Violation.report) s.sink = .ok sink) :
    s.enforce p outlet c k = (none, s.delivered vs sink) := by
  rw [h ε σ outlet s]
  exact Walk.deliverAll_of_accept haccept

theorem reportsOn_checkClass : p.ReportsOn c k (p.checkClass (p.exempts k.name) c k) :=
  fun _ _ outlet s => s.enforce_eq_deliverAll p outlet c k

end Policy

namespace Walk

/-- **What an exemption takes out.**  Enforced directly, a class whose name holds a fragment of the
whitelist gives the reports that it gives under an empty whitelist, in the same order, without those
about dynamic compilation, which are about the class and its methods.  A class whose name holds none
gives all of them, whatever its members are called.  A collector without a capacity then holds what it
held before and these reports behind it, in their order; all of them are traced and counted, and
nothing is refused. -/
theorem enforce_of_whitelist (p : Policy) (c : Nat) (k : ClassDecl) :
    p.unlisted.ReportsOn c k (p.unlisted.findings c k) ∧
    ((∃ e ∈ p.whitelist, e.toList <:+: k.name.toList) →
      p.ReportsOn c k ((p.unlisted.findings c k).filter (·.kind ≠ .dynamicCompile))) ∧
    ((∀ e ∈ p.whitelist, ¬ e.toList <:+: k.name.toList) →
      p.ReportsOn c k (p.unlisted.findings c k)) ∧
    (∀ v ∈ p.unlisted.findings c k, v.kind = .dynamicCompile →
      ∃ d ∈ k.declarations c, v.subject = d.toSubject ∧
        (d.kind = .classDecl ∨ d.kind = .method)) ∧
    ∀ vs, p.ReportsOn c k vs → ∀ s : Walk Collector, s.sink.capacity = none →
      s.enforce p Collector.outlet c k
        = (none, s.delivered vs (s.sink.gained (vs.map Violation.report))) := by
  have hfull : p.unlisted.findings c k = p.checkClass false c k := by
    rw [← Policy.checkClass_false, Policy.checkClass_unlisted]
  refine ⟨?_, ?_, ?_, fun v hv hk => p.unlisted.declares_of_dynamic c k hv hk,
    fun vs hvs s hs => hvs.of_accept (Collector.accept_of_unlimited hs _)⟩
  · have h := p.unlisted.reportsOn_checkClass c k
    rwa [Policy.exempts_unlisted, Policy.checkClass_false] at h
  · intro hexempt
    have h := p.reportsOn_checkClass c k
    rwa [Policy.exempts_iff.mpr hexempt, Policy.checkClass_true, ← hfull] at h
  · intro hnone
    have hexempt : p.exempts k.name = false := by
      rw [← Bool.not_eq_true, Policy.exempts_iff]
      rintro ⟨e, he, hin⟩
      exact hnone e he hin
    have h := p.reportsOn_checkClass c k
    rwa [hexempt, ← hfull] at h

/-- Of two classes with the same members, one is exempt by its name; the other is not, although a
field is called like an exempt class. -/
theorem enforce_of_whitelist_legacy :
    ∃ (p : Policy) (k k' : ClassDecl) (vs ws : List Violation),
      (∃ e ∈ p.whitelist, e.toList <:+: k.name.toList) ∧
      (∀ e ∈ p.whitelist, ¬ e.toList <:+: k'.name.toList) ∧
      k'.fields.map (·.name) = ["Legacy"] ∧
      p.unlisted.ReportsOn 0 k vs ∧
      vs.map (·.kind) = [.dynamicCompile, .untyped, .untyped, .dynamicCompile, .extensionsLimited] ∧
      p.ReportsOn 0 k ws ∧ ws.map (·.kind) = [.untyped, .untyped, .extensionsLimited] ∧
      (∃ w : Walk Collector,
        enforce p Collector.outlet 0 k { pool := [k], trace := {}, sink := {}, reported := 4 }
          = (none, w) ∧
        w.sink.reports = ws.map Violation.report ∧ w.reported = 7) ∧
      p.ReportsOn 0 k' (p.unlisted.findings 0 k') ∧
      (p.unlisted.findings 0 k').map (·.kind) = vs.map (·.kind) := by
  let p : Policy :=
    { disableDynamicCompile := true, limitExtensions := true, untypedAllowed := false
      whitelist := ["Old", "Legacy"] }
  let k : ClassDecl :=
    { name := "app.LegacyTool"
      directives := [.compileDynamic]
      fields := [{ name := "Legacy", untyped := true }]
      methods := [{ name := "run"
                    untyped := true
                    directives := [.compileDynamic, .compileStatic (.list [.text "inner"])] }] }
  let k' : ClassDecl := { k with name := "app.Tool" }
  have hk : ∃ e ∈ p.whitelist, e.toList <:+: k.name.toList :=
    Policy.exempts_iff.mp (by decide +kernel)
  have hk' : ∀ e ∈ p.whitelist, ¬ e.toList <:+: k'.name.toList := by
    intro e he hin
    exact absurd (Policy.exempts_iff.mpr ⟨e, he, hin⟩) (by decide +kernel)
  obtain ⟨hbare, hexempt, -, -, hcollects⟩ := enforce_of_whitelist p 0 k
  obtain ⟨-, -, hother, -⟩ := enforce_of_whitelist p 0 k'
  exact ⟨p, k, k', _, _, hk, hk', rfl, hbare, rfl, hexempt hk, rfl,
    ⟨_, hcollects _ (hexempt hk) _ rfl, rfl, rfl⟩, hother hk', rfl⟩

end Walk

end TypingPolicy
