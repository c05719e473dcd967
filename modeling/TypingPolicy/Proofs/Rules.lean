import TypingPolicy.Walk

/-!
# What a walk has to find

A walk changes a class before it checks it.  This file says what there is to find in a class, by a
definition that knows nothing of walks (`Policy.findings`), and proves that the change does not
matter:

* `findings_settled`: the injected directive adds, removes and changes no finding, because all the
  extensions it names are allowed;
* `skips_settled`, `settled_settled`: nor does it change who is passed over, and a class that has
  been through a walk once is not changed by a second one;
* `checkClass_eq_nil`: where no rule is in force there is nothing to find, so a walk may as well not
  look.
-/

namespace TypingPolicy

/-! ## 1. Fragments of names -/

theorem Text.occurs_iff (fragment : List Char) :
    ∀ cs : List Char, Text.occurs fragment cs = true ↔ fragment <:+: cs
  | [] => by simp [Text.occurs]
  | c :: rest => by
    simp only [Text.occurs, Bool.or_eq_true, List.isPrefixOf_iff_prefix, List.infix_cons_iff,
      Text.occurs_iff fragment rest]

theorem Text.occursIn_iff {fragment name : String} :
    Text.occursIn fragment name = true ↔ fragment.toList <:+: name.toList :=
  Text.occurs_iff _ _

namespace Policy

theorem exempts_iff {p : Policy} {name : String} :
    p.exempts name = true ↔ ∃ e ∈ p.whitelist, e.toList <:+: name.toList := by
  simp only [exempts, List.any_eq_true, Text.occursIn_iff]

/-! ## 2. Who is passed over -/

/-- A walk passes over a class whose name holds a whitelisted fragment and, if the policy says so,
over a class without a package. -/
def Skips (p : Policy) (k : ClassDecl) : Prop :=
  (∃ e ∈ p.whitelist, e.toList <:+: k.name.toList) ∨
    (p.skipDefaultPackage = true ∧ (k.package = none ∨ k.package = some ""))

theorem inDefaultPackage_iff {k : ClassDecl} :
    k.inDefaultPackage = true ↔ k.package = none ∨ k.package = some "" := by
  unfold ClassDecl.inDefaultPackage
  cases k.package <;> simp

theorem skipReason_eq_none_iff {p : Policy} {k : ClassDecl} :
    p.skipReason k = none ↔ ¬ p.Skips k := by
  unfold skipReason Skips
  rw [← exempts_iff, ← inDefaultPackage_iff]
  split
  · rename_i h
    simp [h]
  · rename_i h
    split
    · rename_i h'
      simpa [h] using h'
    · rename_i h'
      simpa [h] using h'

theorem skips_of_skipReason {p : Policy} {k : ClassDecl} {reason : SkipReason}
    (h : p.skipReason k = some reason) : p.Skips k := by
  apply Classical.byContradiction
  intro hn
  rw [skipReason_eq_none_iff.mpr hn] at h
  exact absurd h (by simp)

instance (p : Policy) (k : ClassDecl) : Decidable (p.Skips k) :=
  decidable_of_iff (p.skipReason k ≠ none) (by rw [Ne, skipReason_eq_none_iff, Classical.not_not])

theorem exempts_of_not_skips {p : Policy} {k : ClassDecl} (h : ¬ p.Skips k) :
    p.exempts k.name = false := by
  rw [← Bool.not_eq_true, exempts_iff]
  exact fun he => h (Or.inl he)

/-- Only the name and the package of a class decide whether it is passed over. -/
theorem skips_congr {p : Policy} {k k' : ClassDecl} (hn : k.name = k'.name)
    (hp : k.package = k'.package) : p.Skips k ↔ p.Skips k' := by
  rw [Skips, Skips, hn, hp]

/-! ## 3. What there is to find -/

/-- The violations of class number `c`: those of the class itself, then of each field, then of each
method, which its parameters follow at once.  The class is not exempt. -/
def findings (p : Policy) (c : Nat) (k : ClassDecl) : List Violation :=
  p.check false (k.self c)
    ++ k.fields.zipIdx.flatMap (fun (m, f) => p.check false (m.declaration (.fieldAt c f)))
    ++ k.methods.zipIdx.flatMap (fun (m, i) =>
        p.check false (m.declaration (.methodAt c i))
          ++ m.parameters.zipIdx.flatMap fun (q, j) =>
              p.check false (q.declaration (.parameterAt c i j)))

/-- The violations of a class, loop by loop. -/
theorem checkClass_eq (p : Policy) (exempt : Bool) (c : Nat) (k : ClassDecl) :
    p.checkClass exempt c k = p.check exempt (k.self c)
      ++ k.fields.zipIdx.flatMap (fun (m, f) => p.check exempt (m.declaration (.fieldAt c f)))
      ++ k.methods.zipIdx.flatMap (fun (m, i) =>
          p.check exempt (m.declaration (.methodAt c i))
            ++ m.parameters.zipIdx.flatMap fun (q, j) =>
                p.check exempt (q.declaration (.parameterAt c i j))) := by
  unfold checkClass ClassDecl.declarations ClassDecl.fieldDeclarations
  simp only [List.mapIdx_eq_zipIdx_map, List.cons_append, List.flatMap_cons, List.flatMap_append,
    List.flatMap_map, List.append_assoc, ← List.flatMap_def, List.flatMap_assoc,
    ClassDecl.methodDeclarations]

theorem checkClass_false (p : Policy) (c : Nat) (k : ClassDecl) :
    p.checkClass false c k = p.findings c k :=
  checkClass_eq p false c k

/-- No rule in force, no violation. -/
theorem check_eq_nil {p : Policy} (h : p.enforcing = false) (exempt : Bool) (d : Declaration) :
    p.check exempt d = [] := by
  simp only [enforcing, Bool.or_eq_false_iff, Bool.not_eq_false'] at h
  obtain ⟨⟨hd, hl⟩, hu⟩ := h
  have h1 : p.checkDirectives exempt d = [] := by
    simp [checkDirectives, checkDynamic, checkExtensions, hd, hl]
  have h2 : p.checkUntyped d = [] := by simp [checkUntyped, hu]
  unfold check
  cases d.kind <;> simp [h1, h2]

theorem checkClass_eq_nil {p : Policy} (h : p.enforcing = false) (exempt : Bool) (c : Nat)
    (k : ClassDecl) : p.checkClass exempt c k = [] := by
  rw [checkClass, List.flatMap_eq_nil_iff]
  exact fun d _ => check_eq_nil h exempt d

end Policy

/-! ## 4. The injected directive is invisible to the rules -/

/-- Names that are known already are not new, wherever the list ends. -/
theorem Text.newNames_append_of_known {ys : List String} :
    ∀ (xs known : List String), (∀ y ∈ ys, y ∈ known) →
      Text.newNames known (xs ++ ys) = Text.newNames known xs
  | [], known, h => by
    induction ys with
    | nil => rfl
    | cons y ys ih =>
      have hy : y ∈ known := h y (by simp)
      have ih' := ih (fun z hz => h z (by simp [hz]))
      simpa [Text.newNames, hy] using ih'
  | x :: xs, known, h => by
    simp only [List.cons_append, Text.newNames]
    split
    · exact newNames_append_of_known xs known h
    · rw [newNames_append_of_known xs (x :: known) (fun y hy => by simp [h y hy])]

namespace Policy

/-- The extensions of the injected directive are exactly the allowed ones. -/
theorem extensionNames_staticDirective (p : Policy) :
    p.staticDirective.extensionNames = p.allowedExtensions := by
  unfold staticDirective injectedExtensions Directive.compileStatic Directive.extensionNames
  split
  · rename_i items heq
    split at heq
    · exact absurd heq (by simp)
    · rw [Value.list.injEq] at heq
      rw [← heq, List.filterMap_map]
      exact List.filterMap_some
  · rename_i hne
    split at hne
    · rename_i hnil
      exact hnil.symm
    · exact absurd rfl (hne _)

theorem hasDirective_addDirective (p : Policy) (k : ClassDecl) (c : Nat) :
    ((k.addDirective p.staticDirective).self c).hasDirective [.compileDynamic]
      = (k.self c).hasDirective [.compileDynamic] := by
  simp [Declaration.hasDirective, ClassDecl.self, ClassDecl.addDirective, staticDirective,
    Directive.compileStatic]

theorem staticExtensions_addDirective (p : Policy) (k : ClassDecl) (c : Nat) :
    ((k.addDirective p.staticDirective).self c).staticExtensions
      = (k.self c).staticExtensions ++ p.allowedExtensions := by
  have hk : p.staticDirective.kind = .compileStatic := rfl
  simp [Declaration.staticExtensions, Declaration.directivesOf, ClassDecl.self,
    ClassDecl.addDirective, hk, extensionNames_staticDirective]

/-- The two directive rules see no difference: the directive is not dynamic, and every extension
that it adds at the end is allowed. -/
theorem checkDirectives_addDirective (p : Policy) (exempt : Bool) (c : Nat) (k : ClassDecl) :
    p.checkDirectives exempt ((k.addDirective p.staticDirective).self c)
      = p.checkDirectives exempt (k.self c) := by
  have hs : ((k.addDirective p.staticDirective).self c).toSubject = (k.self c).toSubject := rfl
  have hhas : ((k.addDirective p.staticDirective).self c).hasDisallowedExtensions
      p.allowedExtensions = (k.self c).hasDisallowedExtensions p.allowedExtensions := by
    unfold Declaration.hasDisallowedExtensions
    rw [staticExtensions_addDirective, List.any_append]
    simp
  have hdis : ((k.addDirective p.staticDirective).self c).disallowedExtensions
      p.allowedExtensions = (k.self c).disallowedExtensions p.allowedExtensions := by
    unfold Declaration.disallowedExtensions
    rw [staticExtensions_addDirective]
    exact Text.newNames_append_of_known _ _ (fun _ hy => hy)
  unfold checkDirectives checkDynamic checkExtensions
  rw [hasDirective_addDirective, hhas, hdis, hs]

theorem findings_addDirective (p : Policy) (c : Nat) (k : ClassDecl) :
    p.findings c (k.addDirective p.staticDirective) = p.findings c k := by
  have hself : p.check false ((k.addDirective p.staticDirective).self c)
      = p.check false (k.self c) := checkDirectives_addDirective p false c k
  unfold findings
  rw [hself]
  rfl

/-! ## 5. A class after a walk -/

/-- Is the class one that a walk adds a directive to? -/
def Injects (p : Policy) (k : ClassDecl) : Prop := ¬ p.Skips k ∧ k.isMarked = false

instance (p : Policy) (k : ClassDecl) : Decidable (p.Injects k) :=
  inferInstanceAs (Decidable (_ ∧ _))

/-- A class as a walk leaves it. -/
def settled (p : Policy) (k : ClassDecl) : ClassDecl :=
  if p.Injects k then k.addDirective p.staticDirective else k

theorem isMarked_addDirective (p : Policy) (k : ClassDecl) :
    (k.addDirective p.staticDirective).isMarked = true := by
  simp [ClassDecl.isMarked, ClassDecl.addDirective, staticDirective, Directive.compileStatic,
    DirectiveKind.isMarker]

@[simp] theorem name_settled (p : Policy) (k : ClassDecl) : (p.settled k).name = k.name := by
  unfold settled
  split <;> rfl

@[simp] theorem skips_settled (p : Policy) (k : ClassDecl) : p.Skips (p.settled k) ↔ p.Skips k := by
  unfold settled
  split
  · exact skips_congr rfl rfl
  · exact Iff.rfl

@[simp] theorem findings_settled (p : Policy) (c : Nat) (k : ClassDecl) :
    p.findings c (p.settled k) = p.findings c k := by
  unfold settled
  split
  · exact findings_addDirective p c k
  · rfl

/-- A class that has been through a walk gets no further directive. -/
theorem not_injects_settled (p : Policy) (k : ClassDecl) : ¬ p.Injects (p.settled k) := by
  unfold settled
  split
  · rintro ⟨-, h⟩
    rw [isMarked_addDirective] at h
    exact absurd h (by simp)
  · assumption

@[simp] theorem settled_settled (p : Policy) (k : ClassDecl) :
    p.settled (p.settled k) = p.settled k := by
  rw [settled, if_neg (not_injects_settled p k)]

end Policy

end TypingPolicy
