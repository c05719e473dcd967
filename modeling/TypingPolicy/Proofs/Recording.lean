import TypingPolicy.Proofs.Traversal

/-!
# What a walk writes

Every part of a walk may write into the trace, and every part may be cut short by the outlet.  What
all of them have in common is said here once: a part of a walk records details only, that is, events
about classes, and all of them under the unit that the walker remembers, which stays the same
(`Walk.Adds`).  A whole walk first records the beginning of its unit and then details under it
(`adds_unitOf`).

Later files never look into a walk to see what became of a trace.  They take the list of details
from here, or use `Trace.recordAll_keeps`: what no detail spoils survives.
-/

namespace TypingPolicy

variable {ε σ : Type}

/-- Events about classes; they are the ones that may stand below a unit. -/
def EventKind.isDetail : EventKind → Bool
  | .classSkipped | .directiveInjected | .violation => true
  | .configInit | .unitStart | .unitSkipped => false

theorem Trace.recordAll_keeps {P : Trace → Prop} {parent : Option Nat} :
    ∀ {hs : List Happening} {t : Trace},
      (∀ t what, what ∈ hs → P t → P (t.record what parent)) → P t → P (t.recordAll hs parent)
  | [], _, _, h => h
  | what :: hs, t, hP, h => by
    rw [recordAll_cons]
    apply recordAll_keeps
    · exact fun t' what' hwhat => hP t' what' (List.mem_cons_of_mem what hwhat)
    · exact hP t what List.mem_cons_self h

namespace Walk

/-- Between `s` and `s'` the walk recorded nothing but details, under the unit of `s`, and it is
still at that unit. -/
structure Adds (s s' : Walk σ) : Prop where
  unit : s'.unit = s.unit
  recorded : ∃ hs, (∀ what ∈ hs, what.kind.isDetail = true) ∧ s'.trace = s.trace.recordAll hs s.unit

namespace Adds

variable {s s' s'' : Walk σ}

theorem rfl : s.Adds s := ⟨Eq.refl _, [], by simp, Eq.refl _⟩

theorem trans (h : s.Adds s') (h' : s'.Adds s'') : s.Adds s'' := by
  obtain ⟨hunit, hs, hdetails, htrace⟩ := h
  obtain ⟨hunit', hs', hdetails', htrace'⟩ := h'
  refine ⟨hunit'.trans hunit, hs ++ hs', ?_, ?_⟩
  · intro what hwhat
    rcases List.mem_append.mp hwhat with hwhat | hwhat
    · exact hdetails what hwhat
    · exact hdetails' what hwhat
  · rw [htrace', hunit, htrace, Trace.recordAll_append]

/-- One detail. -/
theorem note {what : Happening} (h : what.kind.isDetail = true) : s.Adds (s.note what) :=
  ⟨Eq.refl _, [what], by simpa using h, Eq.refl _⟩

end Adds

theorem adds_inject (p : Policy) (c : Nat) (k : ClassDecl) (s : Walk σ) :
    s.Adds (s.inject p c k).2 := by
  unfold inject
  split
  · exact .rfl
  · exact ⟨rfl, [_], by simp [Happening.kind, EventKind.isDetail], rfl⟩

theorem adds_deliverAll (outlet : Outlet ε σ) :
    ∀ (vs : List Violation) (s : Walk σ), s.Adds (deliverAll outlet vs s).2
  | [], _ => .rfl
  | v :: vs, s => by
    rw [deliverAll]
    cases hr : outlet.report v.report s.sink with
    | ok sink =>
      rw [deliver_of_ok hr]
      have hone : s.Adds (s.delivered [v] sink) :=
        ⟨rfl, [v.happening], by simp [Violation.happening, Happening.kind, EventKind.isDetail], rfl⟩
      exact hone.trans (adds_deliverAll outlet vs _)
    | error e =>
      rw [deliver_of_error hr]
      exact .rfl

theorem adds_enforce (p : Policy) (outlet : Outlet ε σ) (c : Nat) (k : ClassDecl) (s : Walk σ) :
    s.Adds (s.enforce p outlet c k).2 := by
  unfold enforce
  split
  · exact adds_deliverAll outlet _ s
  · exact .rfl

theorem adds_treat (p : Policy) (outlet : Outlet ε σ) (c : Nat) (k : ClassDecl) (tally : Tally)
    (s : Walk σ) : s.Adds (s.treat p outlet c k tally).2 := by
  have henforce := (adds_inject p c k s).trans (adds_enforce p outlet c
    (if (s.inject p c k).1 = true then k.addDirective p.staticDirective else k) (s.inject p c k).2)
  unfold treat
  simp only
  split
  · rename_i heq
    rwa [heq] at henforce
  · rename_i heq
    rwa [heq] at henforce

/-- **What a walk through classes writes**, however it ends. -/
theorem adds_classes (p : Policy) (outlet : Outlet ε σ) :
    ∀ (cs : List Nat) (tally : Tally) (s : Walk σ), s.Adds (classes p outlet cs tally s).2
  | [], _, _ => .rfl
  | c :: cs, tally, s => by
    rw [classes]
    cases s.pool[c]? with
    | none => exact adds_classes p outlet cs tally s
    | some k =>
      cases hr : p.skipReason k with
      | some reason =>
        simp only [hr]
        have hnote : s.Adds (s.note (.classSkipped k.name reason.label)) := .note rfl
        exact hnote.trans (adds_classes p outlet cs _ _)
      | none =>
        simp only [hr]
        have htreat := adds_treat p outlet c k tally s
        revert htreat
        generalize s.treat p outlet c k tally = x
        obtain ⟨e | tally', s'⟩ := x
        · exact id
        · exact fun htreat => htreat.trans (adds_classes p outlet cs tally' s')

/-- **What a whole walk writes**: the beginning of its unit, and details under it. -/
theorem adds_unitOf (p : Policy) (outlet : Outlet ε σ) (u : SourceUnit) (s : Walk σ) :
    (s.begun u).Adds (unitOf p outlet u s).2 := by
  have hclasses := adds_classes p outlet u.classes {} (s.begun u)
  cases hc : classes p outlet u.classes {} (s.begun u) with
  | mk result w =>
    rw [hc] at hclasses
    cases result with
    | ok tally => rwa [unitOf_of_ok hc]
    | error e => rwa [unitOf_of_error hc]

end Walk

end TypingPolicy
