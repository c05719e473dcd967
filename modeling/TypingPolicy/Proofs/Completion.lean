import TypingPolicy.Proofs.Traversal

/-!
# How a walk ends, and what is heard of it

An outlet is a black box, so what it was handed cannot be read off its state.  `Outlet.logged` puts
a list beside the box; what a walk has put on that list is `Walk.heard`.  Together with what the
walk returns it makes up an `Outcome`.

The other two sections are about walks into outlets of which nothing is known.

* `accept_of_unitOf`: a walk that returns a result has delivered all that there was to find, so
  whatever is known of walks into unfailing outlets (`unitOf_of_accept`) holds of it.
* `pool_unitOf`: however a walk ends, it has dealt with the classes up to some place of its list,
  and with no others.
-/

namespace TypingPolicy

variable {ε σ : Type}

/-! ## 1. Listening to an outlet -/

namespace Outlet

variable {outlet : Outlet ε σ}

/-- The outlet, and beside it a list of the reports that it took. -/
def logged (outlet : Outlet ε σ) : Outlet ε (σ × List Report) where
  report r s := (outlet.report r s.1).map fun sink => (sink, s.2 ++ [r])
  debug line s := (outlet.debug line s.1, s.2)

/-- What the outlet takes is what gets on the list. -/
theorem accept_logged :
    ∀ {rs : List Report} {s t : σ} (log : List Report), outlet.accept rs s = .ok t →
      outlet.logged.accept rs (s, log) = .ok (t, log ++ rs)
  | [], s, t, log, h => by
    rw [accept, Except.ok.injEq] at h
    rw [accept, h, List.append_nil]
  | r :: rs, s, t, log, h => by
    rw [accept] at h
    cases hr : outlet.report r s with
    | ok s1 =>
      rw [hr] at h
      have hlogged : outlet.logged.report r (s, log) = .ok (s1, log ++ [r]) := by
        simp only [logged, hr, Except.map]
      rw [accept, hlogged]
      simp only
      rw [accept_logged (log ++ [r]) h, List.append_assoc, List.singleton_append]
    | error e =>
      rw [hr] at h
      exact absurd h (by simp)

/-- A refusal falls on the first part of a list, or on the second after the first was taken. -/
theorem refusal_split {ys : List Report} {e : ε} :
    ∀ {xs : List Report} {s : σ}, outlet.accept (xs ++ ys) s = .error e →
      outlet.accept xs s = .error e ∨
        ∃ s', outlet.accept xs s = .ok s' ∧ outlet.accept ys s' = .error e
  | [], s, h => Or.inr ⟨s, rfl, h⟩
  | r :: xs, s, h => by
    rw [List.cons_append, accept] at h
    rw [accept]
    cases hr : outlet.report r s with
    | ok s1 =>
      rw [hr] at h
      exact refusal_split h
    | error e' =>
      rw [hr] at h
      exact Or.inl h

end Outlet

/-- What a walk or a visit returns, and what is heard of it. -/
structure Outcome (ε : Type) where
  result : Except ε WalkResult
  reports : List Report

namespace Walk

variable {p : Policy} {outlet : Outlet ε σ} {u : SourceUnit} {s : Walk σ}

/-- The same state with an empty list beside the outlet. -/
def listening (s : Walk σ) : Walk (σ × List Report) := { s with sink := (s.sink, []) }

/-- The reports that the outlet takes during a walk, in order. -/
def heard (p : Policy) (outlet : Outlet ε σ) (u : SourceUnit) (s : Walk σ) : List Report :=
  (unitOf p outlet.logged u s.listening).2.sink.2

theorem heard_of_accept {sink : σ}
    (h : outlet.accept ((p.unitFindings s.pool u.classes).map Violation.report) s.sink
      = .ok sink) :
    s.heard p outlet u = (p.unitFindings s.pool u.classes).map Violation.report := by
  have hlogged := Outlet.accept_logged [] h
  have hwalk := unitOf_of_accept (s := s.listening) (u := u) hlogged
  rw [heard, hwalk]
  rfl

/-! ## 2. A walk that returns has delivered everything -/

theorem deliverAll_of_error {e : ε} :
    ∀ {vs : List Violation} {s : Walk σ},
      outlet.accept (vs.map Violation.report) s.sink = .error e →
      ∃ s', deliverAll outlet vs s = (some e, s')
  | [], _, h => absurd h (by simp [Outlet.accept])
  | v :: vs, s, h => by
    rw [List.map_cons, Outlet.accept] at h
    cases hr : outlet.report v.report s.sink with
    | ok sink =>
      rw [hr] at h
      rw [deliverAll, deliver_of_ok hr]
      exact deliverAll_of_error h
    | error e' =>
      rw [hr, Except.error.injEq] at h
      exact ⟨s, by rw [deliverAll, deliver_of_error hr, h]⟩

/-- A refusal of a report on the first class ends a walk. -/
theorem classes_cons_of_error {c : Nat} {cs : List Nat} {tally : Tally} {e : ε}
    (h : outlet.accept ((p.unitFindings s.pool [c]).map Violation.report) s.sink = .error e) :
    ∃ w, classes p outlet (c :: cs) tally s = (.error e, w) := by
  rw [Policy.unitFindings_singleton] at h
  cases hk : s.pool[c]? with
  | none =>
    rw [hk] at h
    exact absurd h (by simp [Outlet.accept])
  | some k =>
    simp only [hk, Option.elim_some] at h
    by_cases hs : p.Skips k
    · exact absurd h (by simp [hs, Outlet.accept])
    · rw [if_neg hs] at h
      obtain ⟨w, hd⟩ := deliverAll_of_error (s := s.injectedAt p c k) h
      refine ⟨w, ?_⟩
      rw [classes, hk]
      simp only [Policy.skipReason_eq_none_iff.mpr hs, treat_eq hk hs hd, Option.elim_some]

theorem classes_of_error {e : ε} :
    ∀ {cs : List Nat} (tally : Tally) {s : Walk σ},
      outlet.accept ((p.unitFindings s.pool cs).map Violation.report) s.sink = .error e →
      ∃ w, classes p outlet cs tally s = (.error e, w)
  | [], _, _, h => absurd h (by simp [Policy.unitFindings, occurrences, Outlet.accept])
  | c :: cs, tally, s, h => by
    rw [Policy.unitFindings_cons, List.map_append] at h
    rcases Outlet.refusal_split h with h1 | ⟨sink, h1, h2⟩
    · exact classes_cons_of_error h1
    · rw [classes_cons h1]
      apply classes_of_error
      simpa [walked] using h2

/-- **A walk that returns a result has delivered everything.** -/
theorem accept_of_unitOf {result : WalkResult} {w : Walk σ}
    (h : unitOf p outlet u s = (.ok result, w)) :
    outlet.accept ((p.unitFindings s.pool u.classes).map Violation.report) s.sink = .ok w.sink := by
  cases ha : outlet.accept ((p.unitFindings s.pool u.classes).map Violation.report) s.sink with
  | ok sink =>
    rw [unitOf_of_accept ha, Prod.mk.injEq] at h
    rw [← h.2]
    rfl
  | error e =>
    obtain ⟨w', hw⟩ := classes_of_error (s := s.begun u) {} ha
    rw [unitOf_of_error hw, Prod.mk.injEq] at h
    exact absurd h.1 (by simp)

/-! ## 3. The classes after a walk, however it ended -/

theorem pool_deliverAll (outlet : Outlet ε σ) :
    ∀ (vs : List Violation) (s : Walk σ), (deliverAll outlet vs s).2.pool = s.pool
  | [], _ => rfl
  | v :: vs, s => by
    rw [deliverAll, deliver]
    cases outlet.report v.report s.sink with
    | ok sink => exact pool_deliverAll outlet vs _
    | error e => rfl

/-- A walk ends with some first part of its classes treated, and the others left as they were. -/
theorem pool_classes (p : Policy) (outlet : Outlet ε σ) :
    ∀ (cs : List Nat) (tally : Tally) (s : Walk σ), ∃ front, front <+: cs ∧
      (classes p outlet cs tally s).2.pool = p.settledPool front s.pool
  | [], _, s => ⟨[], List.prefix_rfl, (Policy.settledPool_nil p s.pool).symm⟩
  | c :: cs, tally, s => by
    -- What is left to do once class `c` was dealt with and the walk goes on in state `s'`.
    have hrest : ∀ (tally : Tally) (s' : Walk σ), s'.pool = p.settledPool [c] s.pool →
        ∃ front, front <+: c :: cs ∧
          (classes p outlet cs tally s').2.pool = p.settledPool front s.pool := by
      intro tally s' hs'
      obtain ⟨front, hfront, hpool⟩ := pool_classes p outlet cs tally s'
      refine ⟨c :: front, (List.prefix_cons_inj c).mpr hfront, ?_⟩
      rw [hpool, hs', Policy.settledPool_settledPool, List.singleton_append]
    rw [classes]
    cases hk : s.pool[c]? with
    | none => exact hrest _ _ (Policy.settledPool_of_not_injects p s.pool (by simp [hk])).symm
    | some k =>
      cases hr : p.skipReason k with
      | some reason =>
        have hi : ¬ p.Injects k := fun hi => hi.1 (Policy.skips_of_skipReason hr)
        simp only [hr]
        exact hrest _ _ (Policy.settledPool_of_not_injects p s.pool (by simp [hk, hi])).symm
      | none =>
        have hs := Policy.skipReason_eq_none_iff.mp hr
        have hpool := pool_deliverAll outlet (p.findings c k) (s.injectedAt p c k)
        cases hd : (s.injectedAt p c k).deliverAll outlet (p.findings c k) with
        | mk refusal s' =>
          rw [hd] at hpool
          simp only [hr, treat_eq hk hs hd]
          cases refusal with
          | none => exact hrest _ _ hpool
          | some e => exact ⟨[c], (List.prefix_cons_inj c).mpr List.nil_prefix, hpool⟩

/-- **The classes after a walk.**  Whatever the outlet refused, the classes up to some place of the
unit are treated, and all others are as they were. -/
theorem pool_unitOf (p : Policy) (outlet : Outlet ε σ) (u : SourceUnit) (s : Walk σ) :
    ∃ front, front <+: u.classes ∧ (unitOf p outlet u s).2.pool = p.settledPool front s.pool := by
  obtain ⟨front, hfront, hpool⟩ := pool_classes p outlet u.classes {} (s.begun u)
  refine ⟨front, hfront, ?_⟩
  cases hc : classes p outlet u.classes {} (s.begun u) with
  | mk result w =>
    rw [hc] at hpool
    cases result with
    | ok tally =>
      rw [unitOf_of_ok hc]
      exact hpool
    | error e =>
      rw [unitOf_of_error hc]
      exact hpool

end Walk

end TypingPolicy
