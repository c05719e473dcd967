import TypingPolicy.Proofs.Completion
import TypingPolicy.Proofs.Lifecycle

/-!
# Walks in lockstep

Two walks of one unit through the same classes, under the same policy, may still differ in two
things: in what their traces hold, and in what their outlets have been told besides reports.  No
walk reads a trace, and a walk hears from its outlet only whether a report was refused.  So, as
long as no report tells the two outlets apart (`Outlet.Blind`), the walks go in step: they return
the same, they leave the same classes, and they record the same happenings, each under the
identifier of its own unit.

The relation that every step keeps is `Walk.Like`.  What follows for whole walks is
`unitOf_inStep`; the hosts of later files meet it as `walkUnder_inStep`.
-/

namespace TypingPolicy

variable {ε σ : Type}

/-! ## 1. Outlets that reports cannot tell apart -/

namespace Outlet

/-- The same refusal twice, or two states that `R` relates. -/
def Agree (R : σ → σ → Prop) : Except ε σ → Except ε σ → Prop
  | .ok s, .ok t => R s t
  | .error e, .error f => e = f
  | _, _ => False

/-- No report tells apart two states that `R` relates, nor leads to states that it does not. -/
def Blind (outlet : Outlet ε σ) (R : σ → σ → Prop) : Prop :=
  ∀ (r : Report) (s t : σ), R s t → Agree R (outlet.report r s) (outlet.report r t)

variable {outlet : Outlet ε σ} {R : σ → σ → Prop}

/-- What a report comes to in two related states. -/
theorem Blind.cases (h : outlet.Blind R) (r : Report) {s t : σ} (hst : R s t) :
    (∃ s' t', outlet.report r s = .ok s' ∧ outlet.report r t = .ok t' ∧ R s' t') ∨
      ∃ e, outlet.report r s = .error e ∧ outlet.report r t = .error e := by
  have hr := h r s t hst
  cases hs : outlet.report r s with
  | ok s' =>
    cases ht : outlet.report r t with
    | ok t' =>
      rw [hs, ht] at hr
      exact Or.inl ⟨s', t', rfl, rfl, hr⟩
    | error e =>
      rw [hs, ht] at hr
      exact hr.elim
  | error e =>
    cases ht : outlet.report r t with
    | ok t' =>
      rw [hs, ht] at hr
      exact hr.elim
    | error f =>
      rw [hs, ht] at hr
      exact Or.inr ⟨e, rfl, by rw [show e = f from hr]⟩

/-- Nothing tells a state from itself. -/
theorem blind_eq (outlet : Outlet ε σ) : outlet.Blind Eq := by
  rintro r s t rfl
  cases outlet.report r s with
  | ok s' => exact rfl
  | error e => exact rfl

/-- A list of reports beside the outlet is the same list in both states. -/
theorem Blind.logged (h : outlet.Blind R) :
    outlet.logged.Blind fun s t => R s.1 t.1 ∧ s.2 = t.2 := by
  rintro r ⟨s, log⟩ ⟨t, log'⟩ ⟨hst, hlog⟩
  obtain rfl : log = log' := hlog
  rcases h.cases r hst with ⟨s', t', hs, ht, hst'⟩ | ⟨e, hs, ht⟩
  · simp only [Outlet.logged, hs, ht, Except.map]
    exact ⟨hst', rfl⟩
  · simp only [Outlet.logged, hs, ht, Except.map]
    exact rfl

end Outlet

/-! ## 2. What every step of a walk keeps -/

namespace Walk

/-- Two walks that have gone in step since their traces were `b` and `c` and their units `m` and
`n`: same classes, same count, related sinks, and the same happenings in both traces. -/
structure Like (R : σ → σ → Prop) (b c : Trace) (m n : Option Nat) (s t : Walk σ) : Prop where
  pool : s.pool = t.pool
  sink : R s.sink t.sink
  reported : s.reported = t.reported
  units : s.unit = m ∧ t.unit = n
  recorded : ∃ hs, s.trace = b.recordAll hs m ∧ t.trace = c.recordAll hs n

/-- Two calls that return the same and leave walks in step. -/
def InStep {α : Type} (R : σ → σ → Prop) (b c : Trace) (m n : Option Nat) (x y : α × Walk σ) :
    Prop :=
  x.1 = y.1 ∧ Like R b c m n x.2 y.2

variable {R : σ → σ → Prop} {b c : Trace} {m n : Option Nat} {s t : Walk σ} {p : Policy}
  {outlet : Outlet ε σ}

namespace Like

theorem note (h : Like R b c m n s t) (what : Happening) :
    Like R b c m n (s.note what) (t.note what) := by
  obtain ⟨hs, hb, hc⟩ := h.recorded
  refine ⟨h.pool, h.sink, h.reported, h.units, hs ++ [what], ?_, ?_⟩
  · rw [Trace.recordAll_append, ← hb, Walk.note, h.units.1]
    rfl
  · rw [Trace.recordAll_append, ← hc, Walk.note, h.units.2]
    rfl

theorem delivered (h : Like R b c m n s t) (vs : List Violation) {a a' : σ} (ha : R a a') :
    Like R b c m n (s.delivered vs a) (t.delivered vs a') := by
  obtain ⟨hs, hb, hc⟩ := h.recorded
  refine ⟨h.pool, ha, ?_, h.units, hs ++ vs.map Violation.happening, ?_, ?_⟩
  · simp only [Walk.delivered, h.reported]
  · rw [Trace.recordAll_append, ← hb, Walk.delivered, h.units.1]
  · rw [Trace.recordAll_append, ← hc, Walk.delivered, h.units.2]

theorem inject (h : Like R b c m n s t) (p : Policy) (i : Nat) (k : ClassDecl) :
    InStep R b c m n (s.inject p i k) (t.inject p i k) := by
  unfold Walk.inject
  cases k.isMarked with
  | true => exact ⟨rfl, h⟩
  | false =>
    refine ⟨rfl, note ?_ _⟩
    exact ⟨by simp only [h.pool], h.sink, h.reported, h.units, h.recorded⟩

theorem deliverAll (hout : outlet.Blind R) :
    ∀ (vs : List Violation) {s t : Walk σ}, Like R b c m n s t →
      InStep R b c m n (Walk.deliverAll outlet vs s) (Walk.deliverAll outlet vs t)
  | [], _, _, h => ⟨rfl, h⟩
  | v :: vs, s, t, h => by
    rw [Walk.deliverAll, Walk.deliverAll]
    rcases hout.cases v.report h.sink with ⟨s', t', hs, ht, hst⟩ | ⟨e, hs, ht⟩
    · rw [deliver_of_ok hs, deliver_of_ok ht]
      exact deliverAll hout vs (h.delivered [v] hst)
    · rw [deliver_of_error hs, deliver_of_error ht]
      exact ⟨rfl, h⟩

theorem enforce (hout : outlet.Blind R) (h : Like R b c m n s t) (i : Nat) (k : ClassDecl) :
    InStep R b c m n (s.enforce p outlet i k) (t.enforce p outlet i k) := by
  unfold Walk.enforce
  split
  · exact deliverAll hout _ h
  · exact ⟨rfl, h⟩

theorem treat (hout : outlet.Blind R) (h : Like R b c m n s t) (i : Nat) (k : ClassDecl)
    (tally : Tally) :
    InStep R b c m n (s.treat p outlet i k tally) (t.treat p outlet i k tally) := by
  obtain ⟨hadded, hi⟩ := h.inject p i k
  unfold Walk.treat
  simp only [hadded]
  obtain ⟨hrefusal, he⟩ := enforce (p := p) hout hi i
    (if (t.inject p i k).1 = true then k.addDirective p.staticDirective else k)
  revert hrefusal he
  generalize Walk.enforce p outlet i _ (s.inject p i k).2 = x
  generalize Walk.enforce p outlet i _ (t.inject p i k).2 = y
  obtain ⟨refusal, s'⟩ := x
  obtain ⟨refusal', t'⟩ := y
  rintro rfl he
  cases refusal with
  | none => exact ⟨rfl, he⟩
  | some e => exact ⟨rfl, he⟩

/-- **Walks in step stay in step**, class by class. -/
theorem classes (hout : outlet.Blind R) :
    ∀ (cs : List Nat) (tally : Tally) {s t : Walk σ}, Like R b c m n s t →
      InStep R b c m n (Walk.classes p outlet cs tally s) (Walk.classes p outlet cs tally t)
  | [], _, _, _, h => ⟨rfl, h⟩
  | i :: cs, tally, s, t, h => by
    rw [Walk.classes, Walk.classes, h.pool]
    cases t.pool[i]? with
    | none => exact classes hout cs tally h
    | some k =>
      cases hr : p.skipReason k with
      | some reason =>
        simp only [hr]
        exact classes hout cs _ (h.note _)
      | none =>
        simp only [hr]
        obtain ⟨hresult, ht⟩ := treat (p := p) hout h i k tally
        revert hresult ht
        generalize s.treat p outlet i k tally = x
        generalize t.treat p outlet i k tally = y
        obtain ⟨result, s'⟩ := x
        obtain ⟨result', t'⟩ := y
        rintro rfl ht
        cases result with
        | ok tally => exact classes hout cs tally ht
        | error e => exact ⟨rfl, ht⟩

end Like

/-! ## 3. Whole walks -/

/-- **Two walks of one unit.**  Whatever the traces hold, the walks return the same, leave the same
classes and related sinks, and record the same happenings after the beginning of the unit. -/
theorem unitOf_inStep (hout : outlet.Blind R) (p : Policy) (u : SourceUnit)
    (hpool : s.pool = t.pool) (hsink : R s.sink t.sink) :
    (unitOf p outlet u s).1 = (unitOf p outlet u t).1 ∧
      (unitOf p outlet u s).2.pool = (unitOf p outlet u t).2.pool ∧
      R (unitOf p outlet u s).2.sink (unitOf p outlet u t).2.sink ∧
      ∃ hs, (unitOf p outlet u s).2.trace
          = (s.trace.record (.unitStarted u.name) none).recordAll hs (some s.trace.issued) ∧
        (unitOf p outlet u t).2.trace
          = (t.trace.record (.unitStarted u.name) none).recordAll hs (some t.trace.issued) := by
  have hbegun : Like R (s.begun u).trace (t.begun u).trace (s.begun u).unit (t.begun u).unit
      (s.begun u) (t.begun u) := ⟨hpool, hsink, rfl, ⟨rfl, rfl⟩, [], rfl, rfl⟩
  obtain ⟨hresult, hlike⟩ := Like.classes (p := p) hout u.classes {} hbegun
  cases hs : classes p outlet u.classes {} (s.begun u) with
  | mk result s' =>
    cases ht : classes p outlet u.classes {} (t.begun u) with
    | mk result' t' =>
      rw [hs, ht] at hresult hlike
      obtain rfl : result = result' := hresult
      cases result with
      | ok tally =>
        rw [unitOf_of_ok hs, unitOf_of_ok ht, show s'.reported = t'.reported from hlike.reported]
        exact ⟨rfl, hlike.pool, hlike.sink, hlike.recorded⟩
      | error e =>
        rw [unitOf_of_error hs, unitOf_of_error ht]
        exact ⟨rfl, hlike.pool, hlike.sink, hlike.recorded⟩

end Walk

namespace Host

variable {R : σ → σ → Prop} {outlet : Outlet ε σ} {h h' : Host σ}

/-- The same for the walks of two hosts. -/
theorem walkUnder_inStep (hout : outlet.Blind R) (p : Policy) (u : SourceUnit)
    (hpool : h.pool = h'.pool) (hsink : R h.sink h'.sink) :
    (h.walkUnder p outlet u).1 = (h'.walkUnder p outlet u).1 ∧
      (h.walkUnder p outlet u).2.pool = (h'.walkUnder p outlet u).2.pool ∧
      R (h.walkUnder p outlet u).2.sink (h'.walkUnder p outlet u).2.sink ∧
      ∃ hs, (h.walkUnder p outlet u).2.trace
          = (h.trace.record (.unitStarted u.name) none).recordAll hs (some h.trace.issued) ∧
        (h'.walkUnder p outlet u).2.trace
          = (h'.trace.record (.unitStarted u.name) none).recordAll hs (some h'.trace.issued) :=
  Walk.unitOf_inStep (s := { pool := h.pool, trace := h.trace, sink := h.sink })
    (t := { pool := h'.pool, trace := h'.trace, sink := h'.sink }) hout p u hpool hsink

end Host

end TypingPolicy
