import TypingPolicy.Proofs.Rules

/-!
# Reports on their way to an outlet

`Walk.deliverAll` interleaves three things: the outlet's state, the trace and the counter.  Here
they are taken apart.  What the outlet does with a list of reports is `Outlet.accept`, which knows
nothing of walks; what the trace does with a list of happenings is `Trace.recordAll`.  The two
main statements say how a delivery ends, in terms of these:

* `deliverAll_of_accept`: if the outlet takes all reports, everything is recorded and counted;
* `deliverAll_of_refusal`: if it refuses one, exactly the reports before that one are recorded and
  counted.
-/

namespace TypingPolicy

variable {ε σ : Type}

/-! ## 1. What an outlet does with a list of reports -/

namespace Outlet

/-- Hands over reports one by one until one is refused. -/
def accept (outlet : Outlet ε σ) : List Report → σ → Except ε σ
  | [], s => .ok s
  | r :: rest, s =>
    match outlet.report r s with
    | .ok s => accept outlet rest s
    | .error e => .error e

/-- From state `s` on the outlet refuses nothing, whatever it is handed. -/
def Unfailing (outlet : Outlet ε σ) (s : σ) : Prop := ∀ rs, ∃ s', outlet.accept rs s = .ok s'

/-- What is accepted in one go is accepted in two. -/
theorem accept_split {outlet : Outlet ε σ} {ys : List Report} :
    ∀ {xs : List Report} {s t : σ}, outlet.accept (xs ++ ys) s = .ok t →
      ∃ s', outlet.accept xs s = .ok s' ∧ outlet.accept ys s' = .ok t
  | [], s, _, h => ⟨s, rfl, h⟩
  | r :: xs, s, t, h => by
    rw [List.cons_append, accept] at h
    cases hr : outlet.report r s with
    | ok s1 =>
      rw [hr] at h
      obtain ⟨s', h1, h2⟩ := accept_split h
      exact ⟨s', by rw [accept, hr]; exact h1, h2⟩
    | error e =>
      rw [hr] at h
      exact absurd h (by simp)

end Outlet

namespace Collector

/-- A collector after it received `rs`. -/
def gained (rs : List Report) (k : Collector) : Collector := { k with reports := k.reports ++ rs }

@[simp] theorem reports_gained (rs : List Report) (k : Collector) :
    (k.gained rs).reports = k.reports ++ rs := rfl

@[simp] theorem capacity_gained (rs : List Report) (k : Collector) :
    (k.gained rs).capacity = k.capacity := rfl

@[simp] theorem gained_gained (rs rs' : List Report) (k : Collector) :
    (k.gained rs).gained rs' = k.gained (rs ++ rs') := by
  simp [gained]

/-- A collector takes what there is room for. -/
theorem accept_of_room :
    ∀ (rs : List Report) (k : Collector),
      (∀ n, k.capacity = some n → rs.length ≤ n - k.reports.length) →
      outlet.accept rs k = .ok (k.gained rs)
  | [], k, _ => by simp [Outlet.accept, gained]
  | r :: rs, k, h => by
    have hfull : k.isFull = false := by
      unfold isFull
      cases hc : k.capacity with
      | none => rfl
      | some n =>
        have := h n hc
        simp only [List.length_cons] at this
        simp only [Option.any_some, decide_eq_false_iff_not]
        omega
    have hr : outlet.report r k = .ok (k.gained [r]) := by
      simp [outlet, add, hfull, gained]
    rw [Outlet.accept, hr]
    simp only
    rw [accept_of_room rs]
    · simp
    · intro n hn
      have := h n hn
      simp only [List.length_cons, reports_gained, List.length_append, List.length_nil] at this ⊢
      omega

theorem accept_of_unlimited {k : Collector} (h : k.capacity = none) (rs : List Report) :
    outlet.accept rs k = .ok (k.gained rs) :=
  accept_of_room rs k (fun n hn => absurd (h.symm.trans hn) (by simp))

theorem unfailing_of_unlimited {k : Collector} (h : k.capacity = none) : outlet.Unfailing k :=
  fun rs => ⟨_, accept_of_unlimited h rs⟩

theorem report_of_full {k : Collector} {n : Nat} (hc : k.capacity = some n)
    (hn : n ≤ k.reports.length) (r : Report) : outlet.report r k = .error .full := by
  simp [outlet, add, isFull, hc, hn]

/-- Debug lines leave a collector as it is. -/
theorem foldl_debug (lines : List String) (k : Collector) :
    lines.foldl (fun s line => outlet.debug line s) k = k := by
  induction lines with
  | nil => rfl
  | cons line lines ih => exact ih

end Collector

/-! ## 2. What a trace does with a list of happenings -/

namespace Trace

/-- Records one happening after the other, all with the same parent. -/
def recordAll (hs : List Happening) (parent : Option Nat) (t : Trace) : Trace :=
  hs.foldl (fun t what => t.record what parent) t

@[simp] theorem recordAll_nil (parent : Option Nat) (t : Trace) : t.recordAll [] parent = t := rfl

@[simp] theorem recordAll_cons (what : Happening) (hs : List Happening) (parent : Option Nat)
    (t : Trace) : t.recordAll (what :: hs) parent = (t.record what parent).recordAll hs parent := rfl

theorem recordAll_append (hs hs' : List Happening) (parent : Option Nat) (t : Trace) :
    t.recordAll (hs ++ hs') parent = (t.recordAll hs parent).recordAll hs' parent := by
  simp only [recordAll, List.foldl_append]

@[simp] theorem enabled_record (what : Happening) (parent : Option Nat) (t : Trace) :
    (t.record what parent).enabled = t.enabled := rfl

/-- The happenings as events, numbered from `start`. -/
def numbered (parent : Option Nat) (start : Nat) (hs : List Happening) : List Event :=
  (hs.zipIdx start).map fun (what, id) => ⟨id, parent, what⟩

theorem map_what_numbered (parent : Option Nat) (start : Nat) (hs : List Happening) :
    (numbered parent start hs).map (·.what) = hs := by
  rw [numbered, List.map_map]
  exact List.zipIdx_map_fst start hs

/-- The events that a recording trace gains carry the numbers that are due. -/
theorem events_recordAll {parent : Option Nat} :
    ∀ (hs : List Happening) {t : Trace}, t.enabled = true →
      (t.recordAll hs parent).events = t.events ++ numbered parent t.issued hs
  | [], t, _ => by simp [numbered]
  | what :: hs, t, ht => by
    rw [recordAll_cons, events_recordAll hs (by simpa using ht)]
    simp [record, ht, numbered]

/-- The events of one kind that a recording trace gains are the happenings of that kind. -/
theorem eventsOf_recordAll {t : Trace} (ht : t.enabled = true) (kind : EventKind)
    (hs : List Happening) (parent : Option Nat) :
    ∃ events, (t.recordAll hs parent).eventsOf kind = t.eventsOf kind ++ events ∧
      events.map (·.what) = hs.filter (·.kind = kind) := by
  refine ⟨(numbered parent t.issued hs).filter (·.what.kind = kind), ?_, ?_⟩
  · rw [eventsOf, events_recordAll hs ht, List.filter_append, eventsOf]
  · conv => rhs; rw [← map_what_numbered parent t.issued hs, List.filter_map]
    rfl

end Trace

/-! ## 3. What a walk does with a list of violations -/

/-- What the trace says of a reported violation. -/
def Violation.happening (v : Violation) : Happening :=
  .violated v.subject.name v.kind.label v.message

namespace Walk

/-- The state after the violations `vs` were reported, which brought the outlet into state `sink`.
-/
def delivered (vs : List Violation) (sink : σ) (s : Walk σ) : Walk σ :=
  { s with
    sink
    trace := s.trace.recordAll (vs.map Violation.happening) s.unit
    reported := s.reported + vs.length }

theorem deliver_of_ok {outlet : Outlet ε σ} {v : Violation} {s : Walk σ} {sink : σ}
    (h : outlet.report v.report s.sink = .ok sink) :
    s.deliver outlet v = .ok (s.delivered [v] sink) := by
  rw [deliver, h]
  rfl

theorem deliver_of_error {outlet : Outlet ε σ} {v : Violation} {s : Walk σ} {e : ε}
    (h : outlet.report v.report s.sink = .error e) : s.deliver outlet v = .error e := by
  rw [deliver, h]
  rfl

theorem delivered_delivered (vs ws : List Violation) (sink sink' : σ) (s : Walk σ) :
    (s.delivered vs sink).delivered ws sink' = s.delivered (vs ++ ws) sink' := by
  simp [delivered, Trace.recordAll_append, Nat.add_assoc]

/-- Delivery goes on where the accepted reports end. -/
theorem deliverAll_append {outlet : Outlet ε σ} (ws : List Violation) :
    ∀ {vs : List Violation} {s : Walk σ} {sink : σ},
      outlet.accept (vs.map Violation.report) s.sink = .ok sink →
      deliverAll outlet (vs ++ ws) s = deliverAll outlet ws (s.delivered vs sink)
  | [], s, sink, h => by
    rw [List.map_nil, Outlet.accept, Except.ok.injEq] at h
    subst h
    rfl
  | v :: vs, s, sink, h => by
    rw [List.map_cons, Outlet.accept] at h
    cases hr : outlet.report v.report s.sink with
    | ok sink1 =>
      rw [hr] at h
      rw [List.cons_append, deliverAll, deliver_of_ok hr]
      simp only
      rw [deliverAll_append ws h, delivered_delivered, List.singleton_append]
    | error e =>
      rw [hr] at h
      exact absurd h (by simp)

theorem deliverAll_of_accept {outlet : Outlet ε σ} {vs : List Violation} {s : Walk σ} {sink : σ}
    (h : outlet.accept (vs.map Violation.report) s.sink = .ok sink) :
    deliverAll outlet vs s = (none, s.delivered vs sink) := by
  have := deliverAll_append [] h
  rwa [List.append_nil, deliverAll] at this

theorem deliverAll_of_refusal {outlet : Outlet ε σ} {vs ws : List Violation} {v : Violation}
    {s : Walk σ} {sink : σ} {e : ε}
    (h : outlet.accept (vs.map Violation.report) s.sink = .ok sink)
    (he : outlet.report v.report sink = .error e) :
    deliverAll outlet (vs ++ v :: ws) s = (some e, s.delivered vs sink) := by
  rw [deliverAll_append (v :: ws) h, deliverAll, deliver_of_error he]

end Walk

end TypingPolicy
