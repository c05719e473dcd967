import TypingPolicy.Proofs.Lifecycle
import TypingPolicy.Proofs.Traversal

/-!
# A sink that runs full

A report that the sink refuses ends the visit wherever it stands, in the middle of a class if need
be.  What was injected stays injected.  The file locates the class at which this happens
(`exists_overflow`), says what a walk leaves behind there (`unitOf_of_overflow`), and carries both
over to visits.  The main statement, `visit_with_capacity`, compares a visit to a sink of limited
capacity with the visit that the same host would have made without the limit, and with the one
that it makes after the sink was replaced.

Recovery rests on two facts of earlier files: injection is invisible to the rules, and it happens
once.
-/

namespace TypingPolicy

variable {ε σ : Type}

/-! ## 1. Where a walk stops -/

namespace Policy

/-- The class at which report number `m` (counted from zero) is due. -/
theorem exists_overflow {p : Policy} {pool : List ClassDecl} :
    ∀ {cs : List Nat} {m : Nat}, m < (p.unitFindings pool cs).length →
      ∃ front c rest, cs = front ++ c :: rest ∧ (p.unitFindings pool front).length ≤ m ∧
        m < (p.unitFindings pool (front ++ [c])).length
  | [], m, h => absurd h (Nat.not_lt_zero m)
  | c :: cs, m, h => by
    rw [unitFindings_cons, List.length_append] at h
    by_cases hc : m < (p.unitFindings pool [c]).length
    · exact ⟨[], c, cs, rfl, Nat.zero_le m, hc⟩
    · have hrest : m - (p.unitFindings pool [c]).length < (p.unitFindings pool cs).length := by
        omega
      obtain ⟨front, d, rest, hcs, hle, hlt⟩ := exists_overflow hrest
      refine ⟨c :: front, d, rest, by rw [hcs, List.cons_append], ?_, ?_⟩
      · rw [unitFindings_cons, List.length_append]
        omega
      · rw [List.cons_append, unitFindings_cons, List.length_append]
        omega

/-- A place at which there is something to find is that of a class that is not passed over. -/
theorem exists_class_of_unitFindings {p : Policy} {pool : List ClassDecl} {c : Nat}
    (h : p.unitFindings pool [c] ≠ []) :
    ∃ k, pool[c]? = some k ∧ ¬ p.Skips k ∧ p.findings c k = p.unitFindings pool [c] := by
  rw [unitFindings_singleton] at h ⊢
  cases hk : pool[c]? with
  | none => exact absurd (by rw [hk]; rfl) h
  | some k =>
    by_cases hs : p.Skips k
    · exact absurd (by simp [hk, hs]) h
    · exact ⟨k, rfl, hs, by simp [hs]⟩

/-- The first `m` reports, if report number `m` is due at class `c`: all those on the classes
before, and the first ones on `c`. -/
theorem take_unitFindings {p : Policy} {pool : List ClassDecl} {front : List Nat} {c m : Nat}
    (rest : List Nat) (hle : (p.unitFindings pool front).length ≤ m)
    (hlt : m < (p.unitFindings pool (front ++ [c])).length) :
    (p.unitFindings pool (front ++ c :: rest)).take m
      = p.unitFindings pool front
        ++ (p.unitFindings pool [c]).take (m - (p.unitFindings pool front).length) := by
  rw [unitFindings_append, List.length_append] at hlt
  rw [unitFindings_append, unitFindings_cons, List.take_append, List.take_of_length_le hle,
    List.take_append_of_le_length (by omega)]

end Policy

namespace Walk

variable {p : Policy} {outlet : Outlet ε σ} {s : Walk σ}

/-- **The last step of a walk that is cut short.**  The class is injected, and of its violations
those before the refused one are reported. -/
theorem classes_of_refusal {c : Nat} {k : ClassDecl} {cs : List Nat} {tally : Tally} {sink : σ}
    {vs ws : List Violation} {v : Violation} {e : ε} (hk : s.pool[c]? = some k)
    (hs : ¬ p.Skips k) (hf : p.findings c k = vs ++ v :: ws)
    (hok : outlet.accept (vs.map Violation.report) s.sink = .ok sink)
    (he : outlet.report v.report sink = .error e) :
    classes p outlet (c :: cs) tally s = (.error e, (s.injectedAt p c k).delivered vs sink) := by
  have hd : (s.injectedAt p c k).deliverAll outlet (p.findings c k)
      = (some e, (s.injectedAt p c k).delivered vs sink) := by
    rw [hf]
    exact deliverAll_of_refusal hok he
  rw [classes, hk]
  simp only [Policy.skipReason_eq_none_iff.mpr hs, treat_eq hk hs hd, Option.elim_some]

/-- A collector runs full at class `c`. -/
theorem classes_of_overflow {s : Walk Collector} {c n j : Nat} (cs : List Nat) (tally : Tally)
    (hcap : s.sink.capacity = some n) (hj : j = n - s.sink.reports.length)
    (hover : j < (p.unitFindings s.pool [c]).length) :
    ∃ k, classes p Collector.outlet (c :: cs) tally s
      = (.error .full,
         (s.injectedAt p c k).delivered ((p.unitFindings s.pool [c]).take j)
           (s.sink.gained (((p.unitFindings s.pool [c]).take j).map Violation.report))) := by
  obtain ⟨k, hk, hs, hfind⟩ :=
    Policy.exists_class_of_unitFindings (List.ne_nil_of_length_pos (Nat.zero_lt_of_lt hover))
  refine ⟨k, ?_⟩
  rw [← hfind] at hover ⊢
  have hsplit : p.findings c k
      = (p.findings c k).take j ++ (p.findings c k)[j] :: (p.findings c k).drop (j + 1) := by
    rw [← List.drop_eq_getElem_cons hover, List.take_append_drop]
  refine classes_of_refusal hk hs hsplit (Collector.accept_of_room _ _ ?_)
    (Collector.report_of_full ((Collector.capacity_gained _ _).trans hcap) ?_ _)
  · intro n' hn'
    rw [hcap, Option.some.injEq] at hn'
    simp only [List.length_map, List.length_take]
    omega
  · simp only [Collector.reports_gained, List.length_append, List.length_map, List.length_take]
    omega

/-- **A walk into a collector that runs full.**  It ends in the class at which the first report
without room is due.  All classes up to that one have been injected, and of the violations exactly
those that there was room for have been reported, recorded and counted. -/
theorem unitOf_of_overflow {s : Walk Collector} {u : SourceUnit} {n m : Nat}
    (hcap : s.sink.capacity = some n) (hm : m = n - s.sink.reports.length)
    (hover : m < (p.unitFindings s.pool u.classes).length) :
    ∃ front c rest hs, u.classes = front ++ c :: rest ∧
      (p.unitFindings s.pool front).length ≤ m ∧
      m < (p.unitFindings s.pool (front ++ [c])).length ∧
      hs.filter (·.kind = .violation)
        = ((p.unitFindings s.pool u.classes).take m).map Violation.happening ∧
      unitOf p Collector.outlet u s
        = (.error .full,
           { pool := p.settledPool (front ++ [c]) s.pool
             trace := (s.begun u).trace.recordAll hs (s.begun u).unit
             sink := s.sink.gained
               (((p.unitFindings s.pool u.classes).take m).map Violation.report)
             unit := (s.begun u).unit
             reported := m }) := by
  obtain ⟨front, c, rest, hcs, hle, hlt⟩ := Policy.exists_overflow hover
  have htake := Policy.take_unitFindings rest hle hlt
  rw [← hcs] at htake
  -- The classes in front leave the walk as usual.
  have hfront : Collector.outlet.accept
      ((p.unitFindings s.pool front).map Violation.report) s.sink
        = .ok (s.sink.gained ((p.unitFindings s.pool front).map Violation.report)) := by
    apply Collector.accept_of_room
    intro n' hn'
    rw [hcap, Option.some.injEq] at hn'
    rw [List.length_map]
    omega
  have hwalk := classes_append (s := s.begun u) (c :: rest) {} hfront
  rw [← hcs] at hwalk
  generalize hs1 : (s.begun u).walked p front
    (s.sink.gained ((p.unitFindings s.pool front).map Violation.report)) = s1 at hwalk
  have hpool : s1.pool = p.settledPool front s.pool := by rw [← hs1]; rfl
  have hsink : s1.sink = s.sink.gained ((p.unitFindings s.pool front).map Violation.report) := by
    rw [← hs1]; rfl
  -- The next class is the one at which the collector runs full.
  have hover1 : m - (p.unitFindings s.pool front).length < (p.unitFindings s1.pool [c]).length := by
    rw [hpool, Policy.unitFindings_settledPool]
    rw [Policy.unitFindings_append, List.length_append] at hlt
    omega
  obtain ⟨k, hstop⟩ := classes_of_overflow rest (p.tallied s.pool front {})
    (n := n) (hsink ▸ hcap)
    (by rw [hsink, Collector.reports_gained, List.length_append, List.length_map]; omega) hover1
  rw [hpool, Policy.unitFindings_settledPool] at hstop hover1
  have hcount : (p.unitFindings s.pool front).length
      + min (m - (p.unitFindings s.pool front).length) (p.unitFindings s.pool [c]).length = m := by
    omega
  refine ⟨front, c, rest, p.happenings s.pool front ++ p.injection c k
    ++ ((p.unitFindings s.pool [c]).take (m - (p.unitFindings s.pool front).length)).map
      Violation.happening, hcs, hle, hlt, ?_, ?_⟩
  · rw [List.filter_append, List.filter_append, Policy.violations_happenings,
      Policy.violations_injection, Policy.violations_map_happening, List.append_nil, htake,
      List.map_append]
  · rw [unitOf_of_error (hwalk.trans hstop), htake]
    simp [delivered, injectedAt, ← hs1, walked, begun, Policy.settledPool_settledPool,
      Trace.recordAll_append, hcount]

end Walk

/-! ## 2. Visits to a collector -/

namespace Host

/-- The policy in force during a visit. -/
def inForce (h : Host Collector) : Policy := (h.ensureInitialised Collector.outlet none).1

/-- The host when the walk of a visit begins. -/
def readied (h : Host Collector) : Host Collector := (h.ensureInitialised Collector.outlet none).2

variable {h : Host Collector} {u : SourceUnit}

theorem readied_of_none (hp : h.engine.policy = none) :
    h.readied = { h with
      engine := h.engine.configured h.files none
      trace := h.trace.record (.configured (.bool ((h.asks none).ask h.files).1.isSome)
        ((h.asks none).policy h.files).toValue) none } := by
  rw [readied, ensureInitialised_of_none hp, initialise_eq, Collector.foldl_debug]

theorem readied_of_some {p : Policy} (hp : h.engine.policy = some p) : h.readied = h := by
  rw [readied, ensureInitialised_of_some hp]

theorem inForce_of_some {p : Policy} (hp : h.engine.policy = some p) : h.inForce = p := by
  rw [inForce, ensureInitialised_of_some hp]

theorem policy_readied (h : Host Collector) : h.readied.engine.policy = some h.inForce := by
  cases hp : h.engine.policy with
  | none =>
    rw [readied_of_none hp, inForce, ensureInitialised_of_none hp, initialise_eq]
    exact Engine.policy_configured _ _ _
  | some p => rw [readied_of_some hp, hp, inForce_of_some hp]

/-- Getting a policy changes nothing but the engine and the trace, which gains no violation. -/
theorem readied_frame (h : Host Collector) :
    h.readied.pool = h.pool ∧ h.readied.sink = h.sink ∧
      h.readied.engine.excludes = h.engine.excludes ∧
      h.readied.trace.enabled = h.trace.enabled ∧
      h.readied.trace.eventsOf .violation = h.trace.eventsOf .violation := by
  cases hp : h.engine.policy with
  | none =>
    rw [readied_of_none hp]
    exact ⟨rfl, rfl, rfl, rfl, Trace.eventsOf_record_of_ne (by simp [Happening.kind])⟩
  | some p =>
    rw [readied_of_some hp]
    exact ⟨rfl, rfl, rfl, rfl, rfl⟩

/-- Which collector is used makes no difference to the policy. -/
theorem ensureInitialised_with (k : Collector) :
    ({ h with sink := k } : Host Collector).inForce = h.inForce ∧
      ({ h with sink := k } : Host Collector).readied = { h.readied with sink := k } := by
  cases hp : h.engine.policy with
  | none =>
    have hp' : ({ h with sink := k } : Host Collector).engine.policy = none := hp
    rw [readied_of_none hp, readied_of_none hp', inForce, inForce, ensureInitialised_of_none hp,
      ensureInitialised_of_none hp', initialise_eq, initialise_eq]
    exact ⟨rfl, rfl⟩
  | some p =>
    have hp' : ({ h with sink := k } : Host Collector).engine.policy = some p := hp
    rw [readied_of_some hp, readied_of_some hp', inForce_of_some hp, inForce_of_some hp']
    exact ⟨rfl, rfl⟩

/-- What a visit to `u` finds. -/
def findings (h : Host Collector) (u : SourceUnit) : List Violation :=
  h.inForce.unitFindings h.pool u.classes

/-- A visit for which the collector `k` has room. -/
theorem visit_of_room (hx : h.engine.excludes u.name = false) {k : Collector}
    (hroom : ∀ n, k.capacity = some n → (h.findings u).length ≤ n - k.reports.length) :
    Host.visit Collector.outlet u { h with sink := k }
      = (.ok { unit := u.name
               skipped := h.inForce.skippedNames h.pool u.classes
               injected := h.inForce.injectedNames h.pool u.classes
               reported := (h.findings u).length },
         { h.readied with
           pool := h.inForce.settledPool u.classes h.pool
           trace := (h.readied.trace.record (.unitStarted u.name) none).recordAll
             (h.inForce.happenings h.pool u.classes) (some h.readied.trace.issued)
           sink := k.gained ((h.findings u).map Violation.report) }) := by
  have hpool : h.readied.pool = h.pool := (readied_frame h).1
  obtain ⟨hp, hr⟩ := ensureInitialised_with (h := h) k
  have haccept := Collector.accept_of_room ((h.findings u).map Violation.report) k
    (by simpa using hroom)
  have hwalk := Walk.unitOf_of_accept (p := h.inForce) (u := u)
    (s := { pool := h.readied.pool, trace := h.readied.trace, sink := k })
    (by rw [hpool]; exact haccept)
  have hvisit : Host.visit Collector.outlet u { h with sink := k }
      = Host.walkUnder h.inForce Collector.outlet u { h.readied with sink := k } := by
    rw [visit_of_included (h := { h with sink := k }) hx, ← hr, ← hp]
    rfl
  rw [hvisit, walkUnder, hwalk]
  simp only [Walk.walked, Walk.begun, hpool, findings]

/-! ## 3. Interruption and recovery -/

/-- What a visit to `u` leaves behind if the sink refuses report number `m`.  The host `free` is
the one that the visit would have left without a limit. -/
structure Interrupted (h free stopped : Host Collector) (u : SourceUnit) (m : Nat) : Prop where
  /-- The sink has gained the reports before that one. -/
  sink : stopped.sink = h.sink.gained (((h.findings u).take m).map Violation.report)
  /-- A recording trace has gained the events of these reports, and of no others. -/
  events : h.trace.enabled = true → ∃ events,
    stopped.trace.eventsOf .violation = h.trace.eventsOf .violation ++ events ∧
      events.length = m ∧
      events.map (·.what) = ((h.findings u).take m).map Violation.happening
  /-- The engine has its policy. -/
  engine : stopped.engine = free.engine
  /-- The classes up to the one on which the report was due are as `free` has them, the others are
  as they were. -/
  classes : ∃ front c rest, u.classes = front ++ c :: rest ∧
    (h.inForce.unitFindings h.pool front).length ≤ m ∧
    m < (h.inForce.unitFindings h.pool (front ++ [c])).length ∧
    (∀ i ∈ front ++ [c], stopped.pool[i]? = free.pool[i]?) ∧
    ∀ i, i ∉ front ++ [c] → stopped.pool[i]? = h.pool[i]?

/-- A visit for which there is not enough room. -/
theorem visit_of_overflow {n m : Nat} (hx : h.engine.excludes u.name = false)
    (hcap : h.sink.capacity = some n) (hm : m = n - h.sink.reports.length)
    (hover : m < (h.findings u).length) :
    ∃ front c rest hs, u.classes = front ++ c :: rest ∧
      (h.inForce.unitFindings h.pool front).length ≤ m ∧
      m < (h.inForce.unitFindings h.pool (front ++ [c])).length ∧
      hs.filter (·.kind = .violation) = ((h.findings u).take m).map Violation.happening ∧
      h.visit Collector.outlet u
        = (.error .full,
           { h.readied with
             pool := h.inForce.settledPool (front ++ [c]) h.pool
             trace := (h.readied.trace.record (.unitStarted u.name) none).recordAll hs
               (some h.readied.trace.issued)
             sink := h.sink.gained (((h.findings u).take m).map Violation.report) }) := by
  obtain ⟨hpool, hsink, -⟩ := readied_frame h
  obtain ⟨front, c, rest, hs, hcs, hle, hlt, hevents, hwalk⟩ :=
    Walk.unitOf_of_overflow (p := h.inForce) (u := u) (n := n) (m := m)
      (s := { pool := h.readied.pool, trace := h.readied.trace, sink := h.readied.sink })
      (by rw [hsink]; exact hcap) (by rw [hsink]; exact hm) (by rw [hpool]; exact hover)
  rw [hpool] at hle hlt hevents
  refine ⟨front, c, rest, hs, hcs, hle, hlt, hevents, ?_⟩
  rw [visit_of_included hx]
  change h.readied.walkUnder h.inForce Collector.outlet u = _
  rw [walkUnder, hwalk]
  simp only [Walk.begun, hpool, hsink, findings]

/-- A visit to a host on which some of the unit's classes have been injected already, under the same
policy: it finds what there was to find, and makes up for the rest. -/
theorem visit_again {stopped : Host Collector} {cs : List Nat}
    (hx : h.engine.excludes u.name = false) (hengine : stopped.engine = h.readied.engine)
    (hpool : stopped.pool = h.inForce.settledPool cs h.pool) (hcs : ∀ i ∈ cs, i ∈ u.classes)
    {k : Collector} (hk : k.capacity = none) :
    ∃ injected again,
      Host.visit Collector.outlet u { stopped with sink := k }
          = (.ok { unit := u.name
                   skipped := h.inForce.skippedNames h.pool u.classes
                   injected
                   reported := (h.findings u).length }, again) ∧
        again.sink = k.gained ((h.findings u).map Violation.report) ∧
        again.pool = h.inForce.settledPool u.classes h.pool := by
  have hp : stopped.engine.policy = some h.inForce := by rw [hengine, policy_readied]
  have hx' : stopped.engine.excludes u.name = false := by
    rw [hengine, (readied_frame h).2.2.1]
    exact hx
  have hfind : stopped.findings u = h.findings u := by
    rw [findings, inForce_of_some hp, hpool, Policy.unitFindings_settledPool, findings]
  have hskipped : stopped.inForce.skippedNames stopped.pool u.classes
      = h.inForce.skippedNames h.pool u.classes := by
    rw [inForce_of_some hp, hpool, Policy.skippedNames_settledPool]
  have hsettled : stopped.inForce.settledPool u.classes stopped.pool
      = h.inForce.settledPool u.classes h.pool := by
    rw [inForce_of_some hp, hpool, Policy.settledPool_of_subset _ _ hcs]
  have hvisit := visit_of_room hx' (fun n hn => absurd (hk.symm.trans hn) (by simp))
  rw [hskipped, hfind, hsettled] at hvisit
  exact ⟨_, _, hvisit, rfl, rfl⟩

/-- **A sink that runs full, and a second visit.**  If the sink has room for all that the visit
finds, the limit makes no difference.  If it has not, the visit fails and leaves `Interrupted`
behind; visiting the unit again with a sink that has room for all then reports everything, and
leaves the classes as one uninterrupted visit would have left them. -/
theorem visit_with_capacity (h : Host Collector) (u : SourceUnit) (n : Nat)
    (hcap : h.sink.capacity = some n) (hx : h.engine.excludes u.name = false) :
    ∃ (result : WalkResult) (free : Host Collector),
      Host.visit Collector.outlet u { h with sink := { h.sink with capacity := none } }
          = (.ok result, free) ∧
        free.sink.reports = h.sink.reports ++ (h.findings u).map Violation.report ∧
        result.reported = (h.findings u).length ∧
        free.engine.policy = some h.inForce ∧
        ((h.findings u).length ≤ n - h.sink.reports.length →
          h.visit Collector.outlet u
            = (.ok result, { free with sink := { free.sink with capacity := some n } })) ∧
        (n - h.sink.reports.length < (h.findings u).length →
          ∃ stopped, h.visit Collector.outlet u = (.error .full, stopped) ∧
            Interrupted h free stopped u (n - h.sink.reports.length) ∧
            ∀ k : Collector, k.capacity = none → ∃ injected again,
              Host.visit Collector.outlet u { stopped with sink := k }
                  = (.ok { result with injected }, again) ∧
                again.sink = k.gained ((h.findings u).map Violation.report) ∧
                again.pool = free.pool) := by
  have hfree := visit_of_room (h := h) (k := { h.sink with capacity := none }) hx (by simp)
  refine ⟨_, _, hfree, rfl, rfl, policy_readied h, ?_, ?_⟩
  · intro hle
    have hfits : ∀ n', h.sink.capacity = some n' →
        (h.findings u).length ≤ n' - h.sink.reports.length := by
      intro n' hn'
      rw [hcap, Option.some.injEq] at hn'
      omega
    exact (visit_of_room hx hfits).trans (by simp only [Collector.gained, hcap])
  · intro hover
    obtain ⟨front, c, rest, hs, hcs, hle, hlt, hevents, hvisit⟩ :=
      visit_of_overflow hx hcap rfl hover
    have hlisted : ∀ i ∈ front ++ [c], i ∈ u.classes := by
      intro i hi
      rw [hcs]
      rcases List.mem_append.mp hi with hi | hi
      · exact List.mem_append_left _ hi
      · exact List.mem_append_right _ (List.mem_cons.mpr (Or.inl (List.mem_singleton.mp hi)))
    refine ⟨_, hvisit, ⟨rfl, ?_, rfl, front, c, rest, hcs, hle, hlt, ?_, ?_⟩, ?_⟩
    · intro henabled
      obtain ⟨-, -, -, hen, hviol⟩ := readied_frame h
      obtain ⟨events, hgain, hwhat⟩ := Trace.eventsOf_recordAll
        (t := h.readied.trace.record (.unitStarted u.name) none) (hen.trans henabled) .violation hs
        (some h.readied.trace.issued)
      rw [Trace.eventsOf_record_of_ne (by simp [Happening.kind]), hviol] at hgain
      have hlen := congrArg List.length (hwhat.trans hevents)
      simp only [List.length_map, List.length_take] at hlen
      exact ⟨events, hgain, by omega, hwhat.trans hevents⟩
    · intro i hi
      simp only [Policy.getElem?_settledPool, if_pos hi, if_pos (hlisted i hi)]
    · intro i hi
      simp only [Policy.getElem?_settledPool, if_neg hi, Option.map_id']
    · intro k hk
      refine visit_again hx ?_ ?_ hlisted hk
      · rfl
      · rfl

/-- Two untyped fields and room for one report: the first is reported, and a second visit reports
both. -/
theorem visit_with_capacity_one :
    ∃ (h stopped again : Host Collector) (u : SourceUnit) (result : WalkResult),
      h.sink.capacity = some 1 ∧ h.engine.excludes u.name = false ∧ (h.findings u).length = 2 ∧
      h.visit Collector.outlet u = (.error .full, stopped) ∧
      stopped.sink.reports = [⟨"Untyped fields are not allowed.", .fieldAt 0 0, "left"⟩] ∧
      Host.visit Collector.outlet u { stopped with sink := {} } = (.ok result, again) ∧
      again.sink.reports = [⟨"Untyped fields are not allowed.", .fieldAt 0 0, "left"⟩,
        ⟨"Untyped fields are not allowed.", .fieldAt 0 1, "right"⟩] := by
  let h : Host Collector :=
    { engine := { policy := some { untypedAllowed := false } }
      pool := [{ name := "Pair", fields := [{ name := "left", untyped := true },
        { name := "right", untyped := true }] }]
      sink := { capacity := some 1 } }
  obtain ⟨_, _, -, -, -, -, -, hover⟩ := visit_with_capacity h ⟨"Pair.groovy", [0]⟩ 1 rfl rfl
  obtain ⟨stopped, hvisit, hstop, hagain⟩ := hover (by decide)
  obtain ⟨_, again, hretry, hsink, -⟩ := hagain {} rfl
  refine ⟨h, stopped, again, _, _, rfl, rfl, rfl, hvisit, ?_, hretry, ?_⟩
  · rw [hstop.sink]
    rfl
  · rw [hsink]
    rfl

end Host

end TypingPolicy
