import TypingPolicy.Proofs.Delivery

/-!
# A walk is a traversal of the tree as it was

A walk injects and checks in one go, and it may meet a class more than once, so what it checks is
not the tree that it was given.  Section 1 says what a walk should come to, class by class, on the
untouched pool: what it finds, whom it skips, whom it injects, and how it leaves the pool.
Section 2 proves that going through one class and then through the rest agrees with this, with the
rest read off the changed pool.  From that follows, by induction on the classes listed, what a
whole walk does (`classes_append`); the main statement about units is `unitOf_delivers_findings`.
-/

namespace TypingPolicy

variable {ε σ : Type}

/-! ## 1. What a walk should come to -/

/-- The classes that a list of places names, each with its place.  Places outside the pool name
none. -/
def occurrences (pool : List ClassDecl) (cs : List Nat) : List (Nat × ClassDecl) :=
  cs.filterMap fun c => pool[c]?.map fun k => (c, k)

namespace Policy

/-- The violations of all listed classes that are not passed over, in the order listed. -/
def unitFindings (p : Policy) (pool : List ClassDecl) (cs : List Nat) : List Violation :=
  ((occurrences pool cs).filter fun o => ¬ p.Skips o.2).flatMap fun o => p.findings o.1 o.2

/-- The names of the listed classes that are passed over. -/
def skippedNames (p : Policy) (pool : List ClassDecl) (cs : List Nat) : List String :=
  ((occurrences pool cs).filter fun o => p.Skips o.2).map fun o => o.2.name

/-- The names of the classes that get a directive, each where it is listed first. -/
def injectedNames (p : Policy) (pool : List ClassDecl) (cs : List Nat) : List String :=
  (occurrences pool (cs.filter fun c => pool[c]?.any fun k => p.Injects k).eraseDups).map
    fun o => o.2.name

/-- The pool after a walk through the places listed. -/
def settledPool (p : Policy) (cs : List Nat) (pool : List ClassDecl) : List ClassDecl :=
  pool.mapIdx fun i k => if i ∈ cs then p.settled k else k

/-- What the trace says of the injection into class number `c`. -/
def injection (p : Policy) (c : Nat) (k : ClassDecl) : List Happening :=
  if p.Injects k then [.injected k.name p.injectedExtensions (some ⟨c, k.directives.length⟩)] else []

/-- What the trace says of class number `c`. -/
def happeningsAt (p : Policy) (c : Nat) (k : ClassDecl) : List Happening :=
  match p.skipReason k with
  | some reason => [.classSkipped k.name reason.label]
  | none => p.injection c k ++ (p.findings c k).map Violation.happening

/-- What the trace says of a walk.  Each class is seen as the classes before it left the pool, so
only its first occurrence can show an injection. -/
def happenings (p : Policy) : List ClassDecl → List Nat → List Happening
  | _, [] => []
  | pool, c :: rest =>
    (pool[c]?.elim [] (p.happeningsAt c)) ++ happenings p (p.settledPool [c] pool) rest

/-- The two name lists after a walk that began with `tally`. -/
def tallied (p : Policy) (pool : List ClassDecl) (cs : List Nat) (tally : Tally) : Tally :=
  ⟨tally.skipped ++ p.skippedNames pool cs, tally.injected ++ p.injectedNames pool cs⟩

/-! ## 2. One class, and then the rest -/

variable (p : Policy) (pool : List ClassDecl)

theorem getElem?_settledPool (cs : List Nat) (i : Nat) :
    (p.settledPool cs pool)[i]? = pool[i]?.map fun k => if i ∈ cs then p.settled k else k := by
  rw [settledPool, List.getElem?_mapIdx]

@[simp] theorem settledPool_nil : p.settledPool [] pool = pool := by
  apply List.ext_getElem?
  intro i
  simp [getElem?_settledPool]

/-- Two walks change the pool as one walk through both lists does. -/
theorem settledPool_settledPool (cs ds : List Nat) :
    p.settledPool ds (p.settledPool cs pool) = p.settledPool (cs ++ ds) pool := by
  apply List.ext_getElem?
  intro i
  simp only [getElem?_settledPool, Option.map_map, List.mem_append]
  congr 1
  funext k
  by_cases hc : i ∈ cs <;> by_cases hd : i ∈ ds <;> simp [hc, hd]

/-- Only which places are listed matters to the pool, not how often or in which order. -/
theorem settledPool_congr {cs ds : List Nat} (h : ∀ i, i ∈ cs ↔ i ∈ ds) :
    p.settledPool cs pool = p.settledPool ds pool := by
  simp only [settledPool, h]

/-- A walk through `ds` makes up for what an earlier walk through some of `ds` left undone. -/
theorem settledPool_of_subset {cs ds : List Nat} (h : ∀ i ∈ cs, i ∈ ds) :
    p.settledPool ds (p.settledPool cs pool) = p.settledPool ds pool := by
  rw [settledPool_settledPool]
  apply settledPool_congr
  intro i
  rw [List.mem_append]
  exact ⟨fun hi => hi.elim (h i) id, Or.inr⟩

/-- A walk through some of `ds` has nothing left to do after a walk through `ds`. -/
theorem settledPool_of_settled {cs ds : List Nat} (h : ∀ i ∈ cs, i ∈ ds) :
    p.settledPool cs (p.settledPool ds pool) = p.settledPool ds pool := by
  rw [settledPool_settledPool]
  apply settledPool_congr
  intro i
  rw [List.mem_append]
  exact ⟨fun hi => hi.elim id (h i), Or.inl⟩

/-- An occurrence of a class as it is seen after a walk through `ds`. -/
def seenAfter (ds : List Nat) (o : Nat × ClassDecl) : Nat × ClassDecl :=
  (o.1, if o.1 ∈ ds then p.settled o.2 else o.2)

theorem occurrences_settledPool (ds cs : List Nat) :
    occurrences (p.settledPool ds pool) cs = (occurrences pool cs).map (p.seenAfter ds) := by
  unfold occurrences
  rw [List.map_filterMap]
  congr 1
  funext c
  rw [getElem?_settledPool]
  cases pool[c]? <;> rfl

@[simp] theorem name_seenAfter (ds : List Nat) (o : Nat × ClassDecl) :
    (p.seenAfter ds o).2.name = o.2.name := by
  unfold seenAfter
  split
  · exact name_settled p o.2
  · rfl

@[simp] theorem skips_seenAfter (ds : List Nat) (o : Nat × ClassDecl) :
    p.Skips (p.seenAfter ds o).2 ↔ p.Skips o.2 := by
  unfold seenAfter
  split
  · exact skips_settled p o.2
  · exact Iff.rfl

@[simp] theorem findings_seenAfter (ds : List Nat) (o : Nat × ClassDecl) :
    p.findings (p.seenAfter ds o).1 (p.seenAfter ds o).2 = p.findings o.1 o.2 := by
  unfold seenAfter
  split
  · exact findings_settled p o.1 o.2
  · rfl

/-- What there is to find does not depend on which classes were injected before. -/
@[simp] theorem unitFindings_settledPool (ds cs : List Nat) :
    p.unitFindings (p.settledPool ds pool) cs = p.unitFindings pool cs := by
  unfold unitFindings
  rw [occurrences_settledPool, List.filter_map, List.flatMap_map]
  simp only [Function.comp_def, skips_seenAfter, findings_seenAfter]

/-- Nor does who is passed over. -/
@[simp] theorem skippedNames_settledPool (ds cs : List Nat) :
    p.skippedNames (p.settledPool ds pool) cs = p.skippedNames pool cs := by
  unfold skippedNames
  rw [occurrences_settledPool, List.filter_map, List.map_map]
  simp only [Function.comp_def, skips_seenAfter, name_seenAfter]

theorem unitFindings_append (cs ds : List Nat) :
    p.unitFindings pool (cs ++ ds) = p.unitFindings pool cs ++ p.unitFindings pool ds := by
  simp only [unitFindings, occurrences, List.filterMap_append, List.filter_append,
    List.flatMap_append]

theorem unitFindings_cons (c : Nat) (cs : List Nat) :
    p.unitFindings pool (c :: cs) = p.unitFindings pool [c] ++ p.unitFindings pool cs :=
  unitFindings_append p pool [c] cs

theorem skippedNames_append (cs ds : List Nat) :
    p.skippedNames pool (cs ++ ds) = p.skippedNames pool cs ++ p.skippedNames pool ds := by
  simp only [skippedNames, occurrences, List.filterMap_append, List.filter_append, List.map_append]

theorem unitFindings_singleton (c : Nat) :
    p.unitFindings pool [c]
      = pool[c]?.elim [] fun k => if p.Skips k then [] else p.findings c k := by
  cases hk : pool[c]? with
  | none => simp [unitFindings, occurrences, hk]
  | some k => by_cases hs : p.Skips k <;> simp [unitFindings, occurrences, hk, hs]

theorem skippedNames_singleton (c : Nat) :
    p.skippedNames pool [c] = pool[c]?.elim [] fun k => if p.Skips k then [k.name] else [] := by
  cases hk : pool[c]? with
  | none => simp [skippedNames, occurrences, hk]
  | some k => by_cases hs : p.Skips k <;> simp [skippedNames, occurrences, hk, hs]

theorem injectedNames_singleton (c : Nat) :
    p.injectedNames pool [c] = pool[c]?.elim [] fun k => if p.Injects k then [k.name] else [] := by
  cases hk : pool[c]? with
  | none => simp [injectedNames, occurrences, hk]
  | some k =>
    by_cases hi : p.Injects k <;> simp [injectedNames, occurrences, hk, hi, List.eraseDups_cons]

/-- After a walk through `c`, a place still needs a directive if it did before and is not `c`. -/
theorem any_injects_settledPool (c i : Nat) :
    ((p.settledPool [c] pool)[i]?.any fun k => p.Injects k)
      = ((!i == c) && pool[i]?.any fun k => p.Injects k) := by
  rw [getElem?_settledPool]
  cases pool[i]? with
  | none => simp
  | some k =>
    by_cases h : i = c
    · simp [h, not_injects_settled]
    · simp [h]

theorem names_settledPool (ds cs : List Nat) :
    (occurrences (p.settledPool ds pool) cs).map (fun o => o.2.name)
      = (occurrences pool cs).map fun o => o.2.name := by
  rw [occurrences_settledPool, List.map_map]
  simp only [Function.comp_def, name_seenAfter]

/-- The rest of a walk injects what it would have injected anyway, less the class just met. -/
theorem injectedNames_cons (c : Nat) (cs : List Nat) :
    p.injectedNames pool (c :: cs)
      = p.injectedNames pool [c] ++ p.injectedNames (p.settledPool [c] pool) cs := by
  have hfilter : (cs.filter fun i => (p.settledPool [c] pool)[i]?.any fun k => p.Injects k)
      = (cs.filter fun i => pool[i]?.any fun k => p.Injects k).filter fun i => !i == c := by
    simp only [any_injects_settledPool, List.filter_filter]
  unfold injectedNames
  rw [names_settledPool, hfilter]
  by_cases hc : pool[c]?.any fun k => p.Injects k
  · simp only [List.filter_cons, hc, if_true, List.filter_nil, List.eraseDups_cons,
      List.eraseDups_nil, occurrences, List.filterMap_cons, List.filterMap_nil]
    cases pool[c]? <;> simp
  · -- Nothing was done at `c`, so leaving `c` out takes nothing away.
    have hne : (cs.filter fun i => pool[i]?.any fun k => p.Injects k).filter (fun i => !i == c)
        = cs.filter fun i => pool[i]?.any fun k => p.Injects k := by
      rw [List.filter_eq_self]
      intro i hi
      have hi' := (List.mem_filter.mp hi).2
      have : i ≠ c := fun e => hc (e ▸ hi')
      simp [this]
    rw [hne]
    simp [hc, occurrences]

theorem tallied_cons (c : Nat) (cs : List Nat) (tally : Tally) :
    p.tallied pool (c :: cs) tally
      = p.tallied (p.settledPool [c] pool) cs (p.tallied pool [c] tally) := by
  have hs := skippedNames_append p pool [c] cs
  rw [List.singleton_append] at hs
  simp only [tallied, hs, injectedNames_cons p pool c cs, skippedNames_settledPool,
    List.append_assoc]

theorem violations_injection (c : Nat) (k : ClassDecl) :
    (p.injection c k).filter (·.kind = .violation) = [] := by
  unfold injection
  split <;> rfl

theorem violations_map_happening (vs : List Violation) :
    (vs.map Violation.happening).filter (·.kind = .violation) = vs.map Violation.happening := by
  rw [List.filter_eq_self]
  intro what hw
  obtain ⟨v, -, rfl⟩ := List.mem_map.mp hw
  rfl

theorem violations_happeningsAt (c : Nat) (k : ClassDecl) :
    (p.happeningsAt c k).filter (·.kind = .violation)
      = (if p.Skips k then [] else p.findings c k).map Violation.happening := by
  unfold happeningsAt
  cases hr : p.skipReason k with
  | some reason =>
    rw [if_pos (skips_of_skipReason hr)]
    rfl
  | none =>
    rw [if_neg (skipReason_eq_none_iff.mp hr)]
    simp only [List.filter_append, violations_injection, violations_map_happening, List.nil_append]

/-- The violations in the trace are those found. -/
theorem violations_happenings :
    ∀ (cs : List Nat) (pool : List ClassDecl),
      (p.happenings pool cs).filter (·.kind = .violation)
        = (p.unitFindings pool cs).map Violation.happening
  | [], _ => rfl
  | c :: cs, pool => by
    rw [happenings, List.filter_append, violations_happenings cs, unitFindings_settledPool,
      unitFindings_cons p pool c cs, List.map_append, unitFindings_singleton]
    congr 1
    cases pool[c]? with
    | none => rfl
    | some k => exact violations_happeningsAt p c k

/-! ## 3. What a walk does to one class -/

theorem settledPool_of_not_injects {c : Nat} (h : (pool[c]?.any fun k => p.Injects k) = false) :
    p.settledPool [c] pool = pool := by
  apply List.ext_getElem?
  intro i
  rw [getElem?_settledPool]
  cases hi : pool[i]? with
  | none => rfl
  | some k =>
    by_cases hc : i = c
    · subst hc
      have : ¬ p.Injects k := by simpa [hi] using h
      simp [settled, this]
    · simp [hc]

theorem set_eq_settledPool {c : Nat} {k : ClassDecl} (hk : pool[c]? = some k) (h : p.Injects k) :
    pool.set c (k.addDirective p.staticDirective) = p.settledPool [c] pool := by
  apply List.ext_getElem?
  intro i
  rw [getElem?_settledPool, List.getElem?_set]
  by_cases hc : c = i
  · subst hc
    have hlt : c < pool.length := (List.getElem?_eq_some_iff.mp hk).1
    rw [if_pos rfl, if_pos hlt, hk]
    simp [settled, h]
  · have hc' : i ≠ c := fun e => hc e.symm
    simp [hc, hc']

end Policy

namespace Walk

variable {p : Policy} {outlet : Outlet ε σ} {c : Nat} {k : ClassDecl} {s : Walk σ}

/-- The state after a walk through `cs` that brought the outlet into state `sink`. -/
def walked (p : Policy) (cs : List Nat) (sink : σ) (s : Walk σ) : Walk σ :=
  { s with
    pool := p.settledPool cs s.pool
    trace := s.trace.recordAll (p.happenings s.pool cs) s.unit
    sink
    reported := s.reported + (p.unitFindings s.pool cs).length }

/-- The state after the injection into class number `c`. -/
def injectedAt (p : Policy) (c : Nat) (k : ClassDecl) (s : Walk σ) : Walk σ :=
  { s with
    pool := p.settledPool [c] s.pool
    trace := s.trace.recordAll (p.injection c k) s.unit }

theorem inject_eq (hk : s.pool[c]? = some k) (hs : ¬ p.Skips k) :
    s.inject p c k = (decide (p.Injects k), s.injectedAt p c k) := by
  unfold inject injectedAt Policy.injection
  cases hm : k.isMarked with
  | true =>
    have hi : ¬ p.Injects k := fun h => absurd (hm.symm.trans h.2) (by simp)
    have hpool := Policy.settledPool_of_not_injects p s.pool (c := c) (by simp [hk, hi])
    simp [hi, hpool]
  | false =>
    have hi : p.Injects k := ⟨hs, hm⟩
    simp [hi, note, Policy.set_eq_settledPool p s.pool hk hi]

/-- The check that is left out where no rule is in force would have found nothing. -/
theorem enforce_eq_deliverAll (p : Policy) (outlet : Outlet ε σ) (c : Nat) (k : ClassDecl)
    (s : Walk σ) :
    s.enforce p outlet c k = s.deliverAll outlet (p.checkClass (p.exempts k.name) c k) := by
  unfold enforce
  split
  · rfl
  · rename_i h
    rw [Policy.checkClass_eq_nil (Bool.not_eq_true _ ▸ h), deliverAll]

/-- Where a class is not passed over, it is checked in full. -/
theorem enforce_eq (hs : ¬ p.Skips k) :
    s.enforce p outlet c k = s.deliverAll outlet (p.findings c k) := by
  rw [enforce_eq_deliverAll, Policy.exempts_of_not_skips hs, Policy.checkClass_false]

/-- Injection followed by enforcement is injection followed by reports on the class as it was. -/
theorem treat_eq {tally : Tally} {refusal : Option ε} {s' : Walk σ} (hk : s.pool[c]? = some k)
    (hs : ¬ p.Skips k)
    (hd : (s.injectedAt p c k).deliverAll outlet (p.findings c k) = (refusal, s')) :
    s.treat p outlet c k tally = (refusal.elim (.ok (p.tallied s.pool [c] tally)) .error, s') := by
  have hk' : (if decide (p.Injects k) = true then k.addDirective p.staticDirective else k)
      = p.settled k := by
    simp [Policy.settled]
  have htally : (if decide (p.Injects k) = true then
      { tally with injected := tally.injected ++ [k.name] } else tally)
        = p.tallied s.pool [c] tally := by
    rw [Policy.tallied, Policy.skippedNames_singleton, Policy.injectedNames_singleton, hk]
    by_cases hi : p.Injects k <;> simp [hi, hs]
  unfold treat
  rw [inject_eq hk hs]
  simp only
  rw [hk', htally, enforce_eq (fun h => hs ((Policy.skips_settled p k).mp h)),
    Policy.findings_settled, hd]
  cases refusal <;> rfl

/-! ## 4. What a walk does to a list of classes -/

theorem walked_nil : s.walked p [] s.sink = s := by
  simp [walked, Policy.happenings, Policy.unitFindings, occurrences]

theorem walked_cons {cs : List Nat} {sink sink' : σ} :
    (s.walked p [c] sink).walked p cs sink' = s.walked p (c :: cs) sink' := by
  simp [walked, Policy.settledPool_settledPool, Policy.happenings,
    Policy.unitFindings_cons p s.pool c cs, Trace.recordAll_append, Nat.add_assoc]

/-- The state in which one class leaves the walk, put together from injection and reports. -/
theorem delivered_injectedAt {sink : σ} (hk : s.pool[c]? = some k) (hs : ¬ p.Skips k) :
    (s.injectedAt p c k).delivered (p.findings c k) sink = s.walked p [c] sink := by
  simp [delivered, injectedAt, walked, Policy.happenings, Policy.happeningsAt,
    Policy.skipReason_eq_none_iff.mpr hs, Policy.unitFindings_singleton, hk, hs,
    Trace.recordAll_append]

/-- **One step of a walk.**  If the outlet takes the reports on the first class, the walk goes on
with the rest. -/
theorem classes_cons {cs : List Nat} {tally : Tally} {sink : σ}
    (h : outlet.accept ((p.unitFindings s.pool [c]).map Violation.report) s.sink = .ok sink) :
    classes p outlet (c :: cs) tally s
      = classes p outlet cs (p.tallied s.pool [c] tally) (s.walked p [c] sink) := by
  rw [Policy.unitFindings_singleton] at h
  rw [classes]
  cases hk : s.pool[c]? with
  | none =>
    have hsink : s.sink = sink := by simpa [hk, Outlet.accept] using h
    have hpool := Policy.settledPool_of_not_injects p s.pool (c := c) (by simp [hk])
    simp [walked, Policy.tallied, Policy.skippedNames_singleton, Policy.injectedNames_singleton,
      Policy.unitFindings_singleton, Policy.happenings, hk, hpool, ← hsink]
  | some k =>
    cases hr : p.skipReason k with
    | some reason =>
      have hs := Policy.skips_of_skipReason hr
      have hi : ¬ p.Injects k := fun hi => hi.1 hs
      have hsink : s.sink = sink := by simpa [hk, hs, Outlet.accept] using h
      have hpool := Policy.settledPool_of_not_injects p s.pool (c := c) (by simp [hk, hi])
      simp [walked, Policy.tallied, Policy.skippedNames_singleton, Policy.injectedNames_singleton,
        Policy.unitFindings_singleton, Policy.happenings, Policy.happeningsAt, note, hk, hr, hs, hi,
        hpool, ← hsink]
    | none =>
      have hs := Policy.skipReason_eq_none_iff.mp hr
      simp only [hk, Option.elim_some, if_neg hs] at h
      have hd := deliverAll_of_accept (s := s.injectedAt p c k) h
      rw [delivered_injectedAt hk hs] at hd
      simp only [hr, treat_eq hk hs hd, Option.elim_none]

/-- **A walk, as far as the outlet goes along.**  If the outlet takes the reports on the classes
`cs`, the walk goes on after them. -/
theorem classes_append (ds : List Nat) :
    ∀ {cs : List Nat} (tally : Tally) {s : Walk σ} {sink : σ},
      outlet.accept ((p.unitFindings s.pool cs).map Violation.report) s.sink = .ok sink →
      classes p outlet (cs ++ ds) tally s
        = classes p outlet ds (p.tallied s.pool cs tally) (s.walked p cs sink)
  | [], tally, s, sink, h => by
    have hsink : s.sink = sink := by
      simpa [Policy.unitFindings, occurrences, Outlet.accept] using h
    rw [← hsink, walked_nil]
    simp [Policy.tallied, Policy.skippedNames, Policy.injectedNames, occurrences]
  | c :: cs, tally, s, sink, h => by
    rw [Policy.unitFindings_cons, List.map_append] at h
    obtain ⟨sink1, h1, h2⟩ := Outlet.accept_split h
    have h2' : outlet.accept
        ((p.unitFindings (s.walked p [c] sink1).pool cs).map Violation.report)
        (s.walked p [c] sink1).sink = .ok sink := by
      simpa [walked] using h2
    rw [List.cons_append, classes_cons h1, classes_append ds _ h2', walked_cons,
      Policy.tallied_cons p s.pool c cs]
    rfl

/-! ## 5. Units -/

/-- The state in which the first class of a unit is met, whatever happened before. -/
def begun (u : SourceUnit) (s : Walk σ) : Walk σ :=
  { s with
    trace := s.trace.record (.unitStarted u.name) none
    unit := some s.trace.issued
    reported := 0 }

theorem unitOf_of_ok {u : SourceUnit} {tally : Tally} {w : Walk σ}
    (h : classes p outlet u.classes {} (s.begun u) = (.ok tally, w)) :
    unitOf p outlet u s
      = (.ok { unit := u.name
               skipped := tally.skipped
               injected := tally.injected
               reported := w.reported }, w) := by
  unfold begun at h
  simp only [unitOf, Trace.startUnit, h]

theorem unitOf_of_error {u : SourceUnit} {e : ε} {w : Walk σ}
    (h : classes p outlet u.classes {} (s.begun u) = (.error e, w)) :
    unitOf p outlet u s = (.error e, w) := by
  unfold begun at h
  simp only [unitOf, Trace.startUnit, h]

/-- A walk that is not cut short. -/
theorem unitOf_of_accept {u : SourceUnit} {sink : σ}
    (h : outlet.accept ((p.unitFindings s.pool u.classes).map Violation.report) s.sink
      = .ok sink) :
    unitOf p outlet u s
      = (.ok { unit := u.name
               skipped := p.skippedNames s.pool u.classes
               injected := p.injectedNames s.pool u.classes
               reported := (p.unitFindings s.pool u.classes).length },
         (s.begun u).walked p u.classes sink) := by
  have hc : classes p outlet u.classes {} (s.begun u)
      = (.ok (p.tallied s.pool u.classes {}), (s.begun u).walked p u.classes sink) := by
    have := classes_append (s := s.begun u) [] {} h
    rwa [List.append_nil, classes] at this
  rw [unitOf_of_ok hc]
  simp [Policy.tallied, walked, begun]

/-- **A walk reports what there was to find before it began.**  Whatever the walker has been
through, a sink that does not fail receives, one after the other, the violations that the
untouched pool holds, and nothing else; the result counts them, and names whom the walk skipped
and whom it injected. -/
theorem unitOf_delivers_findings (p : Policy) (outlet : Outlet ε σ) (u : SourceUnit) (s : Walk σ)
    (hout : outlet.Unfailing s.sink) :
    ∃ w, unitOf p outlet u s
        = (.ok { unit := u.name
                 excluded := false
                 skipped := p.skippedNames s.pool u.classes
                 injected := p.injectedNames s.pool u.classes
                 reported := (p.unitFindings s.pool u.classes).length }, w) ∧
      outlet.accept ((p.unitFindings s.pool u.classes).map Violation.report) s.sink
        = .ok w.sink := by
  obtain ⟨sink, h⟩ := hout ((p.unitFindings s.pool u.classes).map Violation.report)
  exact ⟨_, unitOf_of_accept h, h⟩

/-- A class with an untyped field that is listed twice is reported twice and injected once. -/
theorem unitOf_delivers_findings_repeated :
    Collector.outlet.Unfailing {} ∧
      ∃ w : Walk Collector,
        unitOf { untypedAllowed := false } Collector.outlet ⟨"Unit", [0, 0]⟩
            { pool := [{ name := "Pair", fields := [{ name := "left", untyped := true }] }]
              trace := {}
              sink := {}
              reported := 7 }
          = (.ok { unit := "Unit", injected := ["Pair"], reported := 2 }, w) ∧
        w.sink.reports
          = List.replicate 2 ⟨"Untyped fields are not allowed.", .fieldAt 0 0, "left"⟩ := by
  have hout : Collector.outlet.Unfailing {} := Collector.unfailing_of_unlimited rfl
  refine ⟨hout, ?_⟩
  obtain ⟨w, hw, hsink⟩ := unitOf_delivers_findings { untypedAllowed := false } Collector.outlet
    ⟨"Unit", [0, 0]⟩
    { pool := [{ name := "Pair", fields := [{ name := "left", untyped := true }] }]
      trace := {}
      sink := {}
      reported := 7 } hout
  refine ⟨w, ?_, ?_⟩
  · rw [hw]
    rfl
  · rw [Collector.accept_of_unlimited rfl, Except.ok.injEq] at hsink
    rw [← hsink]
    rfl

end Walk

end TypingPolicy
