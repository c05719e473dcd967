import TypingPolicy.Proofs.Growth

/-!
# Which unit an event belongs to

An engine and any number of walkers may write into one trace, in any order, and their calls may be
cut short.  The parent of an event is whatever unit its writer remembers: a walk sets it, but it
outlives the walk, also one that was cut short, and a walker that injects or checks a class on its
own still uses it.  So parents are right only if what each walker remembers and what the trace holds
keep up with each other over a whole run.

* `Trace.Orderly` is what the trace keeps: every event is in its place, and the trace tells of the
  policy if there is one.  `Orderly.record` says which event may come next.
* A run is divided into chapters, one for each deed with the events that it recorded
  (`Team.chapters`); `lastBegun` looks up the unit that a walker began last.
* `Team.Kept` adds to this that each walker remembers that unit; `Kept.perform` is the step, and
  says at once where the events of the deed belong (`Team.Attributed`).

The main statement is `run_keeps_parents`.
-/

namespace TypingPolicy

variable {ε σ : Type}

/-! ## 1. Events in their places -/

/-- No parent, or a unit that was begun among the events. -/
def Known (events : List Event) (parent : Option Nat) : Prop :=
  parent = none ∨ ∃ start ∈ events, start.what.kind = .unitStart ∧ parent = some start.id

theorem Known.append {events : List Event} {parent : Option Nat} (h : Known events parent)
    (more : List Event) : Known (events ++ more) parent := by
  rcases h with h | ⟨start, hstart, hkind, hparent⟩
  · exact Or.inl h
  · exact Or.inr ⟨start, List.mem_append_left _ hstart, hkind, hparent⟩

namespace Trace

/-- A trace that records, in which every event is in its place and has a number of its own, and
which tells of the policy `p`, once, if there is one. -/
structure Orderly (p : Option Policy) (t : Trace) : Prop where
  recording : t.enabled = true
  parents : ∀ front e rest, t.events = front ++ e :: rest → Known front e.parent
  top : ∀ e ∈ t.events, e.what.kind.isDetail = false → e.parent = none
  numbers : t.events.Pairwise fun e e' => e.id < e'.id
  issued : ∀ e ∈ t.events, e.id < t.issued
  configured : (t.eventsOf .configInit).length = if p.isSome then 1 else 0

theorem events_record {t : Trace} (h : t.enabled = true) (what : Happening) (parent : Option Nat) :
    (t.record what parent).events = t.events ++ [⟨t.issued, parent, what⟩] := by
  simp [record, h]

namespace Orderly

variable {p q : Option Policy} {t : Trace} {what : Happening} {parent : Option Nat}

/-- **Which event may come next**: one whose parent is known and which, if it is not about a class,
has none. -/
theorem record (h : t.Orderly p) (hparent : Known t.events parent)
    (htop : what.kind.isDetail = false → parent = none)
    (hpolicy : ((t.record what parent).eventsOf .configInit).length = if q.isSome then 1 else 0) :
    (t.record what parent).Orderly q where
  recording := h.recording
  parents := by
    intro front e rest heq
    rw [events_record h.recording] at heq
    rcases rest.eq_nil_or_concat with rfl | ⟨rest', last, rfl⟩
    · obtain ⟨rfl, hlast⟩ := List.append_inj' heq rfl
      obtain rfl := List.singleton_inj.mp hlast
      exact hparent
    · rw [List.concat_eq_append, ← List.cons_append, ← List.append_assoc] at heq
      exact h.parents front e rest' (List.append_inj' heq rfl).1
  top := by
    intro e he
    rw [events_record h.recording] at he
    rcases List.mem_append.mp he with he | he
    · exact h.top e he
    · obtain rfl := List.mem_singleton.mp he
      exact htop
  numbers := by
    rw [events_record h.recording, List.pairwise_append]
    refine ⟨h.numbers, List.pairwise_singleton _ _, ?_⟩
    intro e he e' he'
    obtain rfl := List.mem_singleton.mp he'
    exact h.issued e he
  issued := by
    intro e he
    rw [events_record h.recording] at he
    rcases List.mem_append.mp he with he | he
    · exact Nat.lt_succ_of_lt (h.issued e he)
    · obtain rfl := List.mem_singleton.mp he
      exact Nat.lt_succ_self _
  configured := hpolicy

/-- An event that is not about the policy. -/
theorem note (h : t.Orderly p) (hkind : what.kind ≠ .configInit) (hparent : Known t.events parent)
    (htop : what.kind.isDetail = false → parent = none) : (t.record what parent).Orderly p := by
  refine h.record hparent htop ?_
  rw [eventsOf_record_of_ne hkind]
  exact h.configured

/-- The event of the policy, if there was none before. -/
theorem configure (h : t.Orderly none) (found config : Value) (policy : Policy) :
    (t.record (.configured found config) none).Orderly (some policy) := by
  refine h.record (Or.inl rfl) (fun _ => rfl) ?_
  have hnone := h.configured
  rw [eventsOf, events_record h.recording, List.filter_append, List.length_append]
  simpa [Happening.kind, eventsOf] using hnone

/-- Details, under a unit that is known. -/
theorem details {hs : List Happening} (h : t.Orderly p) (hparent : Known t.events parent)
    (hdetails : ∀ what ∈ hs, what.kind.isDetail = true) : (t.recordAll hs parent).Orderly p := by
  refine (recordAll_keeps (P := fun t => t.Orderly p ∧ Known t.events parent) ?_ ⟨h, hparent⟩).1
  rintro t what hwhat ⟨ht, hknown⟩
  have hdetail := hdetails what hwhat
  refine ⟨ht.note ?_ hknown ?_, ?_⟩
  · intro hkind
    simp [hkind, EventKind.isDetail] at hdetail
  · intro htop
    simp [htop] at hdetail
  · rw [events_record ht.recording]
    exact hknown.append _

end Orderly

/-! ## 2. The events of a unit -/

/-- Details, all of them under one parent. -/
def Under (parent : Option Nat) (events : List Event) : Prop :=
  ∀ e ∈ events, e.what.kind.isDetail = true ∧ e.parent = parent

/-- The beginning of a unit, under no parent, and the details of that unit. -/
structure IsUnit (name : String) (start : Event) (below : List Event) : Prop where
  what : start.what = .unitStarted name
  parent : start.parent = none
  below : Under (some start.id) below

variable {t : Trace} {hs : List Happening}

theorem under_numbered (parent : Option Nat) (start : Nat)
    (hdetails : ∀ what ∈ hs, what.kind.isDetail = true) : Under parent (numbered parent start hs) := by
  intro e he
  obtain ⟨⟨what, id⟩, hmem, rfl⟩ := List.mem_map.mp he
  exact ⟨hdetails what (List.fst_mem_of_mem_zipIdx hmem), rfl⟩

end Trace

namespace Walk

variable {q : Option Policy} {s s' : Walk σ}

/-- A part of a walk on its own, also one that is cut short. -/
theorem Adds.orderly (h : s.Adds s') (ho : s.trace.Orderly q) (hunit : Known s.trace.events s.unit) :
    s'.trace.Orderly q ∧
      ∃ new, s'.trace.events = s.trace.events ++ new ∧ Trace.Under s.unit new := by
  obtain ⟨hs, hdetails, htrace⟩ := h.recorded
  rw [htrace]
  exact ⟨ho.details hunit hdetails, _, Trace.events_recordAll hs ho.recording,
    Trace.under_numbered _ _ hdetails⟩

/-- A whole walk, also one that is cut short: the unit that it began is the one that is remembered
afterwards. -/
theorem orderly_unitOf (p : Policy) (outlet : Outlet ε σ) (u : SourceUnit)
    (ho : s.trace.Orderly q) :
    (unitOf p outlet u s).2.trace.Orderly q ∧
      ∃ start below, (unitOf p outlet u s).2.trace.events = s.trace.events ++ start :: below ∧
        Trace.IsUnit u.name start below ∧ (unitOf p outlet u s).2.unit = some start.id := by
  have hbegun : (s.begun u).trace.events
      = s.trace.events ++ [⟨s.trace.issued, none, .unitStarted u.name⟩] :=
    Trace.events_record ho.recording _ _
  have hstart : (s.begun u).trace.Orderly q :=
    ho.note (by simp [Happening.kind]) (Or.inl rfl) (fun _ => rfl)
  have hunit : Known (s.begun u).trace.events (s.begun u).unit := by
    rw [hbegun]
    exact Or.inr ⟨_, List.mem_append_right _ List.mem_cons_self, rfl, rfl⟩
  obtain ⟨horderly, below, hevents, hbelow⟩ := (adds_unitOf p outlet u s).orderly hstart hunit
  refine ⟨horderly, ⟨s.trace.issued, none, .unitStarted u.name⟩, below, ?_, ⟨rfl, rfl, hbelow⟩, ?_⟩
  · rw [hevents, hbegun, List.append_assoc, List.singleton_append]
  · exact (adds_unitOf p outlet u s).unit

end Walk

namespace Host

variable {h : Host σ}

/-- Asking for a policy writes the event of the policy, if it is not there yet. -/
theorem orderly_ensureInitialised (outlet : Outlet ε σ) (given : Option Source)
    (ho : h.trace.Orderly h.engine.policy) :
    (h.ensureInitialised outlet given).2.trace.Orderly
        (h.ensureInitialised outlet given).2.engine.policy ∧
      (h.ensureInitialised outlet given).2.engine.policy.isSome = true ∧
      ∃ opening, (h.ensureInitialised outlet given).2.trace.events = h.trace.events ++ opening ∧
        ∀ e ∈ opening, e.what.kind = .configInit := by
  cases hp : h.engine.policy with
  | some p =>
    rw [ensureInitialised_of_some hp]
    exact ⟨ho, by simp [hp], [], by simp, by simp⟩
  | none =>
    rw [hp] at ho
    rw [ensureInitialised_of_none hp, initialise_eq]
    simp only [Engine.policy_configured]
    refine ⟨ho.configure _ _ _, rfl, _, Trace.events_record ho.recording _ _, ?_⟩
    intro e he
    obtain rfl := List.mem_singleton.mp he
    rfl

/-- A visit writes the event of the policy, if it is not there yet, and then a unit. -/
theorem orderly_visit (outlet : Outlet ε σ) {u : SourceUnit}
    (hx : h.engine.excludes u.name = false) (ho : h.trace.Orderly h.engine.policy) :
    (h.visit outlet u).2.trace.Orderly (h.visit outlet u).2.engine.policy ∧
      ∃ opening start below,
        (h.visit outlet u).2.trace.events = h.trace.events ++ (opening ++ start :: below) ∧
        (∀ e ∈ opening, e.what.kind = .configInit) ∧
        (∃ e ∈ h.trace.events ++ opening, e.what.kind = .configInit) ∧
        Trace.IsUnit u.name start below := by
  obtain ⟨hready, hsome, opening, hopening, hkinds⟩ := orderly_ensureInitialised outlet none ho
  rw [visit_of_included hx]
  generalize h.ensureInitialised outlet none = ready at *
  obtain ⟨p, h'⟩ := ready
  obtain ⟨horderly, start, below, hevents, hunit, -⟩ := Walk.orderly_unitOf p outlet u
    (s := { pool := h'.pool, trace := h'.trace, sink := h'.sink }) hready
  refine ⟨horderly, opening, start, below, ?_, hkinds, ?_, hunit⟩
  · rw [← List.append_assoc, ← hopening]
    exact hevents
  · have hone := hready.configured
    rw [if_pos hsome, Trace.eventsOf, hopening] at hone
    obtain ⟨e, he⟩ := List.exists_mem_of_length_pos (hone.symm ▸ Nat.one_pos)
    obtain ⟨hmem, hkind⟩ := List.mem_filter.mp he
    exact ⟨e, hmem, by simpa using hkind⟩

end Host

/-! ## 3. Chapters -/

/-- A deed of a run, with the events that it recorded. -/
structure Chapter (ε σ : Type) where
  deed : Deed ε σ
  events : List Event

/-- The beginning of a unit, if the chapter is a walk of walker number `i`. -/
def Chapter.begins (i : Nat) (chapter : Chapter ε σ) : Option Event :=
  match chapter.deed with
  | .walk j _ => if j = i then chapter.events.find? (·.what.kind = .unitStart) else none
  | _ => none

/-- The beginning of the last unit that walker number `i` began. -/
def lastBegun (i : Nat) (past : List (Chapter ε σ)) : Option Event :=
  past.reverse.findSome? (·.begins i)

theorem lastBegun_concat (i : Nat) (past : List (Chapter ε σ)) (chapter : Chapter ε σ) :
    lastBegun i (past ++ [chapter]) = (chapter.begins i).or (lastBegun i past) := by
  rw [lastBegun, List.reverse_concat, List.findSome?_cons]
  cases chapter.begins i <;> rfl

/-- The last unit of a walker was begun in the course of the run. -/
theorem mem_of_lastBegun {i : Nat} {past : List (Chapter ε σ)} {start : Event}
    (h : lastBegun i past = some start) :
    start ∈ past.flatMap (·.events) ∧ start.what.kind = .unitStart := by
  obtain ⟨chapter, hmem, hbegins⟩ := List.exists_of_findSome?_eq_some h
  unfold Chapter.begins at hbegins
  split at hbegins
  · split at hbegins
    · refine ⟨List.mem_flatMap.mpr ⟨chapter, List.mem_reverse.mp hmem, ?_⟩, ?_⟩
      · exact List.mem_of_find?_eq_some hbegins
      · simpa using List.find?_some hbegins
    · exact absurd hbegins (by simp)
  · exact absurd hbegins (by simp)

namespace Team

/-- The chapter that a deed makes. -/
def chapter (own : Outlet ε σ) (deed : Deed ε σ) (t : Team ε σ) : Chapter ε σ where
  deed := deed
  events := (t.perform own deed).host.trace.events.drop t.host.trace.events.length

/-- The chapters of a run. -/
def chapters (own : Outlet ε σ) : List (Deed ε σ) → Team ε σ → List (Chapter ε σ)
  | [], _ => []
  | deed :: deeds, t => t.chapter own deed :: chapters own deeds (t.perform own deed)

/-- The unit that walker number `i` remembers. -/
def remembered (i : Nat) (t : Team ε σ) : Option Nat := t.walkers[i]?.bind (·.unit)

theorem remembered_eq {i : Nat} {t : Team ε σ} {w : Walker ε σ} (h : t.walkers[i]? = some w) :
    t.remembered i = w.unit := by
  rw [remembered, h, Option.bind_some]

/-- An engine without a policy and walkers that have not walked yet, all with one trace, which
records and is still empty. -/
structure Fresh (t : Team ε σ) : Prop where
  policy : t.host.engine.policy = none
  recording : t.host.trace.enabled = true
  empty : t.host.trace.events = []
  walkers : ∀ w ∈ t.walkers, w.trace = none ∧ w.unit = none

end Team

/-- Whoever joins has not walked yet and uses the common trace. -/
def Deed.Shares : Deed ε σ → Prop
  | .join w => w.trace = none ∧ w.unit = none
  | _ => True

/-! ## 4. What walkers remember -/

namespace Team

/-- The trace is in order and is made of the chapters so far, and every walker writes there and
remembers the last unit that it began. -/
structure Kept (past : List (Chapter ε σ)) (t : Team ε σ) : Prop where
  orderly : t.host.trace.Orderly t.host.engine.policy
  events : t.host.trace.events = past.flatMap (·.events)
  shared : ∀ w ∈ t.walkers, w.trace = none
  units : ∀ i, t.remembered i = (lastBegun i past).map (·.id)

/-- Where the events `new` of a deed belong, after the chapters `past`. -/
structure Attributed (past : List (Chapter ε σ)) (t : Team ε σ) (deed : Deed ε σ)
    (new : List Event) : Prop where
  /-- Those of a walk belong to the unit that it begins. -/
  walk : ∀ i u, deed = .walk i u → i < t.walkers.length →
    ∃ start below, new = start :: below ∧ Trace.IsUnit u.name start below
  /-- So do those of a visit, and by then the trace tells of the policy. -/
  visit : ∀ u outlet, deed = .call (.visit u outlet) → t.host.engine.excludes u.name = false →
    ∃ opening start below, new = opening ++ start :: below ∧
      (∀ e ∈ opening, e.what.kind = .configInit) ∧
      (∃ e ∈ t.host.trace.events ++ opening, e.what.kind = .configInit) ∧
      Trace.IsUnit u.name start below
  /-- What a walker does on its own belongs to the last unit that it began. -/
  single : ∀ i c, deed = .inject i c ∨ deed = .enforce i c →
    Trace.Under ((lastBegun i past).map (·.id)) new

/-- What is to be shown of a deed. -/
structure Advances (own : Outlet ε σ) (past : List (Chapter ε σ)) (t : Team ε σ) (deed : Deed ε σ)
    (new : List Event) : Prop where
  kept : (t.perform own deed).Kept (past ++ [⟨deed, new⟩])
  attributed : t.Attributed past deed new

theorem Fresh.kept {t : Team ε σ} (h : t.Fresh) : t.Kept [] where
  orderly :=
    { recording := h.recording
      parents := by simp [h.empty]
      top := by simp [h.empty]
      numbers := by simp [h.empty]
      issued := by simp [h.empty]
      configured := by simp [Trace.eventsOf, h.empty, h.policy] }
  events := h.empty
  shared w hw := (h.walkers w hw).1
  units i := by
    cases hi : t.walkers[i]? with
    | none => simp [remembered, hi, lastBegun]
    | some w => rw [remembered_eq hi, (h.walkers w (List.mem_of_getElem? hi)).2, lastBegun]; rfl

namespace Kept

variable {own : Outlet ε σ} {past : List (Chapter ε σ)} {t t' : Team ε σ} {deed : Deed ε σ}
  {new : List Event} {i : Nat} {w : Walker ε σ}

/-- One more chapter. -/
theorem next (hk : t.Kept past) (horderly : t'.host.trace.Orderly t'.host.engine.policy)
    (hevents : t'.host.trace.events = t.host.trace.events ++ new)
    (hshared : ∀ w ∈ t'.walkers, w.trace = none)
    (hunits : ∀ i, t'.remembered i
      = ((Chapter.begins i ⟨deed, new⟩).map (·.id)).or (t.remembered i)) :
    t'.Kept (past ++ [⟨deed, new⟩]) where
  orderly := horderly
  events := by rw [hevents, hk.events, List.flatMap_append, List.flatMap_singleton]
  shared := hshared
  units i := by rw [hunits i, hk.units i, lastBegun_concat, Option.map_or]

/-- A chapter adds its events to the trace. -/
theorem grows (hk : t.Kept past) (hnext : t'.Kept (past ++ [⟨deed, new⟩])) :
    t'.host.trace.events = t.host.trace.events ++ new := by
  rw [hnext.events, hk.events, List.flatMap_append, List.flatMap_singleton]

/-- The events of the chapter are those that the deed recorded. -/
theorem chapter_eq (hk : t.Kept past)
    (hnext : (t.perform own deed).Kept (past ++ [⟨deed, new⟩])) :
    t.chapter own deed = ⟨deed, new⟩ := by
  rw [chapter, hk.grows hnext, List.drop_left]

/-- A chapter in which no walker begins anything. -/
theorem quiet (hk : t.Kept past) (horderly : t'.host.trace.Orderly t'.host.engine.policy)
    (hevents : t'.host.trace.events = t.host.trace.events ++ new)
    (hwalkers : t'.walkers = t.walkers) (hbegins : ∀ i, Chapter.begins i ⟨deed, new⟩ = none) :
    t'.Kept (past ++ [⟨deed, new⟩]) := by
  refine hk.next horderly hevents (hwalkers ▸ hk.shared) ?_
  intro i
  rw [hbegins i, remembered, remembered, hwalkers]
  rfl

/-- There was nothing to do. -/
theorem idle (hk : t.Kept past) (hsame : t.perform own deed = t)
    (hbegins : ∀ i, Chapter.begins i ⟨deed, []⟩ = none) (hattr : t.Attributed past deed []) :
    ∃ new, t.Advances own past deed new := by
  refine ⟨[], ?_, hattr⟩
  rw [hsame]
  exact hk.quiet hk.orderly (List.append_nil _).symm rfl hbegins

theorem unit_eq (hk : t.Kept past) (hi : t.walkers[i]? = some w) :
    w.unit = (lastBegun i past).map (·.id) := by
  rw [← remembered_eq hi, hk.units i]

/-- What a walker remembers is known to the trace. -/
theorem known (hk : t.Kept past) (hi : t.walkers[i]? = some w) :
    Known t.host.trace.events w.unit := by
  rw [hk.unit_eq hi]
  cases hlast : lastBegun i past with
  | none => exact Or.inl rfl
  | some start =>
    obtain ⟨hmem, hkind⟩ := mem_of_lastBegun hlast
    exact Or.inr ⟨start, hk.events ▸ hmem, hkind, rfl⟩

/-- A walker finds the common trace. -/
theorem trace_state (hk : t.Kept past) (hi : t.walkers[i]? = some w) :
    (w.state t.host).trace = t.host.trace := by
  rw [Walker.state, hk.shared w (List.mem_of_getElem? hi)]
  rfl

/-- A chapter of walker number `i`, which leaves the state `s` behind. -/
theorem after {s : Walk σ} (hk : t.Kept past) (hi : t.walkers[i]? = some w)
    (horderly : s.trace.Orderly t.host.engine.policy)
    (hevents : s.trace.events = t.host.trace.events ++ new)
    (hunit : s.unit = ((Chapter.begins i ⟨deed, new⟩).map (·.id)).or w.unit)
    (hothers : ∀ j, i ≠ j → Chapter.begins j ⟨deed, new⟩ = none) :
    (t.after i w s).Kept (past ++ [⟨deed, new⟩]) := by
  have hshared := hk.shared w (List.mem_of_getElem? hi)
  have htrace : (t.after i w s).host.trace = s.trace := by simp [Team.after, hshared]
  refine hk.next (htrace ▸ horderly) (htrace ▸ hevents) ?_ ?_
  · intro w' hw'
    rcases List.mem_or_eq_of_mem_set hw' with hw' | rfl
    · exact hk.shared w' hw'
    · simp [hshared]
  · intro j
    by_cases hj : i = j
    · subst hj
      have hlt : i < t.walkers.length := (List.getElem?_eq_some_iff.mp hi).1
      rw [remembered_eq hi, ← hunit]
      exact remembered_eq (t := t.after i w s) (List.getElem?_set_self hlt)
    · rw [hothers j hj, remembered, remembered, Team.after, List.getElem?_set_ne hj]
      rfl

/-- What a walker does to one class on its own. -/
theorem single {s : Walk σ} (hk : t.Kept past) (hi : t.walkers[i]? = some w)
    (hadds : (w.state t.host).Adds s) (hperform : t.perform own deed = t.after i w s)
    (hdeed : ∃ c, deed = .inject i c ∨ deed = .enforce i c) :
    ∃ new, t.Advances own past deed new := by
  have hstate := hk.trace_state hi
  obtain ⟨horderly, new, hevents, hunder⟩ :=
    hadds.orderly (hstate ▸ hk.orderly) (hstate ▸ hk.known hi)
  have hunder : Trace.Under ((lastBegun i past).map (·.id)) new := hk.unit_eq hi ▸ hunder
  rw [hstate] at hevents
  have hbegins : ∀ j, Chapter.begins j ⟨deed, new⟩ = none := by
    obtain ⟨c, rfl | rfl⟩ := hdeed <;> exact fun _ => rfl
  have hkept : (t.after i w s).Kept (past ++ [⟨deed, new⟩]) :=
    hk.after hi horderly hevents (by rw [hbegins, hadds.unit]; rfl) (fun j _ => hbegins j)
  refine ⟨new, hperform ▸ hkept, ?_⟩
  obtain ⟨c, rfl | rfl⟩ := hdeed
  · refine ⟨by simp, by simp, ?_⟩
    rintro j c' (h | h)
    · obtain ⟨rfl, -⟩ := Deed.inject.inj h
      exact hunder
    · exact absurd h (by simp)
  · refine ⟨by simp, by simp, ?_⟩
    rintro j c' (h | h)
    · exact absurd h (by simp)
    · obtain ⟨rfl, -⟩ := Deed.enforce.inj h
      exact hunder

/-- A walk of a unit. -/
theorem walk (hk : t.Kept past) (hi : t.walkers[i]? = some w) (u : SourceUnit) :
    ∃ new, t.Advances own past (.walk i u) new := by
  have hstate := hk.trace_state hi
  obtain ⟨horderly, start, below, hevents, hunit, hlast⟩ :=
    Walk.orderly_unitOf w.policy w.outlet u (s := w.state t.host) (hstate ▸ hk.orderly)
  rw [hstate] at hevents
  have hbegins : Chapter.begins i ⟨(.walk i u : Deed ε σ), start :: below⟩ = some start := by
    simp [Chapter.begins, hunit.what, Happening.kind]
  refine ⟨start :: below, ?_, ?_, by simp, by simp⟩
  · rw [perform, hi]
    refine hk.after hi horderly hevents (by rw [hbegins, hlast]; rfl) ?_
    intro j hj
    simp [Chapter.begins, hj]
  · rintro j u' h -
    obtain ⟨rfl, rfl⟩ := Deed.walk.inj h
    exact ⟨start, below, rfl, hunit⟩

/-- One more walker. -/
theorem join (hk : t.Kept past) (hw : w.trace = none ∧ w.unit = none) :
    ∃ new, t.Advances own past (.join w) new := by
  refine ⟨[], hk.next hk.orderly (List.append_nil _).symm ?_ ?_, by simp, by simp, by simp⟩
  · intro w' hw'
    rcases List.mem_append.mp hw' with hw' | hw'
    · exact hk.shared w' hw'
    · rw [List.mem_singleton.mp hw', hw.1]
  · intro j
    change (t.walkers ++ [w])[j]?.bind (·.unit) = t.walkers[j]?.bind (·.unit)
    rw [List.getElem?_append]
    split
    · rfl
    · rename_i hj
      rw [List.getElem?_eq_none (by omega : t.walkers.length ≤ j)]
      cases hw' : [w][j - t.walkers.length]? with
      | none => rfl
      | some w' =>
        rw [List.mem_singleton.mp (List.mem_of_getElem? hw')]
        exact hw.2

/-- A call to the engine, or a change that the host makes. -/
theorem call (hk : t.Kept past) (c : Call ε σ) : ∃ new, t.Advances own past (.call c) new := by
  cases c with
  | ensure given =>
    obtain ⟨horderly, -, opening, hevents, -⟩ :=
      Host.orderly_ensureInitialised own given hk.orderly
    exact ⟨opening, hk.quiet horderly hevents rfl fun _ => rfl, by simp, by simp, by simp⟩
  | visit u outlet =>
    cases hx : t.host.engine.excludes u.name with
    | true =>
      have htrace : (t.perform own (.call (.visit u outlet))).host
          = { t.host with trace := t.host.trace.record (.unitSkipped u.name) none } := by
        rw [perform, Host.call, Host.visit_of_excluded hx]
      have horderly : (t.host.trace.record (.unitSkipped u.name) none).Orderly
          t.host.engine.policy :=
        hk.orderly.note (by simp [Happening.kind]) (Or.inl rfl) fun _ => rfl
      have hevents := Trace.events_record hk.orderly.recording (.unitSkipped u.name) none
      refine ⟨[⟨t.host.trace.issued, none, .unitSkipped u.name⟩],
        hk.quiet ?_ ?_ rfl fun _ => rfl, by simp, ?_, by simp⟩
      · rwa [htrace]
      · rwa [htrace]
      · rintro u' outlet' h hx'
        obtain ⟨rfl, -⟩ := Call.visit.inj (Deed.call.inj h)
        exact absurd hx' (by simp [hx])
    | false =>
      obtain ⟨horderly, opening, start, below, hevents, hkinds, hconfig, hunit⟩ :=
        Host.orderly_visit (outlet.getD own) hx hk.orderly
      refine ⟨_, hk.quiet horderly hevents rfl fun _ => rfl, by simp, ?_, by simp⟩
      rintro u' outlet' h -
      obtain ⟨rfl, -⟩ := Call.visit.inj (Deed.call.inj h)
      exact ⟨opening, start, below, rfl, hkinds, hconfig, hunit⟩
  | annotate c d =>
    exact ⟨[], hk.quiet hk.orderly (List.append_nil _).symm rfl fun _ => rfl, by simp, by simp,
      by simp⟩
  | refile files =>
    exact ⟨[], hk.quiet hk.orderly (List.append_nil _).symm rfl fun _ => rfl, by simp, by simp,
      by simp⟩

/-- **One deed.** -/
theorem perform (own : Outlet ε σ) (hk : t.Kept past) (hd : deed.Shares) :
    ∃ new, t.Advances own past deed new := by
  cases deed with
  | call c => exact hk.call c
  | join w => exact hk.join hd
  | walk i u =>
    cases hi : t.walkers[i]? with
    | some w => exact hk.walk hi u
    | none =>
      refine hk.idle (by rw [Team.perform, hi]) (by simp [Chapter.begins]) ?_
      refine ⟨?_, by simp, by simp⟩
      rintro j u' h hlt
      obtain ⟨rfl, -⟩ := Deed.walk.inj h
      exact absurd (List.getElem?_eq_none_iff.mp hi) (Nat.not_le_of_lt hlt)
  | inject i c =>
    have hattr : t.Attributed past (.inject i c) [] := ⟨by simp, by simp, by simp [Trace.Under]⟩
    cases hi : t.walkers[i]? with
    | none => exact hk.idle (by rw [Team.perform, hi]) (fun _ => rfl) hattr
    | some w =>
      cases hc : t.host.pool[c]? with
      | none => exact hk.idle (by rw [Team.perform, hi, hc]) (fun _ => rfl) hattr
      | some k =>
        exact hk.single hi (Walk.adds_inject w.policy c k _) (by rw [Team.perform, hi, hc])
          ⟨c, Or.inl rfl⟩
  | enforce i c =>
    have hattr : t.Attributed past (.enforce i c) [] := ⟨by simp, by simp, by simp [Trace.Under]⟩
    cases hi : t.walkers[i]? with
    | none => exact hk.idle (by rw [Team.perform, hi]) (fun _ => rfl) hattr
    | some w =>
      cases hc : t.host.pool[c]? with
      | none => exact hk.idle (by rw [Team.perform, hi, hc]) (fun _ => rfl) hattr
      | some k =>
        exact hk.single hi (Walk.adds_enforce w.policy w.outlet c k _)
          (by rw [Team.perform, hi, hc]) ⟨c, Or.inr rfl⟩

/-- **A whole run.** -/
theorem run (own : Outlet ε σ) :
    ∀ {deeds : List (Deed ε σ)} {past : List (Chapter ε σ)} {t : Team ε σ},
      t.Kept past → (∀ d ∈ deeds, d.Shares) →
        (t.run own deeds).Kept (past ++ t.chapters own deeds)
  | [], past, t, hk, _ => by rwa [chapters, List.append_nil]
  | deed :: deeds, past, t, hk, hd => by
    obtain ⟨new, hkept, -⟩ := hk.perform own (hd deed List.mem_cons_self)
    have hrest := run own hkept fun d hmem => hd d (List.mem_cons_of_mem deed hmem)
    rw [chapters, hk.chapter_eq hkept, List.append_cons]
    exact hrest

end Kept

/-! ## 5. Runs -/

/-- The kinds of events that stand below nothing. -/
theorem isDetail_of_mem {kind : EventKind} (h : kind ∈ [.configInit, .unitStart, .unitSkipped]) :
    kind.isDetail = false := by
  revert kind
  decide

/-- **Every event is in its place.**  Let an engine that has no policy yet and walkers that have not
walked yet share one trace that records, and let them and the host do whatever they like, in any
order, also if outlets cut their calls short.  Then all events have numbers of their own.  The
parent of an event, if it has one, is the beginning of a unit that was recorded before it, and the
events about policies and units have none.  There is at most one event about the policy.

Moreover, whenever a deed comes, the trace grows by the events of the deed.  Those of a walk are the
beginning of its unit and events with that parent.  Those of a visit that is not excluded are the
same, after the event about the policy, which is recorded just then or was there before.  Those of
a walker that injects or checks a class on its own have as parent the beginning of the last unit
that this walker began, or none if it began none. -/
theorem run_keeps_parents (own : Outlet ε σ) (t : Team ε σ) (deeds : List (Deed ε σ))
    (hfresh : t.Fresh) (hshares : ∀ d ∈ deeds, d.Shares) :
    ((t.run own deeds).host.trace.events.map (·.id)).Nodup ∧
      (∀ front e rest, (t.run own deeds).host.trace.events = front ++ e :: rest →
        (e.parent = none ∨
          ∃ start ∈ front, start.what.kind = .unitStart ∧ e.parent = some start.id) ∧
        (e.what.kind ∈ [.configInit, .unitStart, .unitSkipped] → e.parent = none)) ∧
      ((t.run own deeds).host.trace.eventsOf .configInit).length ≤ 1 ∧
      ∀ front deed rest, deeds = front ++ deed :: rest →
        ∃ new, (t.run own (front ++ [deed])).host.trace.events
            = (t.run own front).host.trace.events ++ new ∧
          (∀ i u, deed = .walk i u → i < (t.run own front).walkers.length →
            ∃ start below, new = start :: below ∧ start.what = .unitStarted u.name ∧
              start.parent = none ∧ ∀ e ∈ below, e.parent = some start.id) ∧
          (∀ u outlet, deed = .call (.visit u outlet) →
            (t.run own front).host.engine.excludes u.name = false →
            ∃ opening start below, new = opening ++ start :: below ∧
              (∀ e ∈ opening, e.what.kind = .configInit) ∧
              (∃ e ∈ (t.run own front).host.trace.events ++ opening,
                e.what.kind = .configInit) ∧
              start.what = .unitStarted u.name ∧ start.parent = none ∧
              ∀ e ∈ below, e.parent = some start.id) ∧
          ∀ i c, deed = .inject i c ∨ deed = .enforce i c →
            ∀ e ∈ new, e.parent = (lastBegun i (t.chapters own front)).map (·.id) := by
  have hrun : (t.run own deeds).Kept (t.chapters own deeds) := hfresh.kept.run own hshares
  refine ⟨?_, ?_, ?_, ?_⟩
  · rw [List.Nodup, List.pairwise_map]
    exact hrun.orderly.numbers.imp Nat.ne_of_lt
  · intro front e rest heq
    refine ⟨hrun.orderly.parents front e rest heq, fun hkind => ?_⟩
    exact hrun.orderly.top e (heq ▸ by simp) (isDetail_of_mem hkind)
  · rw [hrun.orderly.configured]
    split <;> decide
  · rintro front deed rest rfl
    have hfront : (t.run own front).Kept (t.chapters own front) :=
      hfresh.kept.run own fun d hd => hshares d (List.mem_append_left _ hd)
    obtain ⟨new, hkept, hattr⟩ := hfront.perform own (hshares deed (by simp))
    refine ⟨new, ?_, ?_, ?_, ?_⟩
    · rw [run, List.foldl_append]
      exact hfront.grows hkept
    · intro i u hdeed hi
      obtain ⟨start, below, hnew, hunit⟩ := hattr.walk i u hdeed hi
      exact ⟨start, below, hnew, hunit.what, hunit.parent, fun e he => (hunit.below e he).2⟩
    · intro u outlet hdeed hx
      obtain ⟨opening, start, below, hnew, hkinds, hconfig, hunit⟩ := hattr.visit u outlet hdeed hx
      exact ⟨opening, start, below, hnew, hkinds, hconfig, hunit.what, hunit.parent,
        fun e he => (hunit.below e he).2⟩
    · intro i c hdeed e he
      exact (hattr.single i c hdeed e he).2

/-- A walker checks a class before it ever walked, and the outlet takes that report but no further
one, so that its walk is cut short.  A visit of the engine comes in between.  What the walker then
injects on its own still belongs to the unit that it did not finish. -/
theorem run_keeps_parents_unfinished :
    ∃ (t : Team Full Collector) (front : List (Deed Full Collector)) (deed : Deed Full Collector)
      (w : Walker Full Collector),
      t.Fresh ∧ (∀ d ∈ front ++ [deed], d.Shares) ∧
      front = [.join w, .enforce 0 0, .walk 0 ⟨"First", [0]⟩,
        .call (.visit ⟨"Second", []⟩ none)] ∧ deed = .inject 0 1 ∧
      (Walk.unitOf w.policy w.outlet ⟨"First", [0]⟩
        (w.state (t.run Collector.outlet (front.take 2)).host)).1 = .error .full ∧
      (t.run Collector.outlet (front ++ [deed])).host.trace.events.map
          (fun e => (e.id, e.what.kind, e.parent))
        = [(0, .violation, none), (1, .unitStart, none), (2, .directiveInjected, some 1),
          (3, .configInit, none), (4, .unitStart, none), (5, .directiveInjected, some 1)] ∧
      ∃ new, (t.run Collector.outlet (front ++ [deed])).host.trace.events
          = (t.run Collector.outlet front).host.trace.events ++ new ∧
        ∀ e ∈ new, e.parent = (lastBegun 0 (t.chapters Collector.outlet front)).map (·.id) := by
  let k : ClassDecl := { name := "Pair", fields := [{ name := "left", untyped := true }] }
  let w : Walker Full Collector :=
    { policy := { untypedAllowed := false }, outlet := Collector.outlet }
  let t : Team Full Collector :=
    { host := { pool := [k, k], trace := {}, sink := { capacity := some 1 } } }
  let front : List (Deed Full Collector) :=
    [.join w, .enforce 0 0, .walk 0 ⟨"First", [0]⟩, .call (.visit ⟨"Second", []⟩ none)]
  have hfresh : t.Fresh := ⟨rfl, rfl, rfl, by simp [t]⟩
  have hshares : ∀ d ∈ front ++ [.inject 0 1], d.Shares := by simp [front, w, Deed.Shares]
  have hevents : (t.run Collector.outlet (front ++ [.inject 0 1])).host.trace.events.map
      (fun e => (e.id, e.what.kind, e.parent))
        = [(0, .violation, none), (1, .unitStart, none), (2, .directiveInjected, some 1),
          (3, .configInit, none), (4, .unitStart, none), (5, .directiveInjected, some 1)] := by
    decide +kernel
  obtain ⟨-, -, -, hdeeds⟩ :=
    run_keeps_parents Collector.outlet t (front ++ [.inject 0 1]) hfresh hshares
  obtain ⟨new, hgrows, -, -, hsingle⟩ := hdeeds front (.inject 0 1) [] rfl
  exact ⟨t, front, .inject 0 1, w, hfresh, hshares, rfl, rfl, rfl, hevents, new, hgrows,
    hsingle 0 1 (Or.inl rfl)⟩

end Team

end TypingPolicy
