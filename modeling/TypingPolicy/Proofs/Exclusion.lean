import Mathlib.Order.Monotone.Basic
import TypingPolicy.Proofs.Lockstep

/-!
# Excluded units are invisible

A host may hand its engine scripts between other units, and it may do so before the engine has a
policy.  This file compares two runs of one host that differ in such visits only.

A visit to an excluded unit leaves one event in the trace and nothing else, but it uses up an
identifier, so all later events are numbered differently in the two runs.  What is the same is
said of `Host.log`, which lists for each call what it returned and which events it recorded: the
other calls have the same entries, up to a renumbering that keeps the order of identifiers.

* `Apart.call`: one call, on two hosts of which one is ahead in numbers;
* `log_without_excluded`: a run, and the run that is left when the visits to excluded units are
  taken out.

The main statement is `run_hides_excluded`.
-/

namespace TypingPolicy

variable {ε σ : Type}

/-! ## 1. Renumbered events -/

namespace Event

/-- The event under another numbering. -/
def renumber (f : Nat → Nat) (e : Event) : Event := ⟨f e.id, e.parent.map f, e.what⟩

/-- The identifiers that the event speaks of lie between two bounds. -/
structure Within (first last : Nat) (e : Event) : Prop where
  id : first ≤ e.id ∧ e.id < last
  parent : ∀ i ∈ e.parent, first ≤ i ∧ i < last

theorem Within.mono {first last first' last' : Nat} {e : Event} (h : e.Within first last)
    (hfirst : first' ≤ first) (hlast : last ≤ last') : e.Within first' last' := by
  refine ⟨⟨by have := h.id; omega, by have := h.id; omega⟩, ?_⟩
  intro i hi
  have := h.parent i hi
  omega

/-- Only the numbers that occur matter. -/
theorem Within.renumber_congr {first last : Nat} {e : Event} (h : e.Within first last)
    {f g : Nat → Nat} (hfg : ∀ i, first ≤ i → i < last → f i = g i) :
    e.renumber f = e.renumber g := by
  have hid : f e.id = g e.id := hfg _ h.id.1 h.id.2
  have hparent : e.parent.map f = e.parent.map g := by
    cases hp : e.parent with
    | none => rfl
    | some i =>
      obtain ⟨hfirst, hlast⟩ := h.parent i hp
      rw [Option.map_some, Option.map_some, hfg i hfirst hlast]
  rw [renumber, renumber, hid, hparent]

end Event

namespace Trace

/-- Two traces that have recorded the same since they were `b` and `c`, the first being `d` numbers
ahead of the second. -/
structure Abreast (d : Nat) (b c t u : Trace) : Prop where
  enabled : t.enabled = u.enabled
  kept : u.enabled = c.enabled
  issued : t.issued = u.issued + d
  later : c.issued ≤ u.issued
  events : ∃ new, u.events = c.events ++ new ∧
    t.events = b.events ++ new.map (Event.renumber (· + d)) ∧
    ∀ e ∈ new, e.Within c.issued u.issued

namespace Abreast

variable {d : Nat} {b c t u : Trace}

theorem refl (henabled : t.enabled = u.enabled) (hissued : t.issued = u.issued + d) :
    Abreast d t u t u :=
  ⟨henabled, rfl, hissued, Nat.le_refl _, [], by simp⟩

/-- **One more event** in each trace, with parents that correspond. -/
theorem record (h : Abreast d b c t u) (what : Happening) (parent : Option Nat)
    (hparent : ∀ i ∈ parent, c.issued ≤ i ∧ i < u.issued) :
    Abreast d b c (t.record what (parent.map (· + d))) (u.record what parent) := by
  obtain ⟨new, hu, ht, hnew⟩ := h.events
  have hlater := h.later
  have hissued := h.issued
  refine ⟨h.enabled, h.kept, ?_, ?_, ?_⟩
  · simp only [Trace.record]
    omega
  · simp only [Trace.record]
    omega
  · cases hen : u.enabled with
    | false =>
      refine ⟨new, ?_, ?_, ?_⟩
      · simp [Trace.record, hen, hu]
      · simp [Trace.record, h.enabled, hen, ht]
      · exact fun e he => (hnew e he).mono (Nat.le_refl _) (Nat.le_succ _)
    | true =>
      refine ⟨new ++ [⟨u.issued, parent, what⟩], ?_, ?_, ?_⟩
      · simp [Trace.record, hen, hu]
      · simp [Trace.record, h.enabled, hen, ht, hissued, Event.renumber]
      · intro e he
        rcases List.mem_append.mp he with he | he
        · exact (hnew e he).mono (Nat.le_refl _) (Nat.le_succ _)
        · obtain rfl := List.mem_singleton.mp he
          refine ⟨⟨hlater, Nat.lt_succ_self _⟩, fun i hi => ?_⟩
          have := hparent i hi
          exact ⟨this.1, Nat.lt_succ_of_lt this.2⟩

theorem recordAll (parent : Option Nat) :
    ∀ (hs : List Happening) {t u : Trace}, Abreast d b c t u →
      (∀ i ∈ parent, c.issued ≤ i ∧ i < u.issued) →
      Abreast d b c (t.recordAll hs (parent.map (· + d))) (u.recordAll hs parent)
  | [], _, _, h, _ => h
  | what :: hs, t, u, h, hparent => by
    refine recordAll parent hs (h.record what parent hparent) ?_
    intro i hi
    have := hparent i hi
    exact ⟨this.1, Nat.lt_succ_of_lt this.2⟩

/-- A whole unit in each trace. -/
theorem unit (h : Abreast d b c t u) (name : String) (hs : List Happening) :
    Abreast d b c ((t.record (.unitStarted name) none).recordAll hs (some t.issued))
      ((u.record (.unitStarted name) none).recordAll hs (some u.issued)) := by
  have hstart := h.record (.unitStarted name) none (by simp)
  have hall := recordAll (some u.issued) hs hstart (by
    intro i hi
    obtain rfl : u.issued = i := Option.some.inj hi
    exact ⟨h.later, Nat.lt_succ_self _⟩)
  rw [Option.map_some, ← h.issued] at hall
  exact hall

end Abreast

end Trace

/-! ## 2. What calls return and record -/

/-- What a call returns. -/
inductive Answer (ε : Type) where
  | policy (p : Policy)
  | result (r : Except ε WalkResult)
  | nothing

/-- A call, what it returned, and the events that it recorded. -/
structure Entry (ε σ : Type) where
  call : Call ε σ
  answer : Answer ε
  events : List Event

def Entry.renumber (f : Nat → Nat) (entry : Entry ε σ) : Entry ε σ :=
  { entry with events := entry.events.map (Event.renumber f) }

/-- Is the call a visit to an excluded unit? -/
def Call.visitsExcluded (e : Engine) : Call ε σ → Bool
  | .visit u _ => e.excludes u.name
  | .ensure _ | .annotate _ _ | .refile _ => false

namespace Host

/-- What one call returns; `own` is the outlet of the engine. -/
def answer (own : Outlet ε σ) (h : Host σ) : Call ε σ → Answer ε
  | .ensure given => .policy (h.ensureInitialised own given).1
  | .visit u outlet => .result (h.visit (outlet.getD own) u).1
  | .annotate _ _ | .refile _ => .nothing

def entry (own : Outlet ε σ) (h : Host σ) (c : Call ε σ) : Entry ε σ where
  call := c
  answer := h.answer own c
  events := (h.call own c).trace.events.drop h.trace.events.length

/-- The entries of one call after the other. -/
def log (own : Outlet ε σ) : List (Call ε σ) → Host σ → List (Entry ε σ)
  | [], _ => []
  | c :: cs, h => h.entry own c :: log own cs (h.call own c)

/-! ## 3. One call on two hosts -/

/-- Two hosts that differ in their traces only; these have recorded the same since they were `b`
and `c`, and the first is `d` numbers ahead. -/
structure Apart (d : Nat) (b c : Trace) (h h' : Host σ) : Prop where
  engine : h.engine = h'.engine
  files : h.files = h'.files
  pool : h.pool = h'.pool
  sink : h.sink = h'.sink
  trace : Trace.Abreast d b c h.trace h'.trace

variable {own : Outlet ε σ} {d : Nat} {b c : Trace} {h h' : Host σ}

namespace Apart

theorem refl (h : Host σ) : Apart 0 h.trace h.trace h h :=
  ⟨rfl, rfl, rfl, rfl, .refl rfl rfl⟩

/-- Counting from now on. -/
theorem rebase (ha : Apart d b c h h') : Apart d h.trace h'.trace h h' :=
  ⟨ha.engine, ha.files, ha.pool, ha.sink, .refl ha.trace.enabled ha.trace.issued⟩

theorem ensure (ha : Apart d b c h h') (outlet : Outlet ε σ) (given : Option Source) :
    (h.ensureInitialised outlet given).1 = (h'.ensureInitialised outlet given).1 ∧
      Apart d b c (h.ensureInitialised outlet given).2 (h'.ensureInitialised outlet given).2 := by
  cases hp : h'.engine.policy with
  | some p =>
    have hp' : h.engine.policy = some p := by rw [ha.engine, hp]
    rw [ensureInitialised_of_some hp, ensureInitialised_of_some hp']
    exact ⟨rfl, ha⟩
  | none =>
    have hp' : h.engine.policy = none := by rw [ha.engine, hp]
    have hasks : h.asks given = h'.asks given := by rw [asks, asks, ha.engine]
    rw [ensureInitialised_of_none hp, ensureInitialised_of_none hp', initialise_eq, initialise_eq,
      hasks, ha.files, ha.engine, ha.sink]
    exact ⟨rfl, rfl, rfl, ha.pool, rfl, ha.trace.record _ none (by simp)⟩

theorem visit (ha : Apart d b c h h') (outlet : Outlet ε σ) (u : SourceUnit) :
    (h.visit outlet u).1 = (h'.visit outlet u).1 ∧
      Apart d b c (h.visit outlet u).2 (h'.visit outlet u).2 := by
  cases hx : h'.engine.excludes u.name with
  | true =>
    have hx' : h.engine.excludes u.name = true := by rw [ha.engine, hx]
    rw [visit_of_excluded hx, visit_of_excluded hx']
    exact ⟨rfl, ha.engine, ha.files, ha.pool, ha.sink, ha.trace.record _ none (by simp)⟩
  | false =>
    have hx' : h.engine.excludes u.name = false := by rw [ha.engine, hx]
    obtain ⟨hp, he⟩ := ha.ensure outlet none
    obtain ⟨hresult, hpool, hsink, hs, ht, ht'⟩ := walkUnder_inStep (outlet.blind_eq)
      (h'.ensureInitialised outlet none).1 u he.pool he.sink
    rw [visit_of_included hx, visit_of_included hx', hp]
    refine ⟨hresult, he.engine, he.files, hpool, hsink, ?_⟩
    rw [ht, ht']
    exact he.trace.unit u.name hs

/-- **One call on two hosts.**  It returns the same, and the hosts stay as far apart as before. -/
theorem call (ha : Apart d b c h h') (own : Outlet ε σ) (call : Call ε σ) :
    h.answer own call = h'.answer own call ∧ Apart d b c (h.call own call) (h'.call own call) := by
  cases call with
  | ensure given =>
    obtain ⟨hp, he⟩ := ha.ensure own given
    exact ⟨congrArg Answer.policy hp, he⟩
  | visit u outlet =>
    obtain ⟨hr, hv⟩ := ha.visit (outlet.getD own) u
    exact ⟨congrArg Answer.result hr, hv⟩
  | annotate i dir =>
    exact ⟨rfl, ha.engine, ha.files, congrArg (Edit.addDirective i dir) ha.pool, ha.sink, ha.trace⟩
  | refile files => exact ⟨rfl, ha.engine, rfl, ha.pool, ha.sink, ha.trace⟩

/-- The entries of one call on both hosts. -/
theorem entry (ha : Apart d b c h h') (own : Outlet ε σ) (call : Call ε σ) :
    h.entry own call = (h'.entry own call).renumber (· + d) := by
  obtain ⟨hanswer, hcall⟩ := ha.rebase.call own call
  obtain ⟨new, hnew', hnew, -⟩ := hcall.trace.events
  simp only [Host.entry, Entry.renumber, hanswer, hnew, hnew', List.drop_left]

end Apart

/-! ## 4. The trace of a run -/

/-- What a call records stands at the end of the trace, under numbers that were not in use. -/
theorem entry_spec (own : Outlet ε σ) (call : Call ε σ) (h : Host σ) :
    (h.call own call).trace.events = h.trace.events ++ (h.entry own call).events ∧
      h.trace.issued ≤ (h.call own call).trace.issued ∧
      ∀ e ∈ (h.entry own call).events, e.Within h.trace.issued (h.call own call).trace.issued := by
  obtain ⟨-, hcall⟩ := (Apart.refl h).call own call
  obtain ⟨new, hnew, -, hwithin⟩ := hcall.trace.events
  have hentry : (h.entry own call).events = new := by
    rw [entry, hnew, List.drop_left]
  rw [hentry]
  exact ⟨hnew, hcall.trace.later, hwithin⟩

/-- No call switches recording on or off. -/
theorem enabled_call (own : Outlet ε σ) (h : Host σ) (call : Call ε σ) :
    (h.call own call).trace.enabled = h.trace.enabled :=
  ((Apart.refl h).call own call).2.trace.kept

theorem events_run (own : Outlet ε σ) :
    ∀ (cs : List (Call ε σ)) (h : Host σ),
      (h.run own cs).trace.events = h.trace.events ++ (h.log own cs).flatMap (·.events)
  | [], h => by
    rw [log, List.flatMap_nil, List.append_nil]
    rfl
  | c :: cs, h => by
    have hrun : h.run own (c :: cs) = (h.call own c).run own cs := rfl
    rw [hrun, events_run own cs, (entry_spec own c h).1, log, List.flatMap_cons, List.append_assoc]

/-- A run uses no number that was given out before it. -/
theorem number_log (own : Outlet ε σ) :
    ∀ (cs : List (Call ε σ)) (h : Host σ), ∀ entry ∈ h.log own cs, ∀ e ∈ entry.events,
      ∃ last, e.Within h.trace.issued last
  | [], _, _, hentry, _, _ => absurd hentry List.not_mem_nil
  | c :: cs, h, entry, hentry, e, he => by
    obtain ⟨-, hle, hwithin⟩ := entry_spec own c h
    rcases List.mem_cons.mp hentry with rfl | hentry
    · exact ⟨_, hwithin e he⟩
    · obtain ⟨last, hlast⟩ := number_log own cs (h.call own c) entry hentry e he
      exact ⟨last, hlast.mono hle (Nat.le_refl _)⟩

/-- Two numberings that agree from now on agree on all that a run records. -/
theorem map_renumber_log (own : Outlet ε σ) (cs : List (Call ε σ)) (h : Host σ) {f g : Nat → Nat}
    (hfg : ∀ i, h.trace.issued ≤ i → f i = g i) :
    (h.log own cs).map (Entry.renumber f) = (h.log own cs).map (Entry.renumber g) := by
  apply List.map_congr_left
  intro entry hentry
  have hevents : entry.events.map (Event.renumber f) = entry.events.map (Event.renumber g) := by
    apply List.map_congr_left
    intro e he
    obtain ⟨last, hlast⟩ := number_log own cs h entry hentry e he
    exact hlast.renumber_congr (fun i hi _ => hfg i hi)
  rw [Entry.renumber, Entry.renumber, hevents]

/-! ## 5. Visits to excluded units -/

/-- No call changes who is excluded. -/
theorem excludes_call (own : Outlet ε σ) (h : Host σ) (c : Call ε σ) :
    (h.call own c).engine.excludes = h.engine.excludes := by
  rw [engine_call]
  split
  · cases c.given with
    | none => rfl
    | some source => rfl
  · rfl

theorem visitsExcluded_call (own : Outlet ε σ) (h : Host σ) (c : Call ε σ) :
    (Call.visitsExcluded (h.call own c).engine : Call ε σ → Bool)
      = Call.visitsExcluded h.engine := by
  funext c'
  cases c' with
  | visit u outlet => exact congrFun (excludes_call own h c) u.name
  | ensure given => rfl
  | annotate i dir => rfl
  | refile files => rfl

/-- A call that visits an excluded unit puts its host one number further ahead. -/
theorem Apart.skip (own : Outlet ε σ) (ha : Apart d b c h h') {call : Call ε σ}
    (hx : call.visitsExcluded h.engine = true) :
    Apart (d + 1) (h.call own call).trace h'.trace (h.call own call) h' := by
  cases call with
  | visit u outlet =>
    have hcall : h.call own (.visit u outlet)
        = { h with trace := h.trace.record (.unitSkipped u.name) none } := by
      rw [Host.call, visit_of_excluded hx]
    rw [hcall]
    refine ⟨ha.engine, ha.files, ha.pool, ha.sink, .refl ha.trace.enabled ?_⟩
    have := ha.trace.issued
    simp only [Trace.record]
    omega
  | ensure given => exact absurd hx (by simp [Call.visitsExcluded])
  | annotate i dir => exact absurd hx (by simp [Call.visitsExcluded])
  | refile files => exact absurd hx (by simp [Call.visitsExcluded])

/-- **Taking out the visits to excluded units.**  The run that is left ends in the same state but
for the trace, and its entries are those of the full run, renumbered. -/
theorem log_without_excluded (own : Outlet ε σ) {skips : Call ε σ → Bool} :
    ∀ (cs : List (Call ε σ)) {d : Nat} {b c : Trace} {h h' : Host σ}, Apart d b c h h' →
      Call.visitsExcluded h.engine = skips →
      (∃ d' b' c', Apart d' b' c' (h.run own cs) (h'.run own (cs.filter (!skips ·)))) ∧
        ∃ f : Nat → Nat, StrictMono f ∧ (∀ i, i + d ≤ f i) ∧
          (h.log own cs).filter (!skips ·.call)
            = (h'.log own (cs.filter (!skips ·))).map (Entry.renumber f)
  | [], d, b, c, h, h', ha, _ =>
    ⟨⟨d, b, c, ha⟩, (· + d), fun i j hij => Nat.add_lt_add_right hij d, fun _ => Nat.le_refl _, rfl⟩
  | call :: cs, d, b, c, h, h', ha, hskips => by
    have hrest : Call.visitsExcluded (h.call own call).engine = skips := by
      rw [visitsExcluded_call, hskips]
    cases hx : skips call with
    | true =>
      have hcall : call.visitsExcluded h.engine = true := by rw [hskips, hx]
      obtain ⟨hend, f, hf, hge, hlog⟩ :=
        log_without_excluded own cs (ha.skip own hcall) hrest
      have hcs : (call :: cs).filter (!skips ·) = cs.filter (!skips ·) := by simp [hx]
      have hlogs : (h.log own (call :: cs)).filter (!skips ·.call)
          = ((h.call own call).log own cs).filter (!skips ·.call) := by
        rw [log, List.filter_cons]
        simp [Host.entry, hx]
      rw [hcs, hlogs]
      refine ⟨hend, f, hf, ?_, hlog⟩
      intro i
      have := hge i
      omega
    | false =>
      have hcs : (call :: cs).filter (!skips ·) = call :: cs.filter (!skips ·) := by simp [hx]
      have hlogs : (h.log own (call :: cs)).filter (!skips ·.call)
          = h.entry own call :: ((h.call own call).log own cs).filter (!skips ·.call) := by
        rw [log, List.filter_cons]
        simp [Host.entry, hx]
      obtain ⟨hend, f, hf, hge, hlog⟩ :=
        log_without_excluded own cs (ha.call own call).2 hrest
      -- The numbers of this call are shifted by `d`; `f` takes over where they end.
      obtain ⟨-, -, hwithin⟩ := entry_spec own call h'
      generalize hm : (h'.call own call).trace.issued = m at hwithin
      let g (i : Nat) : Nat := if i < m then i + d else f i
      have hlow : ∀ i, i < m → i + d = g i := fun i hi => (if_pos hi).symm
      have hhigh : ∀ i, m ≤ i → f i = g i := fun i hi => (if_neg (Nat.not_lt.mpr hi)).symm
      have hentry : h.entry own call = (h'.entry own call).renumber g := by
        rw [ha.entry own call, Entry.renumber, Entry.renumber]
        congr 1
        apply List.map_congr_left
        intro e he
        exact (hwithin e he).renumber_congr (fun i _ hi => hlow i hi)
      have htail := map_renumber_log own (cs.filter (!skips ·)) (h'.call own call)
        (fun i hi => hhigh i (hm ▸ hi))
      rw [hcs, hlogs]
      refine ⟨hend, g, ?_, ?_, ?_⟩
      · intro i j hij
        rcases Nat.lt_or_ge j m with hj | hj
        · rw [← hlow i (Nat.lt_trans hij hj), ← hlow j hj]
          omega
        · rw [← hhigh j hj]
          rcases Nat.lt_or_ge i m with hi | hi
          · rw [← hlow i hi]
            exact Nat.lt_of_lt_of_le (Nat.add_lt_add_right hij d) (hge j)
          · rw [← hhigh i hi]
            exact hf hij
      · intro i
        rcases Nat.lt_or_ge i m with hi | hi
        · exact Nat.le_of_eq (hlow i hi)
        · rw [← hhigh i hi]
          exact hge i
      · rw [hlog, hentry, htail, log, List.map_cons]

/-- What a visit to an excluded unit comes to, wherever it stands in a run. -/
theorem entry_of_excluded (own : Outlet ε σ) {e : Engine} {u : SourceUnit}
    {outlet : Option (Outlet ε σ)} (hx : e.excludes u.name = true) :
    ∀ (cs : List (Call ε σ)) {h : Host σ}, h.engine.excludes = e.excludes →
      ∀ entry ∈ h.log own cs, entry.call = .visit u outlet →
        entry.answer = .result (.ok { unit := u.name, excluded := true }) ∧
          entry.events.map (fun event => (event.parent, event.what))
            = if h.trace.enabled then [(none, .unitSkipped u.name)] else []
  | [], _, _, _, hentry, _ => absurd hentry List.not_mem_nil
  | c :: cs, h, he, entry, hentry, hcall => by
    rcases List.mem_cons.mp hentry with rfl | hentry
    · obtain rfl : c = .visit u outlet := hcall
      have hxh : h.engine.excludes u.name = true := by rw [he, hx]
      refine ⟨?_, ?_⟩
      · simp only [Host.entry, answer, visit_of_excluded hxh]
      · simp only [Host.entry, call, visit_of_excluded hxh, Trace.record]
        cases h.trace.enabled with
        | true => simp
        | false => simp
    · rw [← enabled_call own h c]
      exact entry_of_excluded own hx cs ((excludes_call own h c).trans he) entry hentry hcall

/-- **Excluded units are invisible.**  Two runs of one host, in any state, that differ in visits to
excluded units only, end with the same engine (hence with the same policy and as many questions to
sources), the same classes and the same sink.  Apart from these visits, both have the entries of
the run without any such visit: the same answers, and the same events under the same parents, up to
a numbering that keeps the order.  A visit to an excluded unit returns an otherwise empty result,
and records that the unit was skipped, under no parent. -/
theorem run_hides_excluded (own : Outlet ε σ) (h : Host σ) (cs ds : List (Call ε σ))
    (hsame : cs.filter (!·.visitsExcluded h.engine) = ds.filter (!·.visitsExcluded h.engine)) :
    ((h.run own cs).engine = (h.run own ds).engine ∧ (h.run own cs).pool = (h.run own ds).pool ∧
        (h.run own cs).sink = (h.run own ds).sink ∧ (h.run own cs).files = (h.run own ds).files) ∧
      (∃ f g : Nat → Nat, StrictMono f ∧ StrictMono g ∧
        (h.log own cs).filter (!·.call.visitsExcluded h.engine)
          = (h.log own (cs.filter (!·.visitsExcluded h.engine))).map (Entry.renumber f) ∧
        (h.log own ds).filter (!·.call.visitsExcluded h.engine)
          = (h.log own (cs.filter (!·.visitsExcluded h.engine))).map (Entry.renumber g)) ∧
      ((h.run own cs).trace.events = h.trace.events ++ (h.log own cs).flatMap (·.events) ∧
        (h.run own ds).trace.events = h.trace.events ++ (h.log own ds).flatMap (·.events)) ∧
      ∀ entry ∈ h.log own cs ++ h.log own ds, ∀ u outlet, entry.call = .visit u outlet →
        h.engine.excludes u.name = true →
        entry.answer = .result (.ok { unit := u.name, excluded := true }) ∧
          entry.events.map (fun event => (event.parent, event.what))
            = if h.trace.enabled then [(none, .unitSkipped u.name)] else [] := by
  obtain ⟨⟨_, _, _, hend⟩, f, hf, -, hlog⟩ := log_without_excluded own cs (Apart.refl h) rfl
  obtain ⟨⟨_, _, _, hend'⟩, g, hg, -, hlog'⟩ := log_without_excluded own ds (Apart.refl h) rfl
  rw [← hsame] at hend' hlog'
  refine ⟨⟨?_, ?_, ?_, ?_⟩, ⟨f, g, hf, hg, hlog, hlog'⟩,
    ⟨events_run own cs h, events_run own ds h⟩, ?_⟩
  · exact hend.engine.trans hend'.engine.symm
  · exact hend.pool.trans hend'.pool.symm
  · exact hend.sink.trans hend'.sink.symm
  · exact hend.files.trans hend'.files.symm
  · intro entry hentry u outlet hcall hx
    rcases List.mem_append.mp hentry with hentry | hentry
    · exact entry_of_excluded own hx cs rfl entry hentry hcall
    · exact entry_of_excluded own hx ds rfl entry hentry hcall

/-- Before and after a unit, or only at the end: wherever generated units are visited, the class is
injected by the same visit, under the unit that this visit began. -/
theorem run_hides_excluded_generated :
    ∃ (h : Host Collector) (cs ds : List (Call Full Collector)),
      h.engine.excludedNames = ["generated"] ∧ h.engine.excludedBeginnings = ["Tmp"] ∧
      cs = [.visit ⟨"TmpOne", [0]⟩ none, .visit ⟨"Unit", [0]⟩ none,
        .visit ⟨"generated", [0]⟩ none] ∧
      ds = [.visit ⟨"Unit", [0]⟩ none, .visit ⟨"TmpTwo", [0]⟩ none] ∧
      cs.filter (!·.visitsExcluded h.engine) = ds.filter (!·.visitsExcluded h.engine) ∧
      (h.run Collector.outlet cs).engine = (h.run Collector.outlet ds).engine ∧
      (h.run Collector.outlet cs).pool = (h.run Collector.outlet ds).pool ∧
      (∃ f g : Nat → Nat, StrictMono f ∧ StrictMono g ∧
        (h.log Collector.outlet cs).filter (!·.call.visitsExcluded h.engine)
          = (h.log Collector.outlet [.visit ⟨"Unit", [0]⟩ none]).map (Entry.renumber f) ∧
        (h.log Collector.outlet ds).filter (!·.call.visitsExcluded h.engine)
          = (h.log Collector.outlet [.visit ⟨"Unit", [0]⟩ none]).map (Entry.renumber g)) ∧
      (h.run Collector.outlet cs).trace.events.map (fun e => (e.id, e.parent, e.what.kind))
        = [(0, none, .unitSkipped), (1, none, .configInit), (2, none, .unitStart),
          (3, some 2, .directiveInjected), (4, none, .unitSkipped)] ∧
      (h.run Collector.outlet ds).trace.events.map (fun e => (e.id, e.parent, e.what.kind))
        = [(0, none, .configInit), (1, none, .unitStart), (2, some 1, .directiveInjected),
          (3, none, .unitSkipped)] := by
  let h : Host Collector :=
    { engine := { excludedNames := ["generated"], excludedBeginnings := ["Tmp"] }
      pool := [{ name := "Pair" }]
      trace := {}
      sink := {} }
  let cs : List (Call Full Collector) :=
    [.visit ⟨"TmpOne", [0]⟩ none, .visit ⟨"Unit", [0]⟩ none, .visit ⟨"generated", [0]⟩ none]
  let ds : List (Call Full Collector) :=
    [.visit ⟨"Unit", [0]⟩ none, .visit ⟨"TmpTwo", [0]⟩ none]
  obtain ⟨⟨hengine, hpool, -, -⟩, hlogs, -, -⟩ :=
    run_hides_excluded Collector.outlet h cs ds rfl
  exact ⟨h, cs, ds, rfl, rfl, rfl, rfl, rfl, hengine, hpool, hlogs, by decide +kernel,
    by decide +kernel⟩

end Host

end TypingPolicy
