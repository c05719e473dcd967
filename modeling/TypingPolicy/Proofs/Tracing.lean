import TypingPolicy.Proofs.Exclusion

/-!
# Tracing is inert

A host may be made with a trace that records, with one that does not, or with none, and then it makes
itself one that does not.  Traces are written between all other things that a call does: between the
changes to classes, between a report and the counting of it, before a refusal that ends the call.  The
number of a unit's event comes back from the trace and goes into later calls.  Still nothing else
depends on it:

* `call_untraced`: a call returns what it returns on the host without its trace, and leaves the same
  behind, the trace aside;
* `trace_call`: what no event spoils survives a call; so a trace that does not record stays empty.

The main statement, about runs and the three kinds of hosts, is `course_of_traced`.
-/

namespace TypingPolicy

variable {ε σ : Type}

namespace Host

/-! ## 1. Hosts with one trace or another -/

/-- The host, had it been made with the given trace.  Without one it makes itself a trace that
records nothing. -/
def traced (given : Option Trace) (h : Host σ) : Host σ := { h with trace := given.getD .disabled }

/-- All that there is to a host besides its trace. -/
def untraced (h : Host σ) : Host σ := h.traced none

/-- A run, call by call: what was returned, and the host afterwards. -/
def course (own : Outlet ε σ) : List (Call ε σ) → Host σ → List (Answer ε × Host σ)
  | [], _ => []
  | c :: cs, h => (h.answer own c, h.call own c) :: course own cs (h.call own c)

/-- A run, with the traces left out. -/
def outward (own : Outlet ε σ) (calls : List (Call ε σ)) (h : Host σ) :
    List (Answer ε × Host σ) :=
  (h.course own calls).map fun (answer, after) => (answer, after.untraced)

theorem outward_cons (own : Outlet ε σ) (c : Call ε σ) (cs : List (Call ε σ)) (h : Host σ) :
    h.outward own (c :: cs)
      = (h.answer own c, (h.call own c).untraced) :: (h.call own c).outward own cs := rfl

/-! ## 2. One call without its trace -/

theorem ensureInitialised_untraced (outlet : Outlet ε σ) (given : Option Source) (h : Host σ) :
    (h.ensureInitialised outlet given).1 = (h.untraced.ensureInitialised outlet given).1 ∧
      (h.ensureInitialised outlet given).2.untraced
        = (h.untraced.ensureInitialised outlet given).2.untraced := by
  cases hp : h.engine.policy with
  | some p =>
    have hp' : h.untraced.engine.policy = some p := hp
    rw [ensureInitialised_of_some hp, ensureInitialised_of_some hp']
    exact ⟨rfl, rfl⟩
  | none =>
    have hp' : h.untraced.engine.policy = none := hp
    rw [ensureInitialised_of_none hp, ensureInitialised_of_none hp', initialise_eq, initialise_eq]
    exact ⟨rfl, rfl⟩

/-- Two hosts that agree but for their traces walk alike, whatever the outlet does. -/
theorem walkUnder_untraced (p : Policy) (outlet : Outlet ε σ) (u : SourceUnit) {h h' : Host σ}
    (heq : h.untraced = h'.untraced) :
    (h.walkUnder p outlet u).1 = (h'.walkUnder p outlet u).1 ∧
      (h.walkUnder p outlet u).2.untraced = (h'.walkUnder p outlet u).2.untraced := by
  simp only [untraced, traced, mk.injEq, true_and] at heq
  obtain ⟨hengine, hfiles, hpool, hsink⟩ := heq
  obtain ⟨hresult, hwalked, hheard, -⟩ := walkUnder_inStep outlet.blind_eq p u hpool hsink
  refine ⟨hresult, ?_⟩
  simp only [untraced, traced, mk.injEq, true_and]
  exact ⟨hengine, hfiles, hwalked, hheard⟩

theorem visit_untraced (outlet : Outlet ε σ) (u : SourceUnit) (h : Host σ) :
    (h.visit outlet u).1 = (h.untraced.visit outlet u).1 ∧
      (h.visit outlet u).2.untraced = (h.untraced.visit outlet u).2.untraced := by
  cases hx : h.engine.excludes u.name with
  | true =>
    have hx' : h.untraced.engine.excludes u.name = true := hx
    rw [visit_of_excluded hx, visit_of_excluded hx']
    exact ⟨rfl, rfl⟩
  | false =>
    have hx' : h.untraced.engine.excludes u.name = false := hx
    obtain ⟨hp, hready⟩ := ensureInitialised_untraced outlet none h
    rw [visit_of_included hx, visit_of_included hx', hp]
    exact walkUnder_untraced _ outlet u hready

/-- **One call.**  It returns the same without its trace, and leaves the same behind. -/
theorem call_untraced (own : Outlet ε σ) (c : Call ε σ) (h : Host σ) :
    h.answer own c = h.untraced.answer own c ∧
      (h.call own c).untraced = (h.untraced.call own c).untraced := by
  cases c with
  | ensure given =>
    obtain ⟨hp, hafter⟩ := ensureInitialised_untraced own given h
    exact ⟨congrArg Answer.policy hp, hafter⟩
  | visit u outlet =>
    obtain ⟨hresult, hafter⟩ := visit_untraced (outlet.getD own) u h
    exact ⟨congrArg Answer.result hresult, hafter⟩
  | annotate i d => exact ⟨rfl, rfl⟩
  | refile files => exact ⟨rfl, rfl⟩

/-! ## 3. One call and its trace -/

/-- What no event spoils survives a call. -/
theorem trace_call {P : Trace → Prop} (hP : ∀ t what parent, P t → P (t.record what parent))
    (own : Outlet ε σ) (c : Call ε σ) {h : Host σ} (hh : P h.trace) : P (h.call own c).trace := by
  have hensure : ∀ (outlet : Outlet ε σ) (given : Option Source),
      P (h.ensureInitialised outlet given).2.trace := by
    intro outlet given
    cases hp : h.engine.policy with
    | some p =>
      rw [ensureInitialised_of_some hp]
      exact hh
    | none =>
      rw [ensureInitialised_of_none hp, initialise_eq]
      exact hP _ _ _ hh
  cases c with
  | ensure given => exact hensure own given
  | visit u outlet =>
    rw [call]
    cases hx : h.engine.excludes u.name with
    | true =>
      rw [visit_of_excluded hx]
      exact hP _ _ _ hh
    | false =>
      rw [visit_of_included hx]
      exact Walk.unitOf_trace (fun t what parent _ => hP t what parent) (hensure _ none)
  | annotate i d => exact hh
  | refile files => exact hh

/-! ## 4. Runs -/

theorem outward_untraced (own : Outlet ε σ) :
    ∀ (calls : List (Call ε σ)) (h : Host σ), h.outward own calls = h.untraced.outward own calls
  | [], _ => rfl
  | c :: cs, h => by
    obtain ⟨hanswer, hafter⟩ := call_untraced own c h
    have hrest : (h.call own c).outward own cs = (h.untraced.call own c).outward own cs := by
      rw [outward_untraced own cs (h.call own c), hafter, ← outward_untraced own cs]
    rw [outward_cons, outward_cons, hanswer, hafter, hrest]

/-- What no event spoils holds all along a run. -/
theorem trace_course {P : Trace → Prop} (hP : ∀ t what parent, P t → P (t.record what parent))
    (own : Outlet ε σ) :
    ∀ (calls : List (Call ε σ)) {h : Host σ}, P h.trace →
      ∀ x ∈ h.course own calls, P x.2.trace
  | [], _, _, _, hx => absurd hx List.not_mem_nil
  | c :: cs, h, hh, x, hx => by
    have hcall := trace_call hP own c hh
    rcases List.mem_cons.mp hx with rfl | hx
    · exact hcall
    · exact trace_course hP own cs hcall x hx

/-- **Tracing is inert.**  Whether a host is made with a trace that records, with one that does not,
or with none, makes no difference to a run: call by call the results and refusals are the same, and
so are the engine with its policy, the classes and the sink, whichever reports are refused.  Without
a trace, or with one that does not record and is empty, there is no event after any call. -/
theorem course_of_traced (own : Outlet ε σ) (h : Host σ) (calls : List (Call ε σ)) :
    (∀ given given' : Option Trace,
      (h.traced given).outward own calls = (h.traced given').outward own calls) ∧
      ∀ given : Option Trace, (∀ t ∈ given, t.enabled = false ∧ t.events = []) →
        ∀ x ∈ (h.traced given).course own calls, x.2.trace.events = [] := by
  constructor
  · intro given given'
    have hsame : (h.traced given).untraced = (h.traced given').untraced := rfl
    rw [outward_untraced own calls (h.traced given), hsame,
      ← outward_untraced own calls (h.traced given')]
  · intro given hoff x hx
    have hstart : (h.traced given).trace.enabled = false ∧ (h.traced given).trace.events = [] := by
      cases given with
      | none => exact ⟨rfl, rfl⟩
      | some t => exact hoff t rfl
    have hsilent : x.2.trace.enabled = false ∧ x.2.trace.events = [] := by
      refine trace_course (P := fun t => t.enabled = false ∧ t.events = []) ?_ own calls hstart x hx
      rintro t what parent ⟨henabled, hevents⟩
      exact ⟨henabled, by simp [Trace.record, henabled, hevents]⟩
    exact hsilent.2

/-- A script is skipped, a visit is cut short at its second report, the host adds a directive, and the
policy is asked for.  Five events are recorded, or none. -/
theorem course_of_traced_refused :
    ∃ (h : Host Collector) (calls : List (Call Full Collector)),
      h.sink.capacity = some 1 ∧
      calls = [.visit ⟨"Script1", [0]⟩ none, .visit ⟨"Unit", [0]⟩ none, .annotate 0 .compileDynamic,
        .ensure none] ∧
      (h.call Collector.outlet (.visit ⟨"Unit", [0]⟩ none)).sink.reports.length = 1 ∧
      (h.visit Collector.outlet ⟨"Unit", [0]⟩).1 = .error .full ∧
      (h.traced (some {})).outward Collector.outlet calls
        = (h.traced (some { enabled := false })).outward Collector.outlet calls ∧
      (h.traced (some {})).outward Collector.outlet calls
        = (h.traced none).outward Collector.outlet calls ∧
      ((h.traced (some {})).course Collector.outlet calls).map (fun x => x.2.trace.events.length)
        = [1, 5, 5, 5] ∧
      ∀ x ∈ (h.traced (some { enabled := false })).course Collector.outlet calls,
        x.2.trace.events = [] := by
  let h : Host Collector :=
    { engine := { source := .fixed (.table [("defAllowed", .bool false)]) }
      pool := [{ name := "Pair", fields := [{ name := "left", untyped := true },
        { name := "right", untyped := true }] }]
      sink := { capacity := some 1 } }
  let calls : List (Call Full Collector) :=
    [.visit ⟨"Script1", [0]⟩ none, .visit ⟨"Unit", [0]⟩ none, .annotate 0 .compileDynamic,
      .ensure none]
  obtain ⟨hsame, hsilent⟩ := course_of_traced Collector.outlet h calls
  have hoff : ∀ t ∈ some ({ enabled := false } : Trace), t.enabled = false ∧ t.events = [] := by
    rintro t ht
    obtain rfl := Option.some.inj ht
    exact ⟨rfl, rfl⟩
  exact ⟨h, calls, rfl, rfl, rfl, rfl, hsame _ _, hsame _ _, by decide +kernel, hsilent _ hoff⟩

end Host

end TypingPolicy
