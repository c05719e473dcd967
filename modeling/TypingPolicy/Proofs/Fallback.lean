import TypingPolicy.Desk
import TypingPolicy.Proofs.Lockstep
import TypingPolicy.Proofs.VisitOrder

/-!
# Broken configuration is no configuration

On the way from a source to a policy there are four places where the matter may end: the source
fails, it finds nothing, what it finds cannot be read as a table, or the table has problems.
`Source.settings` goes this way without any precaution, and says where it ended.  An engine takes
every such end for "no configuration":

* `policy_eq_settings`: the policy is that of the settings, or else the defaults throughout;
* `Alike.visits`: two hosts on which the same policy is to rule cannot be told apart by visits,
  whatever their sources are.

The second rests on the walks going in step.  The two hosts do write different debug lines, so it
holds for outlets whose reports do not depend on debug lines (`Outlet.Discreet`), as those of the
desk do not (`Desk.discreet`).  The main statement is `visits_of_broken_source`.
-/

namespace TypingPolicy

variable {ε σ : Type}

/-! ## 1. From a source to settings -/

/-- Why no settings come of a source. -/
inductive Mishap where
  /-- The source failed. -/
  | raised (fault : LookupFault)
  /-- The source found nothing. -/
  | absent
  /-- What was found cannot be read as a table. -/
  | noTable (found : Value)
  /-- The table has problems. -/
  | rejected (problems : List Problem)

namespace Source

/-- The settings that a value holds. -/
def settingsIn (v : Value) : Except Mishap Settings :=
  match v.toTable? with
  | none => .error (.noTable v)
  | some t => match Settings.ofTable t with
    | .ok settings => .ok settings
    | .error problems => .error (.rejected problems)

/-- The settings that a source leads to, or the place where the way to them ends. -/
def settings (files : FileTree) (source : Source) : Except Mishap Settings :=
  match (source.lookup files).outcome with
  | .error fault => .error (.raised fault)
  | .ok none => .error .absent
  | .ok (some v) => settingsIn v

/-- The policy of the settings; wherever the way to them ended, the defaults in every field. -/
def policyOf : Except Mishap Settings → Policy
  | .ok settings => .ofSettings settings
  | .error _ => {}

theorem ofRaw_eq_settingsIn (v : Value) : Policy.ofRaw (some v) = policyOf (settingsIn v) := by
  rw [Policy.ofRaw, Policy.ofValue?, settingsIn]
  cases v.toTable? with
  | none => rfl
  | some t =>
    rw [Option.bind_some]
    cases hs : Settings.ofTable t with
    | ok settings =>
      simp only [hs]
      rfl
    | error problems =>
      simp only [hs]
      rfl

/-- **All or nothing.**  What a source decides is what its settings say, or nothing at all. -/
theorem policy_eq_settings (files : FileTree) (source : Source) :
    source.policy files = policyOf (source.settings files) := by
  rw [Source.policy, settings]
  cases (source.lookup files).outcome with
  | error fault => rfl
  | ok found =>
    cases found with
    | none => rfl
    | some v => exact ofRaw_eq_settingsIn v

end Source

/-! ## 2. Outlets that do not mind debug lines -/

namespace Outlet

/-- Debug lines make no difference that reports could show. -/
structure Discreet (outlet : Outlet ε σ) (R : σ → σ → Prop) : Prop where
  blind : outlet.Blind R
  left : ∀ (line : String) (s t : σ), R s t → R (outlet.debug line s) t
  right : ∀ (line : String) (s t : σ), R s t → R s (outlet.debug line t)

variable {outlet : Outlet ε σ} {R : σ → σ → Prop}

/-- Any debug lines on one side, and any others on the other. -/
theorem Discreet.debugAll (h : outlet.Discreet R) {s t : σ} (hst : R s t) (ls ls' : List String) :
    R (outlet.debugAll ls s) (outlet.debugAll ls' t) := by
  have hleft : ∀ (ls : List String) (s : σ), R s t → R (outlet.debugAll ls s) t := by
    intro ls
    induction ls with
    | nil => exact fun _ hs => hs
    | cons line ls ih => exact fun s hs => ih _ (h.left line s t hs)
  have hright : ∀ (ls : List String) (s t : σ), R s t → R s (outlet.debugAll ls t) := by
    intro ls
    induction ls with
    | nil => exact fun _ _ hs => hs
    | cons line ls ih => exact fun s t hs => ih s _ (h.right line s t hs)
  exact hright ls' _ t (hleft ls s hst)

theorem Discreet.logged (h : outlet.Discreet R) :
    outlet.logged.Discreet fun s t => R s.1 t.1 ∧ s.2 = t.2 where
  blind := h.blind.logged
  left line s t hst := ⟨h.left line s.1 t.1 hst.1, hst.2⟩
  right line s t hst := ⟨h.right line s.1 t.1 hst.1, hst.2⟩

end Outlet

namespace Console

/-- Consoles that let the same records through to the same handlers. -/
def Tuned (c d : Console) : Prop := c.threshold = d.threshold ∧ c.handlers = d.handlers

theorem tuned_write (backend : Backend) (lines : List String) (c : Console) :
    Tuned (c.write backend lines) c := by
  cases backend with
  | standard => exact ⟨rfl, rfl⟩
  | buffer name => exact ⟨rfl, rfl⟩

/-- Handlers leave the console tuned as it was, whether they fail or not. -/
theorem tuned_handleAll (r : Record) (handlers : List Handler) (c : Console) :
    Tuned (c.handleAll r handlers).2 c := by
  refine handleAll_keeps (P := (Tuned · c)) ?_ ?_ r handlers ⟨rfl, rfl⟩
  · intro backend lines c' h
    have hwritten := tuned_write backend lines c'
    exact ⟨hwritten.1.trans h.1, hwritten.2.trans h.2⟩
  · intro records c' h
    exact h

theorem tuned_passOn (r : Record) (c : Console) : Tuned (c.passOn r) c := by
  unfold passOn
  split
  · exact ⟨rfl, rfl⟩
  · exact ⟨rfl, rfl⟩

theorem tuned_log (r : Record) (c : Console) : Tuned (c.log r).2 c := by
  unfold log
  split
  · have hhandled := tuned_handleAll r c.handlers c
    have hpassed := tuned_passOn r (c.handleAll r c.handlers).2
    dsimp only
    split
    · exact ⟨hpassed.1.trans hhandled.1, hpassed.2.trans hhandled.2⟩
    · exact hhandled
  · exact ⟨rfl, rfl⟩

/-- Whether a record can be shown is a matter of the record and the handlers alone. -/
theorem fault_handleAll (r : Record) :
    ∀ (handlers : List Handler) (c d : Console),
      (c.handleAll r handlers).1 = (d.handleAll r handlers).1
  | [], _, _ => rfl
  | .screen backend :: rest, c, d => by
    rw [handleAll, handleAll, handle, handle]
    cases r.lines with
    | ok lines => exact fault_handleAll r rest _ _
    | error e => rfl
  | .recorder :: rest, c, d => by
    rw [handleAll, handleAll, handle, handle]
    exact fault_handleAll r rest _ _

theorem fault_log (r : Record) {c d : Console} (h : Tuned c d) : (c.log r).1 = (d.log r).1 := by
  unfold log
  rw [h.1, h.2]
  split
  · exact fault_handleAll r d.handlers c d
  · rfl

/-- A report is refused by both consoles or by none, and leaves them tuned as they were. -/
theorem report_of_tuned (r : Report) {c d : Console} (h : Tuned c d) :
    Outlet.Agree Tuned (c.report r) (d.report r) := by
  have hc := tuned_log ⟨.error, "❌ " ++ reportLine r, true⟩ c
  have hd := tuned_log ⟨.error, "❌ " ++ reportLine r, true⟩ d
  have hfault := fault_log ⟨.error, "❌ " ++ reportLine r, true⟩ h
  unfold report error
  revert hc hd hfault
  generalize c.log ⟨.error, "❌ " ++ reportLine r, true⟩ = x
  generalize d.log ⟨.error, "❌ " ++ reportLine r, true⟩ = y
  obtain ⟨fault, c'⟩ := x
  obtain ⟨fault', d'⟩ := y
  rintro hc hd rfl
  cases fault with
  | none => exact ⟨hc.1.trans (h.1.trans hd.1.symm), hc.2.trans (h.2.trans hd.2.symm)⟩
  | some e => exact rfl

end Console

namespace Desk

/-- Desks with the same collectors, and with consoles that are tuned in the same way. -/
structure Tuned (d e : Desk) : Prop where
  main : d.main = e.main
  other : d.other = e.other
  console : d.console.Tuned e.console

theorem Tuned.rfl {d : Desk} : d.Tuned d := ⟨Eq.refl _, Eq.refl _, Eq.refl _, Eq.refl _⟩

theorem tuned_debug_left (line : String) (d e : Desk) (h : d.Tuned e) : (d.debug line).Tuned e := by
  have hc := Console.tuned_log ⟨.debug, line, false⟩ d.console
  exact ⟨h.main, h.other, hc.1.trans h.console.1, hc.2.trans h.console.2⟩

theorem tuned_debug_right (line : String) (d e : Desk) (h : d.Tuned e) :
    d.Tuned (e.debug line) := by
  have hc := Console.tuned_log ⟨.debug, line, false⟩ e.console
  exact ⟨h.main, h.other, h.console.1.trans hc.1.symm, h.console.2.trans hc.2.symm⟩

/-- **No outlet of a desk minds debug lines.** -/
theorem discreet :
    toMain.Discreet Tuned ∧ toOther.Discreet Tuned ∧ toConsole.Discreet Tuned := by
  refine ⟨⟨?_, tuned_debug_left, tuned_debug_right⟩, ⟨?_, tuned_debug_left, tuned_debug_right⟩,
    ⟨?_, tuned_debug_left, tuned_debug_right⟩⟩
  · intro r d e h
    simp only [toMain, h.main]
    cases e.main.add r with
    | ok main => exact ⟨Eq.refl _, h.other, h.console⟩
    | error refusal => exact Eq.refl _
  · intro r d e h
    simp only [toOther, h.other]
    cases e.other.add r with
    | ok other => exact ⟨h.main, Eq.refl _, h.console⟩
    | error refusal => exact Eq.refl _
  · intro r d e h
    have hr := Console.report_of_tuned r h.console
    simp only [toConsole]
    revert hr
    cases d.console.report r with
    | ok c =>
      cases e.console.report r with
      | ok c' => exact fun hc => ⟨h.main, h.other, hc⟩
      | error f => exact False.elim
    | error f =>
      cases e.console.report r with
      | ok c' => exact False.elim
      | error f' => exact fun hf => congrArg Refusal.markup hf

end Desk

/-! ## 3. Hosts that visits cannot tell apart -/

namespace Host

/-- The same policy is to rule, over the same classes, and reports cannot tell the sinks apart. -/
structure Alike (R : σ → σ → Prop) (h h' : Host σ) : Prop where
  ruling : h.ruling = h'.ruling
  excludes : h.engine.excludes = h'.engine.excludes
  pool : h.pool = h'.pool
  sink : R h.sink h'.sink

variable {R : σ → σ → Prop} {outlet : Outlet ε σ} {h h' : Host σ}

/-- **One visit.**  It returns the same on both hosts, and leaves them alike. -/
theorem Alike.visit (hout : outlet.Discreet R) (ha : Alike R h h') (u : SourceUnit) :
    (h.visit outlet u).1 = (h'.visit outlet u).1 ∧
      Alike R (h.visit outlet u).2 (h'.visit outlet u).2 := by
  obtain ⟨hruling, hexcludes⟩ := visit_frame outlet u h
  obtain ⟨hruling', hexcludes'⟩ := visit_frame outlet u h'
  have hr := hruling.trans (ha.ruling.trans hruling'.symm)
  have hx := hexcludes.trans (ha.excludes.trans hexcludes'.symm)
  cases hu : h.engine.excludes u.name with
  | true =>
    have hu' : h'.engine.excludes u.name = true := by rw [← ha.excludes, hu]
    refine ⟨?_, hr, hx, ?_, ?_⟩
    · rw [visit_of_excluded hu, visit_of_excluded hu']
    · rw [visit_of_excluded hu, visit_of_excluded hu']
      exact ha.pool
    · rw [visit_of_excluded hu, visit_of_excluded hu']
      exact ha.sink
  | false =>
    have hu' : h'.engine.excludes u.name = false := by rw [← ha.excludes, hu]
    obtain ⟨hp, -, -, hsink⟩ := ensureInitialised_ruling outlet h
    obtain ⟨hp', -, -, hsink'⟩ := ensureInitialised_ruling outlet h'
    have hpool : (h.ensureInitialised outlet none).2.pool
        = (h'.ensureInitialised outlet none).2.pool := by
      rw [pool_ensureInitialised, pool_ensureInitialised, ha.pool]
    have hdebug : R (h.ensureInitialised outlet none).2.sink
        (h'.ensureInitialised outlet none).2.sink := by
      rw [hsink, hsink']
      exact hout.debugAll ha.sink _ _
    obtain ⟨hresult, hwalked, hheard, -⟩ :=
      walkUnder_inStep hout.blind h.ruling u hpool hdebug
    have hv : h.visit outlet u
        = (h.ensureInitialised outlet none).2.walkUnder h.ruling outlet u := by
      rw [visit_of_included hu, hp]
    have hv' : h'.visit outlet u
        = (h'.ensureInitialised outlet none).2.walkUnder h.ruling outlet u := by
      rw [visit_of_included hu', hp', ha.ruling]
    refine ⟨?_, hr, hx, ?_, ?_⟩
    · rw [hv, hv', hresult]
    · rw [hv, hv', hwalked]
    · rw [hv, hv']
      exact hheard

/-- The reports of a visit are the same on both hosts. -/
theorem Alike.heard (hout : outlet.Discreet R) (ha : Alike R h h') (u : SourceUnit) :
    h.heard outlet u = h'.heard outlet u := by
  have hl : Alike (fun s t => R s.1 t.1 ∧ s.2 = t.2) h.listening h'.listening :=
    ⟨ha.ruling, ha.excludes, ha.pool, ha.sink, rfl⟩
  exact (hl.visit hout.logged u).2.sink.2

/-- **A run of visits.**  Results and reports are the same on both hosts, visit by visit. -/
theorem Alike.visits :
    ∀ (vs : List (SourceUnit × Outlet ε σ)) {h h' : Host σ}, (∀ v ∈ vs, v.2.Discreet R) →
      Alike R h h' →
      (h.visits vs).1 = (h'.visits vs).1 ∧ Alike R (h.visits vs).2 (h'.visits vs).2
  | [], _, _, _, ha => ⟨rfl, ha⟩
  | (u, outlet) :: vs, h, h', hout, ha => by
    have hu : outlet.Discreet R := hout _ List.mem_cons_self
    obtain ⟨hresult, hnext⟩ := ha.visit hu u
    have hreports := ha.heard hu u
    obtain ⟨ih, hlast⟩ :=
      Alike.visits vs (fun v hv => hout v (List.mem_cons_of_mem _ hv)) hnext
    refine ⟨?_, hlast⟩
    simp only [Host.visits, hresult, hreports, ih]

/-! ## 4. Broken configuration -/

/-- The same host, had its engine been made without a source. -/
def unsourced (h : Host σ) : Host σ := { h with engine := { h.engine with source := .fixed .null } }

/-- A source that comes to nothing decides what no source at all decides. -/
theorem ruling_unsourced {mishap : Mishap}
    (hbroken : h.engine.source.settings h.files = .error mishap) :
    h.ruling = h.unsourced.ruling := by
  unfold ruling
  cases hp : h.engine.policy with
  | some p =>
    have hp' : h.unsourced.engine.policy = some p := hp
    rw [hp', Option.getD_some, Option.getD_some]
  | none =>
    have hp' : h.unsourced.engine.policy = none := hp
    rw [hp', Option.getD_none, Option.getD_none, Source.policy_eq_settings, hbroken]
    rfl

/-- **Broken configuration never fails a call, and counts as none.**  Whatever the source and
whatever the files hold, an engine that is asked for its policy returns one, and has it from then
on: the policy that it had, or the one that the settings of the source say, or the defaults if the
way to the settings ended somewhere.  If it did end, then visits return the same, report the same
and leave the same classes as those of an engine without a source. -/
theorem visits_of_broken_source (h : Host σ) :
    (∀ (outlet : Outlet ε σ) (given : Option Source), ∃ p after,
      h.ensureInitialised outlet given = (p, after) ∧ after.engine.policy = some p ∧
        p = h.engine.policy.getD (Source.policyOf ((h.asks given).settings h.files))) ∧
      ∀ (mishap : Mishap) (R : σ → σ → Prop) (vs : List (SourceUnit × Outlet ε σ)),
        h.engine.source.settings h.files = .error mishap → (∀ v ∈ vs, v.2.Discreet R) →
        R h.sink h.sink →
        (h.visits vs).1 = (h.unsourced.visits vs).1 ∧
          (h.visits vs).2.pool = (h.unsourced.visits vs).2.pool ∧
          R (h.visits vs).2.sink (h.unsourced.visits vs).2.sink := by
  constructor
  · intro outlet given
    cases hp : h.engine.policy with
    | some p => exact ⟨p, h, ensureInitialised_of_some hp, hp, rfl⟩
    | none =>
      refine ⟨_, _, (ensureInitialised_of_none hp).trans initialise_eq, ?_, ?_⟩
      · exact Engine.policy_configured h.files given h.engine
      · exact Source.policy_eq_settings h.files (h.asks given)
  · intro mishap R vs hbroken hout hsink
    have halike : Alike R h h.unsourced := ⟨ruling_unsourced hbroken, rfl, rfl, hsink⟩
    obtain ⟨houtcomes, hlast⟩ := halike.visits vs hout
    exact ⟨houtcomes, hlast.pool, hlast.sink⟩

/-- One of two settings is unusable, so the other one does not count either: the untyped field is
reported nowhere, neither to a collector nor on the console. -/
theorem visits_of_broken_source_partly :
    ∃ (h : Host Desk) (vs : List (SourceUnit × Outlet Refusal Desk)) (mishap : Mishap),
      h.engine.source = .fixed (.table [("defAllowed", .bool false),
        ("skipDefaultPackage", .text "perhaps")]) ∧
      h.engine.source.settings h.files = .error mishap ∧
      (∀ v ∈ vs, v.2.Discreet Desk.Tuned) ∧ h.sink.Tuned h.sink ∧
      vs.map Prod.fst = [⟨"One", [0]⟩, ⟨"Two", [0]⟩] ∧
      (h.visits vs).1 = (h.unsourced.visits vs).1 ∧
      (h.visits vs).2.pool = (h.unsourced.visits vs).2.pool ∧
      (h.visits vs).1.flatMap (·.reports) = [] := by
  let h : Host Desk :=
    { engine := { source := .fixed (.table [("defAllowed", .bool false),
        ("skipDefaultPackage", .text "perhaps")]) }
      pool := [{ name := "Pair", fields := [{ name := "left", untyped := true }] }]
      sink := {} }
  let vs : List (SourceUnit × Outlet Refusal Desk) :=
    [(⟨"One", [0]⟩, Desk.toMain), (⟨"Two", [0]⟩, Desk.toConsole)]
  have hout : ∀ v ∈ vs, v.2.Discreet Desk.Tuned := by
    intro v hv
    rcases List.mem_cons.mp hv with rfl | hv
    · exact Desk.discreet.1
    · obtain rfl := List.mem_singleton.mp hv
      exact Desk.discreet.2.2
  obtain ⟨houtcomes, hpool, -⟩ :=
    (visits_of_broken_source (ε := Refusal) h).2 _ Desk.Tuned vs rfl hout Desk.Tuned.rfl
  refine ⟨h, vs, _, rfl, rfl, hout, Desk.Tuned.rfl, rfl, houtcomes, hpool, ?_⟩
  rfl

end Host

end TypingPolicy
