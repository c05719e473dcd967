import TypingPolicy.Proofs.Displacement
import TypingPolicy.Proofs.Reporting

/-!
# Where records are shown

Every change of backend takes handlers from the console and gives it another one.  A handler left
behind would show records twice, or on a backend that is no longer in use.  None is left behind:

* `linesOn_handleAll`: a backend gets the lines of a record once for each handler that shows records
  there, so all depends on which handlers there are;
* `wired_use`: whatever was there before, the use of a backend leaves one such handler, its own, and
  cuts the host's own handlers off;
* `wired_perform`, `linesOn_perform`: every step keeps it so, and a step that logs a record shows it
  where it belongs;
* `run_routes_records`: hence a whole run shows each record once, on the backend then in use, or not
  at all.

Where a record belongs is said without handlers: a `Dial` has the backend and the level that are set,
and `Dial.deliveries` reads off the steps which records are let through, and where to.
-/

namespace TypingPolicy

/-! ## 1. The lines of a record -/

theorem Text.splitLines_ne_nil (cs : List Char) : Text.splitLines cs ≠ [] := by
  cases cs with
  | nil => simp [Text.splitLines]
  | cons c rest =>
    rw [Text.splitLines]
    split
    · split
      · simp
      · simp
    · simp

theorem layOut_ne_nil (first message : List Char) : layOut first message ≠ [] := by
  unfold layOut
  split
  · simp
  · rename_i h
    exact absurd h (Text.splitLines_ne_nil message)

namespace Record

/-- The lines that show a record, of which there are none if its markup cannot be read. -/
def shown (r : Record) : List String :=
  match r.lines with
  | .ok lines => lines
  | .error _ => []

theorem shown_of_lines {r : Record} {lines : List String} (h : r.lines = .ok lines) :
    r.shown = lines := by
  rw [shown, h]

theorem shown_of_fault {r : Record} {e : Markup.Fault} (h : r.lines = .error e) : r.shown = [] := by
  rw [shown, h]

/-- A record that is not markup, or well-formed markup, takes a line at least. -/
theorem lines_eq_shown {r : Record} (h : r.markup = true → Markup.WellFormed r.message) :
    r.lines = .ok r.shown ∧ r.shown ≠ [] := by
  obtain ⟨sheet, hsheet, hpaint⟩ : ∃ sheet, r.sheet = .ok sheet ∧ sheet.isPaintable = true := by
    unfold Record.sheet
    split
    · rename_i hmarkup
      exact h hmarkup
    · exact ⟨_, rfl, rfl⟩
  have hlines := lines_of_sheet hsheet hpaint
  rw [shown_of_lines hlines]
  exact ⟨hlines, fun hnil => layOut_ne_nil _ _ (List.map_eq_nil_iff.mp hnil)⟩

end Record

namespace Console

/-! ## 2. What handlers write -/

def linesOn (c : Console) : Backend → List String
  | .standard => c.standard
  | .buffer name => (c.buffers.lookup name).getD []

/-- There is a place for the lines of the backend. -/
def Holds (c : Console) : Backend → Prop
  | .standard => True
  | .buffer name => (c.buffers.lookup name).isSome = true

theorem lookup_written (name key : String) (lines : List String)
    (buffers : List (String × List String)) :
    (buffers.map fun (n, old) => if n = name then (n, old ++ lines) else (n, old)).lookup key
      = (buffers.lookup key).map fun old => if key = name then old ++ lines else old := by
  induction buffers with
  | nil => rfl
  | cons entry rest ih =>
    obtain ⟨n, old⟩ := entry
    rw [List.map_cons, List.lookup_cons]
    by_cases hkey : key = n
    · subst hkey
      by_cases hname : key = name
      · simp [hname]
      · simp [hname]
    · have hother : (key == n) = false := by simpa using hkey
      have hsame : (if n = name then (n, old ++ lines) else (n, old)).1 = n := by split <;> rfl
      rw [List.lookup_cons]
      simp only [hsame, hother, ih]

theorem linesOn_write_self {b : Backend} {c : Console} (h : c.Holds b) (lines : List String) :
    (c.write b lines).linesOn b = c.linesOn b ++ lines := by
  cases b with
  | standard => rfl
  | buffer name =>
    obtain ⟨old, hold⟩ := Option.isSome_iff_exists.mp h
    simp only [linesOn, write, lookup_written, hold]
    simp

theorem linesOn_write_of_ne {b other : Backend} (h : other ≠ b) (lines : List String) (c : Console) :
    (c.write other lines).linesOn b = c.linesOn b := by
  cases other with
  | standard =>
    cases b with
    | standard => exact absurd rfl h
    | buffer name => rfl
  | buffer name =>
    cases b with
    | standard => rfl
    | buffer key =>
      have hkey : key ≠ name := fun heq => h (by rw [heq])
      simp only [linesOn, write, lookup_written, if_neg hkey, Option.map_id']

theorem holds_write {b : Backend} {c : Console} (h : c.Holds b) (other : Backend)
    (lines : List String) : (c.write other lines).Holds b := by
  cases b with
  | standard => trivial
  | buffer key =>
    cases other with
    | standard => exact h
    | buffer name =>
      simp only [Holds, write, lookup_written, Option.isSome_map]
      exact h

theorem exists_handleAll (r : Record) (handlers : List Handler) (c : Console) :
    ∃ standard buffers seen,
      (c.handleAll r handlers).2 = { c with standard, buffers, seen } := by
  refine handleAll_keeps (P := fun after =>
    ∃ standard buffers seen, after = { c with standard, buffers, seen }) ?_ ?_ r handlers
    ⟨c.standard, c.buffers, c.seen, rfl⟩
  · rintro backend lines _ ⟨standard, buffers, seen, rfl⟩
    cases backend with
    | standard => exact ⟨standard ++ lines, buffers, seen, rfl⟩
    | buffer name => exact ⟨standard, _, seen, rfl⟩
  · rintro records _ ⟨standard, buffers, seen, rfl⟩
    exact ⟨standard, buffers, records, rfl⟩

theorem holds_handleAll {b : Backend} (r : Record) (handlers : List Handler) {c : Console}
    (h : c.Holds b) : (c.handleAll r handlers).2.Holds b := by
  refine handleAll_keeps (P := (Holds · b)) ?_ ?_ r handlers h
  · intro backend lines c h
    exact holds_write h backend lines
  · intro records c h
    exact h

/-- **A record is shown once for each handler of a backend.**  If its markup cannot be read, the first
of them fails, and none shows anything. -/
theorem linesOn_handleAll (r : Record) {b : Backend} {handlers : List Handler} {c : Console}
    (h : .screen b ∈ handlers → c.Holds b) :
    (c.handleAll r handlers).2.linesOn b
      = c.linesOn b ++ (List.replicate (handlers.count (.screen b)) r.shown).flatten := by
  induction handlers generalizing c with
  | nil => exact (List.append_nil _).symm
  | cons handler rest ih =>
    rw [handleAll]
    cases handler with
    | recorder =>
      rw [List.count_cons_of_ne (by simp)]
      exact ih (c := { c with seen := c.seen ++ [r] }) fun hrest => h (List.mem_cons_of_mem _ hrest)
    | screen backend =>
      cases hlines : r.lines with
      | error e =>
        simp only [handle, hlines, Except.map, Record.shown_of_fault hlines,
          List.flatten_replicate_nil, List.append_nil]
      | ok lines =>
        simp only [handle, hlines, Except.map]
        rw [ih fun hrest => holds_write (h (List.mem_cons_of_mem _ hrest)) backend lines]
        by_cases hb : backend = b
        · subst hb
          rw [linesOn_write_self (h List.mem_cons_self), List.count_cons_self, List.replicate_succ,
            List.flatten_cons, Record.shown_of_lines hlines, List.append_assoc]
        · rw [linesOn_write_of_ne hb, List.count_cons_of_ne (by simpa using hb)]

/-! ## 3. What is set -/

/-- What a host sets: the backend to show records on, and the level from which on. -/
structure Dial where
  backend : Backend
  threshold : Level
  deriving DecidableEq, Repr

/-- The console does what the dial says: records go to one screen handler, that of the backend, and
not to the host. -/
structure Wired (c : Console) (d : Dial) : Prop where
  backend : c.backend = d.backend
  threshold : c.threshold = d.threshold
  screen : c.handlers.filter Handler.isScreen = [.screen d.backend]
  kept : c.propagates = false
  holds : c.Holds d.backend

/-- **The use of a backend wires the console**, whichever handlers it has. -/
theorem wired_use {b : Backend} {c : Console} (h : c.Holds b) :
    (c.use b).Wired ⟨b, c.threshold⟩ where
  backend := rfl
  threshold := rfl
  screen := by
    have hold : (c.handlers.filter (!·.isScreen)).filter Handler.isScreen = [] := by simp
    simp only [use, List.filter_append, hold]
    rfl
  kept := rfl
  holds := h

theorem Wired.count_screen {c : Console} {d : Dial} (h : c.Wired d) (b : Backend) :
    c.handlers.count (.screen b) = if d.backend = b then 1 else 0 := by
  rw [← List.count_filter (p := Handler.isScreen) (l := c.handlers) rfl, h.screen,
    List.count_singleton]
  simp

theorem Wired.log_eq {c : Console} {d : Dial} (h : c.Wired d) (r : Record) :
    (c.log r).2
      = if d.threshold.rank ≤ r.level.rank then (c.handleAll r c.handlers).2 else c := by
  obtain ⟨standard, buffers, seen, hafter⟩ := exists_handleAll r c.handlers c
  have hkept : (c.handleAll r c.handlers).2.passOn r = (c.handleAll r c.handlers).2 := by
    rw [hafter, passOn, h.kept]
    rfl
  unfold log
  rw [h.threshold]
  split
  · dsimp only
    split
    · exact hkept
    · rfl
  · rfl

theorem Wired.log {c : Console} {d : Dial} (h : c.Wired d) (r : Record) : (c.log r).2.Wired d := by
  rw [h.log_eq]
  split
  · have hholds := holds_handleAll r c.handlers h.holds
    obtain ⟨standard, buffers, seen, hafter⟩ := exists_handleAll r c.handlers c
    rw [hafter] at hholds ⊢
    exact ⟨h.backend, h.threshold, h.screen, h.kept, hholds⟩
  · exact h

theorem Wired.passedOn_log {c : Console} {d : Dial} (h : c.Wired d) (r : Record) :
    (c.log r).2.passedOn = c.passedOn := by
  rw [h.log_eq]
  split
  · obtain ⟨standard, buffers, seen, hafter⟩ := exists_handleAll r c.handlers c
    rw [hafter]
  · rfl

/-- The handler of the backend shows a record, once, and no other does. -/
theorem Wired.linesOn_log {c : Console} {d : Dial} (h : c.Wired d) (r : Record) (b : Backend) :
    (c.log r).2.linesOn b
      = c.linesOn b ++ if d.threshold.rank ≤ r.level.rank ∧ d.backend = b then r.shown else [] := by
  have hholds : .screen b ∈ c.handlers → c.Holds b := by
    intro hmem
    have hscreen : Handler.screen b ∈ c.handlers.filter Handler.isScreen :=
      List.mem_filter.mpr ⟨hmem, rfl⟩
    rw [h.screen, List.mem_singleton, Handler.screen.injEq] at hscreen
    exact hscreen ▸ h.holds
  rw [h.log_eq]
  by_cases hlevel : d.threshold.rank ≤ r.level.rank
  · rw [if_pos hlevel, linesOn_handleAll r hholds, h.count_screen]
    by_cases hb : d.backend = b
    · rw [if_pos hb, if_pos ⟨hlevel, hb⟩, List.replicate_one, List.flatten_singleton]
    · rw [if_neg hb, if_neg (fun hboth => hb hboth.2), List.replicate_zero, List.flatten_nil]
  · rw [if_neg hlevel, if_neg (fun hboth => hlevel hboth.1), List.append_nil]

/-! ## 4. Steps -/

/-- What is done with a console, by the host or by the program. -/
inductive Step where
  | switch (name : String)
  | reset
  | error (message : String)
  | debug (message : String)
  | level (threshold : Level)
  /-- The host adds its recorder. -/
  | watch
  deriving DecidableEq, Repr

namespace Step

def perform : Step → Console → Option Markup.Fault × Console
  | .switch name, c => (none, c.useBuffer name)
  | .reset, c => (none, c.reset)
  | .error message, c => c.error message
  | .debug message, c => (none, c.debug message)
  | .level threshold, c => (none, { c with threshold })
  | .watch, c => (none, c.addRecorder)

/-- What the step sets. -/
def turn : Step → Dial → Dial
  | .switch name, d => { d with backend := .buffer name }
  | .reset, d => { d with backend := .standard }
  | .level threshold, d => { d with threshold }
  | _, d => d

/-- What the step logs. -/
def record? : Step → Option Record
  | .error message => some ⟨.error, "❌ " ++ message, true⟩
  | .debug message => some ⟨.debug, message, false⟩
  | _ => none

end Step

/-- The console after the steps, also if some of them failed. -/
def run (steps : List Step) (c : Console) : Console :=
  steps.foldl (fun c step => (step.perform c).2) c

/-- A record that is let through, and the backend it belongs on. -/
structure Delivery where
  backend : Backend
  record : Record
  deriving DecidableEq, Repr

namespace Dial

def after (d : Dial) (steps : List Step) : Dial := steps.foldl (fun d step => step.turn d) d

/-- What a step delivers: the record it logs, if the level that is set lets it through, on the backend
that is set. -/
def delivery? (d : Dial) (step : Step) : Option Delivery :=
  (step.record?.filter fun r => d.threshold.rank ≤ r.level.rank).map (⟨d.backend, ·⟩)

/-- What steps deliver, each with the dial as the steps before it left it. -/
def deliveries (d : Dial) : List Step → List Delivery
  | [] => []
  | step :: rest => (d.delivery? step).toList ++ (step.turn d).deliveries rest

end Dial

/-- The lines that deliveries leave on a backend. -/
def shownOn (b : Backend) (ds : List Delivery) : List String :=
  (ds.filter (·.backend = b)).flatMap (·.record.shown)

theorem shownOn_append (b : Backend) (ds es : List Delivery) :
    shownOn b (ds ++ es) = shownOn b ds ++ shownOn b es := by
  simp [shownOn]

theorem shownOn_delivery? {step : Step} {r : Record} (h : step.record? = some r) (d : Dial)
    (b : Backend) :
    shownOn b (d.delivery? step).toList
      = if d.threshold.rank ≤ r.level.rank ∧ d.backend = b then r.shown else [] := by
  rw [Dial.delivery?, h]
  by_cases hlevel : d.threshold.rank ≤ r.level.rank
  · by_cases hb : d.backend = b
    · simp [shownOn, Option.filter_some, hlevel, hb]
    · simp [shownOn, Option.filter_some, hlevel, hb]
  · simp [shownOn, Option.filter_some, hlevel]

/-! ## 5. What one step does -/

theorem linesOn_useBuffer (name : String) (c : Console) (b : Backend) :
    (c.useBuffer name).linesOn b = c.linesOn b := by
  unfold useBuffer
  dsimp only
  split
  · rfl
  · cases b with
    | standard => rfl
    | buffer key =>
      -- A buffer that is made now has no lines, as if it had always been there.
      have hnew : (List.lookup key [(name, ([] : List String))]).getD [] = [] := by
        rw [List.lookup_cons]
        split <;> rfl
      simp only [linesOn, use, List.lookup_append]
      cases c.buffers.lookup key with
      | some old => rfl
      | none => exact hnew

theorem wired_useBuffer (name : String) (c : Console) :
    (c.useBuffer name).Wired ⟨.buffer name, c.threshold⟩ := by
  unfold useBuffer
  dsimp only
  split
  · rename_i hold
    exact wired_use hold
  · have hholds : Holds { c with buffers := c.buffers ++ [(name, [])] } (.buffer name) := by
      simp [Holds, List.lookup_append]
    exact wired_use hholds

/-- **Every step leaves the console wired**, and hands nothing on to the host. -/
theorem wired_perform {c : Console} {d : Dial} (h : c.Wired d) (step : Step) :
    (step.perform c).2.Wired (step.turn d) ∧ (step.perform c).2.passedOn = c.passedOn := by
  cases step with
  | switch name =>
    refine ⟨?_, ?_⟩
    · have hwired := wired_useBuffer name c
      rw [h.threshold] at hwired
      exact hwired
    · simp only [Step.perform, useBuffer, use]
      split <;> rfl
  | reset =>
    have hwired : (c.use .standard).Wired ⟨.standard, c.threshold⟩ := wired_use trivial
    rw [h.threshold] at hwired
    exact ⟨hwired, rfl⟩
  | error message => exact ⟨h.log _, h.passedOn_log _⟩
  | debug message => exact ⟨h.log _, h.passedOn_log _⟩
  | level threshold => exact ⟨⟨h.backend, rfl, h.screen, h.kept, h.holds⟩, rfl⟩
  | watch =>
    simp only [Step.perform, addRecorder]
    split
    · exact ⟨h, rfl⟩
    · refine ⟨⟨h.backend, h.threshold, ?_, h.kept, h.holds⟩, rfl⟩
      rw [List.filter_append, h.screen]
      rfl

/-- **A step shows what it delivers**, where it belongs. -/
theorem linesOn_perform {c : Console} {d : Dial} (h : c.Wired d) (step : Step) (b : Backend) :
    (step.perform c).2.linesOn b = c.linesOn b ++ shownOn b (d.delivery? step).toList := by
  cases step with
  | switch name =>
    refine (linesOn_useBuffer name c b).trans ?_
    exact (List.append_nil _).symm
  | error message =>
    rw [shownOn_delivery? rfl]
    exact h.linesOn_log _ b
  | debug message =>
    rw [shownOn_delivery? rfl]
    exact h.linesOn_log _ b
  | reset | level => exact (List.append_nil _).symm
  | watch =>
    simp only [Step.perform, addRecorder]
    split
    · exact (List.append_nil _).symm
    · exact (List.append_nil _).symm

/-- The mark in front of an error takes nothing from its markup. -/
theorem lines_of_record? {step : Step} {r : Record} (hr : step.record? = some r)
    (h : ∀ message, step = .error message → Markup.WellFormed message) :
    r.lines = .ok r.shown ∧ r.shown ≠ [] := by
  apply Record.lines_eq_shown
  intro hmarkup
  cases step with
  | error message =>
    obtain rfl := Option.some.inj hr
    exact (h message rfl).append (by decide) (by decide) (by decide)
  | debug message =>
    obtain rfl := Option.some.inj hr
    exact absurd hmarkup (by simp)
  | switch | reset | level | watch => exact absurd hr (by simp [Step.record?])

theorem fault_perform {step : Step}
    (h : ∀ message, step = .error message → Markup.WellFormed message) (c : Console) :
    (step.perform c).1 = none := by
  cases step with
  | error message => exact log_of_lines (lines_of_record? rfl h).1 c
  | switch | reset | debug | level | watch => rfl

/-! ## 6. Whole runs -/

theorem wired_run (steps : List Step) {c : Console} {d : Dial} (h : c.Wired d) :
    (c.run steps).Wired (d.after steps) ∧ (c.run steps).passedOn = c.passedOn := by
  induction steps generalizing c d with
  | nil => exact ⟨h, rfl⟩
  | cons step rest ih =>
    obtain ⟨hwired, hpassed⟩ := wired_perform h step
    obtain ⟨hwired', hpassed'⟩ := ih hwired
    exact ⟨hwired', hpassed'.trans hpassed⟩

theorem linesOn_run (steps : List Step) {c : Console} {d : Dial} (h : c.Wired d) (b : Backend) :
    (c.run steps).linesOn b = c.linesOn b ++ shownOn b (d.deliveries steps) := by
  induction steps generalizing c d with
  | nil => exact (List.append_nil _).symm
  | cons step rest ih =>
    calc (c.run (step :: rest)).linesOn b
        = (step.perform c).2.linesOn b ++ shownOn b ((step.turn d).deliveries rest) :=
          ih (wired_perform h step).1
      _ = c.linesOn b ++ shownOn b (d.deliveries (step :: rest)) := by
          rw [linesOn_perform h, Dial.deliveries, shownOn_append, List.append_assoc]

theorem lines_of_mem_deliveries {steps : List Step}
    (h : ∀ message, .error message ∈ steps → Markup.WellFormed message) {d : Dial}
    {delivery : Delivery} (hmem : delivery ∈ d.deliveries steps) :
    delivery.record.lines = .ok delivery.record.shown ∧ delivery.record.shown ≠ [] := by
  induction steps generalizing d with
  | nil => exact absurd hmem List.not_mem_nil
  | cons step rest ih =>
    rw [Dial.deliveries, List.mem_append, Option.mem_toList] at hmem
    rcases hmem with hfirst | hrest
    · obtain ⟨r, hr, rfl⟩ := Option.map_eq_some_iff.mp hfirst
      have hstep : step.record? = some r := (Option.filter_eq_some_iff.mp hr).1
      exact lines_of_record? hstep fun message heq => h message (heq ▸ List.mem_cons_self)
    · exact ih (fun message hin => h message (List.mem_cons_of_mem _ hin)) hrest

/-- **Each record goes to one place.**  Take any console, whichever handlers it has by now, and let the
standard output be its backend.  After any steps from then on:

* one handler shows records, that of the backend in use, which is the one chosen last, and the level is
  the one set last;
* no record has gone on to the host's own handlers;
* each backend shows what it showed at first and then, in order, the records logged while it was in use
  at a level that let them through, each of them once, and no others.

If the markup of all errors is well-formed, none of the steps fails, on whatever console, and each of
these records shows at least one line. -/
theorem run_routes_records (c : Console) (steps : List Step) :
    let start : Dial := ⟨.standard, c.threshold⟩
    let now := c.reset.run steps
    (now.handlers.filter Handler.isScreen = [.screen now.backend] ∧
      now.backend = (start.after steps).backend ∧ now.threshold = (start.after steps).threshold) ∧
    (now.propagates = false ∧ now.passedOn = c.passedOn) ∧
    (∀ b, now.linesOn b = c.linesOn b ++ shownOn b (start.deliveries steps)) ∧
    ((∀ message, .error message ∈ steps → Markup.WellFormed message) →
      (∀ step ∈ steps, ∀ other : Console, (step.perform other).1 = none) ∧
      ∀ delivery ∈ start.deliveries steps,
        delivery.record.lines = .ok delivery.record.shown ∧ delivery.record.shown ≠ []) := by
  intro start now
  have hstart : c.reset.Wired start := wired_use trivial
  obtain ⟨hwired, hpassed⟩ := wired_run steps hstart
  refine ⟨⟨?_, hwired.backend, hwired.threshold⟩, ⟨hwired.kept, hpassed⟩, fun b => ?_, ?_⟩
  · rw [hwired.backend]
    exact hwired.screen
  · exact linesOn_run steps hstart b
  · intro hmarkup
    refine ⟨?_, fun delivery => lines_of_mem_deliveries hmarkup⟩
    intro step hstep other
    exact fault_perform (fun message heq => hmarkup message (heq ▸ hstep)) other

/-- A console is new with its backend in use. -/
example : ({} : Console).reset = {} := rfl

/-- Two handlers show records, one of them on a buffer of the past, and records go on to the host. -/
def untidyConsole : Console where
  backend := .buffer "old"
  handlers := [.screen (.buffer "old"), .recorder, .screen .standard]
  propagates := true
  buffers := [("old", ["before"])]

def switchingSteps : List Step := [
  .error "[b]one[/b]", .switch "new", .error "two", .debug "hidden", .level .debug, .switch "old",
  .switch "new", .debug "[/three]", .reset, .level .critical, .error "four"]

/-- The old buffer is used again for a moment in which nothing is logged, the new one is chosen twice,
and two records are below the level. -/
theorem run_routes_records_switching :
    (∀ message, .error message ∈ switchingSteps → Markup.WellFormed message) ∧
    (∀ step ∈ switchingSteps, ∀ c : Console, (step.perform c).1 = none) ∧
    (untidyConsole.reset.run switchingSteps).handlers.count (.screen .standard) = 1 ∧
    (untidyConsole.reset.run switchingSteps).linesOn .standard = ["ERROR    ❌ one"] ∧
    (untidyConsole.reset.run switchingSteps).linesOn (.buffer "new")
      = ["ERROR    ❌ two", "DEBUG    [/three]"] ∧
    (untidyConsole.reset.run switchingSteps).linesOn (.buffer "old") = ["before"] ∧
    (untidyConsole.reset.run switchingSteps).passedOn = [] := by
  have hmarkup : ∀ message, .error message ∈ switchingSteps → Markup.WellFormed message := by
    intro message hmem
    simp only [switchingSteps, List.mem_cons, Step.error.injEq, reduceCtorEq, false_or,
      List.not_mem_nil, or_false] at hmem
    rcases hmem with rfl | rfl | rfl <;> decide +kernel
  obtain ⟨⟨hscreen, hbackend, -⟩, ⟨-, hpassed⟩, hlines, hfaults⟩ :=
    run_routes_records untidyConsole switchingSteps
  refine ⟨hmarkup, (hfaults hmarkup).1, ?_, ?_, ?_, ?_, hpassed⟩
  · rw [← List.count_filter (p := Handler.isScreen) rfl, hscreen, hbackend]
    decide
  · rw [hlines]
    decide +kernel
  · rw [hlines]
    decide +kernel
  · rw [hlines]
    decide +kernel

end Console

end TypingPolicy
