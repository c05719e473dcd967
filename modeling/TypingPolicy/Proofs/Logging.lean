import TypingPolicy.Proofs.Fallback
import TypingPolicy.Proofs.Reporting

/-!
# Logging reports, or collecting them

A host that hands over no collector has the reports logged on its console.  It must not make a
difference to anything but the place where reports appear.  A collector cannot fail; a console can,
in principle, since reports are markup there, and a name may be any text.  That no report is refused
(`Console.report_eq`) is all that is needed:

* `Desk.accept_toConsole`, `Desk.accept_toMain`: both outlets take all reports, whatever they are;
* `Console.errors_logAll`: what a console logs for them is one record for each, in order;
* `enforce_toConsole_agrees`: the two ways of treating a unit agree.
-/

namespace TypingPolicy

/-! ## 1. What a console keeps of its records -/

namespace Console

/-- The console when the reports have been logged. -/
def logAll (rs : List Report) (c : Console) : Console :=
  rs.foldl (fun c r => (c.log r.record).2) c

/-- The records of errors that the recorder was given. -/
def errors (c : Console) : List Record := c.seen.filter (·.level = .error)

theorem seen_write (backend : Backend) (lines : List String) (c : Console) :
    (c.write backend lines).seen = c.seen := by
  cases backend <;> rfl

/-- Each recorder among the handlers is given the record once. -/
theorem seen_handleAll {r : Record} {lines : List String} (h : r.lines = .ok lines)
    (handlers : List Handler) (c : Console) :
    (c.handleAll r handlers).2.seen = c.seen ++ List.replicate (handlers.count .recorder) r := by
  induction handlers generalizing c with
  | nil => exact (List.append_nil _).symm
  | cons handler rest ih =>
    cases handler with
    | screen backend =>
      rw [handleAll, handle, h, List.count_cons_of_ne (by simp)]
      exact (ih _).trans (by rw [seen_write])
    | recorder =>
      rw [handleAll, handle, List.count_cons_self, List.replicate_succ]
      exact (ih _).trans (by simp)

theorem seen_passOn (r : Record) (c : Console) : (c.passOn r).seen = c.seen := by
  unfold passOn
  split
  · rfl
  · rfl

theorem seen_log {r : Record} {lines : List String} (h : r.lines = .ok lines) (c : Console) :
    (c.log r).2.seen = c.seen ++
      if c.threshold.rank ≤ r.level.rank then List.replicate (c.handlers.count .recorder) r else [] := by
  unfold log
  split
  · have hhandled := seen_handleAll h c.handlers c
    dsimp only
    split
    · exact (seen_passOn r _).trans hhandled
    · exact hhandled
  · exact (List.append_nil _).symm

/-- Debug lines are no errors. -/
theorem errors_debug (line : String) (c : Console) : (c.debug line).errors = c.errors := by
  have hlines : ∃ lines, (Record.mk .debug line false).lines = .ok lines := ⟨_, rfl⟩
  obtain ⟨lines, hlines⟩ := hlines
  rw [debug, errors, seen_log hlines, List.filter_append]
  split
  · simp [errors]
  · simp [errors]

/-- **One record for each report**, in order, if errors are let through to a recorder. -/
theorem errors_logAll (rs : List Report) {c : Console} (hlevel : c.threshold.rank ≤ Level.error.rank)
    (hrecorder : c.handlers.count .recorder = 1) :
    (c.logAll rs).errors = c.errors ++ rs.map Report.record := by
  induction rs generalizing c with
  | nil => exact (List.append_nil _).symm
  | cons r rs ih =>
    obtain ⟨lines, hlines⟩ := r.exists_lines
    obtain ⟨hthreshold, hhandlers⟩ := tuned_log r.record c
    have hadmitted : c.threshold.rank ≤ r.record.level.rank := hlevel
    have hnext : (c.log r.record).2.errors = c.errors ++ [r.record] := by
      rw [errors, seen_log hlines, if_pos hadmitted, hrecorder, List.filter_append]
      rfl
    have hrest := ih (c := (c.log r.record).2) (by rw [hthreshold]; exact hlevel)
      (by rw [hhandlers]; exact hrecorder)
    rw [hnext, List.append_assoc, List.singleton_append] at hrest
    exact hrest

end Console

/-! ## 2. What a desk takes -/

namespace Desk

theorem accept_toConsole (rs : List Report) (d : Desk) :
    toConsole.accept rs d = .ok { d with console := d.console.logAll rs } := by
  induction rs generalizing d with
  | nil => rfl
  | cons r rs ih =>
    have hreport : toConsole.report r d = .ok { d with console := (d.console.log r.record).2 } := by
      simp only [toConsole, Console.report_eq]
    rw [Outlet.accept, hreport]
    exact ih _

theorem accept_toMain (rs : List Report) {d : Desk} (h : d.main.capacity = none) :
    toMain.accept rs d = .ok { d with main := d.main.gained rs } := by
  induction rs generalizing d with
  | nil => simp [Outlet.accept, Collector.gained]
  | cons r rs ih =>
    have hreport : toMain.report r d = .ok { d with main := d.main.gained [r] } := by
      simp [toMain, Collector.add, Collector.isFull, h, Collector.gained]
    rw [Outlet.accept, hreport]
    exact (ih (d := { d with main := d.main.gained [r] }) h).trans (by simp)

/-- The desk when debug lines have been written, which go to its console whatever the outlet is. -/
def debugged (lines : List String) (d : Desk) : Desk := lines.foldl (fun d line => d.debug line) d

theorem main_debugged (lines : List String) (d : Desk) : (d.debugged lines).main = d.main := by
  induction lines generalizing d with
  | nil => rfl
  | cons line lines ih => exact ih (d.debug line)

/-- Debug lines change neither the errors on a console nor which records it lets through. -/
theorem console_debugged (lines : List String) (d : Desk) :
    (d.debugged lines).console.errors = d.console.errors ∧
      (d.debugged lines).console.Tuned d.console := by
  induction lines generalizing d with
  | nil => exact ⟨rfl, rfl, rfl⟩
  | cons line lines ih =>
    obtain ⟨herrors, hthreshold, hhandlers⟩ := ih (d.debug line)
    obtain ⟨hthreshold', hhandlers'⟩ := Console.tuned_log ⟨.debug, line, false⟩ d.console
    refine ⟨herrors.trans (Console.errors_debug line d.console), ?_, ?_⟩
    · exact hthreshold.trans hthreshold'
    · exact hhandlers.trans hhandlers'

end Desk

/-! ## 3. Logging and collecting -/

/-- A visit with each of the two outlets, on a host in any state. -/
theorem Host.visit_toConsole_toMain (u : SourceUnit) {h : Host Desk}
    (hmain : h.sink.main.capacity = none) :
    ∃ (result : WalkResult) (lines : List String) (rs : List Report),
      ((h.visit Desk.toConsole u).1 = .ok result ∧ (h.visit Desk.toMain u).1 = .ok result) ∧
      (h.visit Desk.toConsole u).2.pool = (h.visit Desk.toMain u).2.pool ∧
      (h.visit Desk.toConsole u).2.sink = { h.sink.debugged lines with
        console := (h.sink.debugged lines).console.logAll rs } ∧
      (h.visit Desk.toMain u).2.sink = { h.sink.debugged lines with
        main := (h.sink.debugged lines).main.gained rs } := by
  cases hx : h.engine.excludes u.name with
  | true =>
    rw [visit_of_excluded hx, visit_of_excluded hx]
    refine ⟨_, [], [], ⟨rfl, rfl⟩, rfl, rfl, ?_⟩
    simp [Desk.debugged, Collector.gained]
  | false =>
    let rs := (h.ruling.unitFindings h.pool u.classes).map Violation.report
    have hmain' : (h.sink.debugged h.debugLines).main.capacity = none := by
      rw [Desk.main_debugged, hmain]
    obtain ⟨hlogged, hpool, hconsole⟩ := visit_of_accept hx
      (Desk.accept_toConsole rs (h.sink.debugged h.debugLines))
    obtain ⟨hcollected, hpool', hcollector⟩ := visit_of_accept hx
      (Desk.accept_toMain rs hmain')
    exact ⟨_, h.debugLines, rs, ⟨hlogged, hcollected⟩, hpool.trans hpool'.symm, hconsole, hcollector⟩

/-- **Reports may be logged instead of collected.**  Whatever the configuration, the names and the
texts are, treating a unit returns the same result and leaves the same classes if its reports are
logged as if they are collected; in particular no report is refused.  What the collector gains is
logged on the console, report by report, and nothing else is; and if the console lets errors through
to a recorder, the records of errors are those of the reports, in order. -/
theorem enforce_toConsole_agrees (config : Value) (u : SourceUnit) (pool : List ClassDecl) (d : Desk)
    (hmain : d.main.capacity = none) :
    let logging := enforce Desk.toConsole config u pool d
    let collecting := enforce Desk.toMain config u pool d
    ∃ (result : WalkResult) (rs : List Report),
      (logging.1 = .ok result ∧ collecting.1 = .ok result) ∧
      logging.2.pool = collecting.2.pool ∧
      collecting.2.sink.main.reports = d.main.reports ++ rs ∧
      logging.2.sink.console = collecting.2.sink.console.logAll rs ∧
      (d.console.threshold.rank ≤ Level.error.rank → d.console.handlers.count .recorder = 1 →
        collecting.2.sink.console.errors = d.console.errors ∧
        logging.2.sink.console.errors = d.console.errors ++ rs.map Report.record) := by
  intro logging collecting
  obtain ⟨result, lines, rs, hresults, hpool, hlogged, hcollected⟩ :=
    Host.visit_toConsole_toMain (h := { engine := { source := .fixed config }, pool, sink := d }) u hmain
  obtain ⟨herrors, hthreshold, hhandlers⟩ := d.console_debugged lines
  refine ⟨result, rs, hresults, hpool, ?_, ?_, ?_⟩
  · have hreports : collecting.2.sink.main.reports = (d.debugged lines).main.reports ++ rs :=
      congrArg (·.main.reports) hcollected
    rw [hreports, Desk.main_debugged]
  · have hconsole : collecting.2.sink.console = (d.debugged lines).console :=
      congrArg (·.console) hcollected
    rw [hconsole]
    exact congrArg (·.console) hlogged
  · intro hlevel hrecorder
    have hconsole : logging.2.sink.console = (d.debugged lines).console.logAll rs :=
      congrArg (·.console) hlogged
    refine ⟨(congrArg (·.console.errors) hcollected).trans herrors, ?_⟩
    rw [hconsole, Console.errors_logAll rs (by rw [hthreshold]; exact hlevel)
      (by rw [hhandlers]; exact hrecorder), herrors]

/-- Extensions are limited to two, which look like markup. -/
def markupConfig : Value :=
  .table [("defAllowed", .bool false), ("limitCompileStaticExtensions", .bool true),
    ("compileStaticExtensions", .list [.text "/x]", .text "\\"])]

/-- A class with another extension, and an untyped field whose name ends in three backslashes. -/
def markupClass : ClassDecl :=
  { name := "[code]K"
    directives := [.compileStatic (.list [.text "y"])]
    fields := [{ name := "[/]\\\\\\", untyped := true }] }

def markupReports : List Report :=
  [⟨"Compile static extensions are limited to: [/x], \\]", .classAt 0, "[code]K"⟩,
    ⟨"Untyped fields are not allowed.", .fieldAt 0 0, "[/]\\\\\\"⟩]

/-- A desk with a recorder on its console. -/
def recorderDesk : Desk := { console := ({} : Console).addRecorder }

theorem collect_markupClass :
    (enforce Desk.toMain markupConfig ⟨"U", [0]⟩ [markupClass] recorderDesk).1
      = .ok { unit := "U", reported := 2 } ∧
    (enforce Desk.toMain markupConfig ⟨"U", [0]⟩ [markupClass] recorderDesk).2.sink.main.reports
      = markupReports :=
  ⟨rfl, rfl⟩

/-- Behind the name with the backslashes the closing tag is taken literally, and the message of the other
report has a tag in it that closes nothing: both are logged. -/
theorem enforce_toConsole_agrees_backslashes :
    (recorderDesk.main.capacity = none ∧ recorderDesk.console.threshold.rank ≤ Level.error.rank ∧
      recorderDesk.console.handlers.count .recorder = 1) ∧
    (enforce Desk.toConsole markupConfig ⟨"U", [0]⟩ [markupClass] recorderDesk).1
      = .ok { unit := "U", reported := 2 } ∧
    (enforce Desk.toConsole markupConfig ⟨"U", [0]⟩ [markupClass] recorderDesk).2.sink.console.errors
      = markupReports.map Report.record := by
  have hlevel : recorderDesk.console.threshold.rank ≤ Level.error.rank := by decide
  have hrecorder : recorderDesk.console.handlers.count .recorder = 1 := by decide
  obtain ⟨result, rs, ⟨hlogged, hcollected⟩, -, hreports, -, herrors⟩ :=
    enforce_toConsole_agrees markupConfig ⟨"U", [0]⟩ [markupClass] recorderDesk rfl
  obtain ⟨hresult, hcollector⟩ := collect_markupClass
  obtain rfl : markupReports = rs := hcollector.symm.trans hreports
  exact ⟨⟨rfl, hlevel, hrecorder⟩, hlogged.trans (hcollected.symm.trans hresult),
    (herrors hlevel hrecorder).2⟩

end TypingPolicy
