import CharTally.Proofs.CommandLine.Agreement
import CharTally.Proofs.CommandLine.Failure

/-!
# What a scan prints

Without a log and a ledger, a scan has one effect, what it prints. With settings that are
loaded, a count prints the sentence of the scan, with the words of the settings around a
target that is read from its literal and a text that is given, or else that of the profile
(`count_tells`). A literal that is refused and a text that is not ASCII are told as faults
of the input, and nothing is printed. A demo prints the sentence and its summary
(`run_demo_of_runtime`).
-/

namespace CharTally.CommandLine

variable {usual : Settings.Source} {document : Settings.Document} {profile : Settings.Profile}
  {config name literal : Text} {text : Option Text} {before workspace after : Workspace}

/-- Without a log and a ledger, a scan is printed, and that is all. -/
theorem count_eq_print {scanned : Text} (ascii : scanned.isAscii = true)
    (small : ¬ Run.IsHuge scanned) (target : CodePoint) (wording : Wording) (label : Option Text) :
    Run.count [target] scanned wording ⟨.print, ⟨none⟩, none, label⟩ = (do
      Job.print (Run.sentence target scanned wording)
      return Run.reportOf target scanned wording : Job Report) := by
  have line : (Run.reportOf target scanned wording).line? =
      some (Run.sentence target scanned wording) := Run.line?_reportOf ascii small
  have emits : Reporter.print.emit (Run.reportOf target scanned wording) =
      Job.print (Run.sentence target scanned wording) := by
    unfold Reporter.emit
    generalize (Run.reportOf target scanned wording).line? = found at line ⊢
    cases line
    rfl
  rw [Run.count_of_isAscii ascii, emits]
  rfl

/-- What a count of it answers is not used. -/
theorem count_prints {scanned : Text} (ascii : scanned.isAscii = true)
    (small : ¬ Run.IsHuge scanned) (target : CodePoint) (wording : Wording) (label : Option Text)
    (before : Workspace) :
    (discard (Run.count [target] scanned wording ⟨.print, ⟨none⟩, none, label⟩) : Job Unit) before =
      Job.print (Run.sentence target scanned wording) before := by
  rw [count_eq_print ascii small]
  cases printed : Job.print (Run.sentence target scanned wording) before with
  | ok _ after =>
    exact map_eq_ok.mpr ⟨_, bind_eq_ok.mpr ⟨_, _, printed, rfl⟩, rfl⟩
  | error failure after =>
    exact map_eq_error.mpr (bind_eq_error.mpr (Or.inl printed))

/-- A request for one line. -/
theorem run_of_print {arguments : List Text} {request : Request} {line : Text}
    (asked : Request.parse arguments = .ok request)
    (prints : request.run usual (fresh workspace) = Job.print line (fresh workspace)) :
    let ran := run arguments usual workspace
    (workspace.stream.Takes [] line → ran.1 = { ending := .ok 0, output := line ++ "\n" }) ∧
      (¬ workspace.stream.Takes [] line →
        ∃ crash, workspace.stream.Refuses crash ∧ ran.1.ending = .error crash) ∧
      ran.2.files = workspace.files := by
  have printsAll : request.run usual (fresh workspace) =
      Job.printAll [line] { fresh workspace with files := workspace.files } := by
    rw [prints, Job.printAll_singleton]
    rfl
  have told := run_of_prints asked printsAll
  rw [Stream.takesAll_singleton, Text.written, List.flatMap_singleton] at told
  exact told

/-- Without sinks, nothing is set up and no log is opened. -/
theorem openSinks_of_none {options : Options} (noLog : path? options.scanLog = none)
    (noLedger : path? options.ledger = none) :
    options.openSinks = pure ⟨.print, ⟨none⟩, none, some options.profile⟩ := by
  rw [Options.openSinks, noLog, noLedger]
  rfl

/-- Without sinks, a count whose settings are loaded reads its target and scans. -/
theorem run_count_of_runtime {options : Options} (noLog : path? options.scanLog = none)
    (noLedger : path? options.ledger = none)
    (loaded : Settings.load before.files (options.source usual) none = .ok document)
    (found : document.find? options.profile = some profile) (literal : Text) (text : Option Text) :
    (Request.count literal text options).run usual before =
      (match Target.parse literal with
        | .error trouble => throw (.ofTarget literal trouble)
        | .ok target => discard (Run.count [target] (text.getD profile.text) document.wording
          ⟨.print, ⟨none⟩, none, some options.profile⟩) : Job Unit) before := by
  have noneNamed : (Request.count literal text options).ledger? = none := noLedger
  rw [Request.run_eq, Request.prepare, noneNamed]
  change runCount usual literal text options before = _
  rw [runCount_of_loaded literal text (Settings.loadRuntime_of_loaded loaded found)]
  cases Target.parse literal with
  | error trouble => rfl
  | ok target =>
    rw [openSinks_of_none noLog noLedger]
    rfl

end CharTally.CommandLine
