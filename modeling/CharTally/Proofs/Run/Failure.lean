import CharTally.Proofs.Ledger.Rows
import CharTally.Proofs.Stream
import CharTally.Run

/-!
# Runs that fail

A run that fails has told its reporter nothing and changed no row of its ledger:
`Untold` says so of the workspace that it leaves. Where a run with a ledger stops is
said once, in `count_cases`. The reporter comes last and does not refuse a scan that was
recorded on account of its count, because a count that fits into a row is short enough
to be written (`isShort_of_fits`); but a stream can refuse a line of its own accord, when
the scan is recorded already. A call that cannot be begun, because its text is not ASCII
or its profile cannot be loaded, leaves the workspace as it was.
-/

namespace CharTally.Run

/-! ## Calls -/

/-- The two ways to ask for a run. -/
inductive Call where
  | count (target text : Text) (wording : Wording) (sinks : Sinks) (counter : Counter)
  | profile (name : Text) (source : Settings.Source) (sinks : Sinks)

namespace Call

/-- The run that a call asks for. -/
def job : Call → Job Report
  | .count target text wording sinks counter => Run.count target text wording sinks counter
  | .profile name source sinks => Run.profile name source sinks

/-- Where the report of a call goes. -/
def sinks : Call → Sinks
  | .count _ _ _ sinks _ | .profile _ _ sinks => sinks

/-- The report that a call is to make. -/
def report? (files : Files) : Call → Option Report
  | .count target text wording _ counter =>
    (Tape.ofText? text).map fun tape => ⟨target, tape, counter target tape, wording⟩
  | .profile name source _ =>
    match Settings.loadRuntime files source (some name) with
    | .ok runtime =>
      (Tape.ofText? runtime.profile.text).map fun tape =>
        ⟨[runtime.profile.target], tape, scanning [runtime.profile.target] tape, runtime.wording⟩
    | .error _ => none

/-- The reporter of a call keeps its report, or prints it on a stream that takes its line. -/
def Heard (before : Workspace) (call : Call) : Prop :=
  call.sinks.reporter = .print → ∀ report ∈ call.report? before.files, ∀ line ∈ report.line?,
    before.stream.Takes before.printed line

end Call

/-! ## Where a run stops -/

variable {before after middle : Workspace} {failure : Failure} {report : Report}
  {home : Option Place}

/-- A count that fits into a row is short enough to be written. -/
theorem isShort_of_fits {i : Int} (fits : Ledger.fits i = true) : Numeral.isShort i = true := by
  rw [Ledger.fits, Bool.and_eq_true, decide_eq_true_eq, decide_eq_true_eq] at fits
  have bound : Nat.pow 10 20 = 100000000000000000000 := by decide
  refine Numeral.isShort_of_lt (by decide : 20 ≤ Numeral.maxDigits) ?_
  omega

/-- Why a reporter refuses a report: its stream does not take the line. -/
def Unheard (reporter : Reporter) (report : Report) (before : Workspace) (crash : Crash) : Prop :=
  reporter = .print ∧ before.stream.Refuses crash ∧
    ∃ line, report.line? = some line ∧ ¬ before.stream.Takes before.printed line

/-- A reporter that refuses a report keeps none. The count is too long to be written, and nothing is
printed, or the stream does not take the line. -/
theorem emit_eq_error {reporter : Reporter}
    (failed : reporter.emit report before = .error failure after) :
    after = before ∧ Numeral.isShort report.count = false ∧ failure = .crash .integerTooLong ∨
      ∃ crash printed, failure = .crash crash ∧ after = { before with printed } ∧
        Unheard reporter report before crash := by
  cases reporter with
  | keep => cases failed
  | print =>
    unfold Reporter.emit at failed
    cases length : Numeral.isShort report.count with
    | true =>
      have line := Report.line?_of_isShort length
      simp only [line] at failed
      obtain ⟨crash, refuses, rfl, left⟩ := Job.print_eq_error failed
      have untaken (taken : before.stream.Takes before.printed
          (Numeral.ofInt report.count ++ report.predicate)) : False := by
        cases (Job.print_eq_ok.mpr ⟨taken, rfl⟩).symm.trans failed
      refine Or.inr ⟨crash, after.printed, rfl, ?_, rfl, refuses, _, line, untaken⟩
      rcases left with rfl | rfl <;> rfl
    | false =>
      simp only [Report.line?_of_not_isShort length] at failed
      cases failed
      exact Or.inl ⟨rfl, rfl, rfl⟩

/-- Reporting changes no files. -/
theorem files_of_emit {reporter : Reporter}
    (ran : reporter.emit report before = .ok () after) : after.files = before.files := by
  cases reporter with
  | keep =>
    cases ran
    rfl
  | print =>
    unfold Reporter.emit at ran
    generalize report.line? = line at ran
    cases line with
    | none => cases ran
    | some line =>
      obtain ⟨_, rfl⟩ := Job.print_eq_ok.mp ran
      rfl

/-- A text that makes no tape ends its run before anything is done. -/
theorem count_of_untaped (target : Text) {text : Text} (wording : Wording) (sinks : Sinks)
    (counter : Counter) (before : Workspace) (untaped : Tape.ofText? text = none) :
    count target text wording sinks counter before =
      .error (.reported (.notAscii text)) before := by
  rw [count, untaped]
  rfl

/-! ### Runs with a ledger -/

section Stages

variable {target text : Text} {wording : Wording} {counter : Counter} {tape : Tape}
  {log : ScanLog} {ledger : FilePath} {profile : Option Text}
  {logged recorded refused : Workspace}

/-- A run whose log is refused ends there. -/
theorem count_of_unlogged (reporter : Reporter) (ledger : Option FilePath)
    (taped : Tape.ofText? text = some tape)
    (made : report = ⟨target, tape, counter target tape, wording⟩)
    (unlogged : log.emit report profile before = .error failure logged) :
    count target text wording ⟨reporter, log, ledger, profile⟩ counter before =
      .error failure logged := by
  subst made
  rw [count, taped]
  exact bind_eq_error.mpr (Or.inl unlogged)

/-- A run whose scan is refused ends there. -/
theorem count_of_refused (reporter : Reporter) (taped : Tape.ofText? text = some tape)
    (made : report = ⟨target, tape, counter target tape, wording⟩)
    (ranLog : log.emit report profile before = .ok () logged)
    (ranLedger : Store.record ledger report profile (some auditAction) logged =
      .error failure refused) :
    count target text wording ⟨reporter, log, some ledger, profile⟩ counter before =
      .error failure refused := by
  subst made
  rw [count, taped]
  refine bind_eq_error.mpr (Or.inr ⟨(), logged, ranLog, ?_⟩)
  exact bind_eq_error.mpr (Or.inl (map_eq_error.mpr ranLedger))

/-- A run whose scan is recorded goes on to its reporter. -/
theorem count_of_recorded {id : Nat} (reporter : Reporter) (taped : Tape.ofText? text = some tape)
    (made : report = ⟨target, tape, counter target tape, wording⟩)
    (ranLog : log.emit report profile before = .ok () logged)
    (ranLedger : Store.record ledger report profile (some auditAction) logged = .ok id recorded) :
    count target text wording ⟨reporter, log, some ledger, profile⟩ counter before =
      (reporter.emit report >>= fun _ => pure report : Job Report) recorded := by
  have kept : (discard (Store.record ledger report profile (some auditAction)) : Job PUnit) logged =
      .ok () recorded := map_eq_ok.mpr ⟨id, ranLedger, rfl⟩
  rw [count, taped]
  dsimp only
  rw [← made, bind_of_ok ranLog, bind_of_ok kept]

/-- What becomes of a run behind the ledger: its report is returned, or the stream of the reporter
does not take the line. -/
def Tells (report : Report) (reporter : Reporter) (recorded : Workspace)
    (result : EStateM.Result Failure Workspace Report) (after : Workspace) : Prop :=
  result = .ok report after ∨
    ∃ crash printed, after = { recorded with printed } ∧ result = .error (.crash crash) after ∧
      Unheard reporter report recorded crash

/-- Where a run with a ledger stops: at the log, at the ledger, or at the reporter, which does not
refuse what was recorded unless its stream does. -/
theorem count_cases (reporter : Reporter) (log : ScanLog) (ledger : FilePath)
    (profile : Option Text) (before : Workspace) (taped : Tape.ofText? text = some tape)
    (made : report = ⟨target, tape, counter target tape, wording⟩) :
    (∃ failure logged, log.emit report profile before = .error failure logged ∧
        count target text wording ⟨reporter, log, some ledger, profile⟩ counter before =
          .error failure logged) ∨
      ∃ logged, log.emit report profile before = .ok () logged ∧
        ((∃ failure refused,
            Store.record ledger report profile (some auditAction) logged =
              .error failure refused ∧
            count target text wording ⟨reporter, log, some ledger, profile⟩ counter before =
              .error failure refused) ∨
          ∃ id recorded after,
            Store.record ledger report profile (some auditAction) logged = .ok id recorded ∧
            after.files = recorded.files ∧
            Tells report reporter recorded
              (count target text wording ⟨reporter, log, some ledger, profile⟩ counter before)
              after) := by
  cases ranLog : log.emit report profile before with
  | error failure logged =>
    exact Or.inl ⟨failure, logged, rfl, count_of_unlogged reporter (some ledger) taped made ranLog⟩
  | ok _ logged =>
    refine Or.inr ⟨logged, rfl, ?_⟩
    cases ranLedger : Store.record ledger report profile (some auditAction) logged with
    | error failure refused =>
      exact Or.inl ⟨failure, refused, rfl, count_of_refused reporter taped made ranLog ranLedger⟩
    | ok id recorded =>
      rw [count_of_recorded reporter taped made ranLog ranLedger]
      cases told : reporter.emit report recorded with
      | ok _ left =>
        exact Or.inr ⟨id, recorded, left, rfl, files_of_emit told,
          Or.inl (bind_eq_ok.mpr ⟨(), left, told, rfl⟩)⟩
      | error failure left =>
        rcases emit_eq_error told with ⟨_, long, _⟩ | ⟨crash, printed, rfl, rfl, unheard⟩
        · -- what was recorded has a count that the reporter can write
          obtain ⟨_, _, _, _, _, _, _, _, row, _⟩ := Store.record_ok ranLedger
          cases long.symm.trans (isShort_of_fits (Ledger.fits_of_record row))
        · exact Or.inr ⟨id, recorded, { recorded with printed }, rfl, rfl,
            Or.inr ⟨crash, printed, rfl, bind_eq_error.mpr (Or.inl told), unheard⟩⟩

end Stages

/-! ## What comes from outside -/

section Frames

variable {start : Workspace}

theorem framed_onLedger {α : Type} (path : FilePath) (action : LedgerAction)
    (step : Ledger.Step α) : (Store.onLedger path action step).Keeps start.Framed := by
  refine Job.framed_of_files fun before => ?_
  obtain ⟨files, left, touches⟩ := Store.leftBy_onLedger path action step before
  exact ⟨files, left, touches.here⟩

theorem framed_setUp (path : FilePath) : (Store.setUp path).Keeps start.Framed := by
  refine Job.framed_of_files fun before => ?_
  obtain ⟨files, left, keeps⟩ := Store.leftBy_setUp path before
  exact ⟨files, left, keeps.here⟩

theorem framed_record (path : FilePath) (report : Report) (profile action : Option Text) :
    (Store.record path report profile action).Keeps start.Framed :=
  (framed_setUp path).bind fun _ => .bind_get fun _ _ => framed_onLedger _ _ _

theorem framed_start (log : Option FilePath) : (ScanLog.start log).Keeps start.Framed := by
  refine Job.framed_of_files fun before => ?_
  obtain ⟨opened, left, grown⟩ := ScanLog.leftBy_start log before
  exact ⟨opened, left, grown.here⟩

theorem framed_logged (log : ScanLog) (report : Report) (profile : Option Text) :
    (log.emit report profile).Keeps start.Framed := by
  refine Job.framed_of_files fun before => ?_
  obtain ⟨files, left, keeps⟩ := Store.leftBy_emit log report profile before
  exact ⟨files, left, keeps.here⟩

theorem framed_reported (reporter : Reporter) (report : Report) :
    (reporter.emit report).Keeps start.Framed := by
  cases reporter with
  | keep => exact fun _ framed => ⟨framed.here, framed.stream⟩
  | print =>
    unfold Reporter.emit
    cases report.line? with
    | some line => exact Job.framed_print line
    | none => exact .of_idle fun _ => rfl

/-- A run leaves what comes from outside. -/
theorem framed_count (target text : Text) (wording : Wording) (sinks : Sinks)
    (counter : Counter) : (count target text wording sinks counter).Keeps start.Framed := by
  unfold count
  cases Tape.ofText? text with
  | none => exact .of_idle fun _ => rfl
  | some tape =>
    have told (report : Report) :
        (do sinks.reporter.emit report; return report : Job Report).Keeps start.Framed :=
      (framed_reported _ _).bind fun _ => .of_idle fun _ => rfl
    refine (framed_logged _ _ _).bind fun _ => ?_
    cases sinks.ledger with
    | none => exact told _
    | some path =>
      exact ((framed_record _ _ _ _).map _).bind fun _ => told _

theorem framed_profile (name : Text) (source : Settings.Source) (sinks : Sinks) :
    (profile name source sinks).Keeps start.Framed :=
  .bind_get fun _ _ => (Job.Keeps.ofExcept _).bind fun _ => framed_count _ _ _ _ _

end Frames

/-! ## What a failing run leaves -/

/-- Nothing was kept by the reporter, nothing was printed, and every ledger has its rows, apart from
those that are beside the ledger of the run. -/
structure Untold (home : Option Place) (before after : Workspace) : Prop where
  reports : after.reports = before.reports
  printed : after.printed = before.printed
  rows : Store.KeepsRows home before.files after.files

theorem Untold.refl (home : Option Place) (workspace : Workspace) :
    Untold home workspace workspace :=
  ⟨rfl, rfl, Store.KeepsRows.refl _ _⟩

theorem Untold.trans (first : Untold home before middle) (second : Untold home middle after) :
    Untold home before after :=
  ⟨second.reports.trans first.reports, second.printed.trans first.printed,
    first.rows.trans second.rows⟩

/-- Files that keep their rows are all that changed. -/
theorem Untold.of_files
    (left : ∃ files, after = { before with files } ∧ Store.KeepsRows home before.files files) :
    Untold home before after := by
  obtain ⟨files, rfl, rows⟩ := left
  exact ⟨rfl, rfl, rows⟩

theorem untold_of_emit (log : ScanLog) (report : Report) (profile : Option Text)
    (before : Workspace) : Untold home before (leftBy (log.emit report profile) before) := by
  obtain ⟨files, left, rows⟩ := Store.leftBy_emit log report profile before
  exact Untold.of_files ⟨files, left, rows.of_none home⟩

/-- Jobs on files leave what is printed, and the stream. -/
theorem stream_of_emit {log : ScanLog} {profile : Option Text}
    (ran : log.emit report profile before = .ok () after) :
    after.stream = before.stream ∧ after.printed = before.printed ∧
      after.reports = before.reports := by
  obtain ⟨files, rfl⟩ := ScanLog.exists_files_of_emit ran
  exact ⟨rfl, rfl, rfl⟩

theorem unheard_congr {reporter : Reporter} {crash : Crash}
    (unheard : Unheard reporter report after crash) (stream : after.stream = before.stream)
    (printed : after.printed = before.printed) : Unheard reporter report before crash := by
  rw [Unheard, ← stream, ← printed]
  exact unheard

/-- A run that fails is untold, wherever it stops, or the stream does not take its line. -/
theorem untold_of_count {target text : Text} {wording : Wording} {sinks : Sinks}
    {counter : Counter}
    (failed : count target text wording sinks counter before = .error failure after) :
    Untold (sinks.ledger.map before.files.spelled) before after ∨
      ∃ crash, failure = .crash crash ∧ after.reports = before.reports ∧
        ∃ tape, Tape.ofText? text = some tape ∧
          Unheard sinks.reporter ⟨target, tape, counter target tape, wording⟩ before crash := by
  obtain ⟨reporter, log, ledger, profile⟩ := sinks
  cases taped : Tape.ofText? text with
  | none =>
    cases (count_of_untaped target wording _ counter before taped).symm.trans failed
    exact Or.inl (Untold.refl _ _)
  | some tape =>
    have left (home : Option Place) : Untold home before _ :=
      untold_of_emit log ⟨target, tape, counter target tape, wording⟩ profile before
    cases ledger with
    | none =>
      unfold count at failed
      rw [taped] at failed
      rcases bind_eq_error.mp failed with unlogged | ⟨_, logged, ranLog, rest⟩
      · rw [leftBy_of_error unlogged] at left
        exact Or.inl (left _)
      · rw [leftBy_of_ok ranLog] at left
        obtain ⟨stream, printed, reports⟩ := stream_of_emit ranLog
        rcases bind_eq_error.mp rest with unreported | ⟨_, told, _, answer⟩
        · rcases emit_eq_error unreported with ⟨rfl, _⟩ | ⟨crash, _, rfl, rfl, unheard⟩
          · exact Or.inl (left _)
          · exact Or.inr ⟨crash, rfl, reports, tape, rfl, unheard_congr unheard stream printed⟩
        · cases answer
    | some path =>
      rcases count_cases reporter log path profile before taped rfl with
        ⟨_, logged, unlogged, ran⟩ | ⟨logged, ranLog, outcome⟩
      · cases ran.symm.trans failed
        rw [leftBy_of_error unlogged] at left
        exact Or.inl (left _)
      · rw [leftBy_of_ok ranLog] at left
        obtain ⟨stream, printed, reports⟩ := stream_of_emit ranLog
        have here : logged.files.spelled path = before.files.spelled path :=
          Files.spelled_of_here (left none).rows.here path
        rcases outcome with ⟨_, _, refused, ran⟩ | ⟨_, recorded, _, ranLedger, _, tells⟩
        · cases ran.symm.trans failed
          have kept := Store.keepsRows_of_record_failed refused
          rw [here] at kept
          exact Or.inl ((left _).trans (Untold.of_files kept))
        · obtain ⟨_, _, _, later, _, _, _, _, _, _, _, rfl⟩ := Store.record_ok ranLedger
          rcases tells with ran | ⟨crash, _, rfl, ran, unheard⟩
          · cases ran.symm.trans failed
          · cases ran.symm.trans failed
            exact Or.inr ⟨crash, rfl, reports, tape, rfl, unheard_congr unheard stream printed⟩

/-- A profile that cannot be loaded ends its run before anything is done. -/
theorem profile_of_unloaded {name : Text} {source : Settings.Source} (sinks : Sinks)
    (unloaded : Settings.loadRuntime before.files source (some name) = .error failure) :
    profile name source sinks before = .error failure before := by
  unfold profile
  rw [bind_of_ok (rfl : (get : Job Workspace) before = .ok before before), unloaded]
  rfl

/-- Once its profile is loaded, a run counts what the profile says. -/
theorem profile_of_loaded {name : Text} {source : Settings.Source} {runtime : Settings.Runtime}
    (sinks : Sinks)
    (loaded : Settings.loadRuntime before.files source (some name) = .ok runtime) :
    profile name source sinks before =
      count [runtime.profile.target] runtime.profile.text runtime.wording
        { sinks with profile := some name } scanning before := by
  unfold profile
  rw [bind_of_ok (rfl : (get : Job Workspace) before = .ok before before), loaded]
  rfl

/-- A log with an event, a ledger with a scan, a reporter that was told about it, and a stream that
is encoded. -/
def busy : Workspace where
  files := { entries := [([['l']], .document [0x7B, 0x7D, 0x0A]),
    ([['h']], .ledger ⟨some [⟨1, .last⟩],
      some ⟨1, [(1, ⟨['a'], ['a'], 1, none, .last⟩)]⟩, some ⟨0, []⟩⟩)] }
  now := .last
  reports := [⟨['a'], ⟨['a', '\x00']⟩, 1, {}⟩]
  stream := .utf8

/-- A call whose text is not ASCII. -/
def beyondAscii : Call :=
  .count ['d'] ['d', '\u00e9'] {} ⟨.print, ⟨some ⟨[], [['l']]⟩⟩, some ⟨[], [['h']]⟩, none⟩ scanning

end CharTally.Run
