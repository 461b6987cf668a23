import CharTally.Proofs.Files.Room
import CharTally.Proofs.Run.Kept

/-!
# The audit trail follows the scans

Scans that are recorded by hand, with an action or without one, and runs, each with a
log of its own or none, share one ledger file. `Recorded` says which recording a deed
is that succeeds: its number, its scan, and the action that it names. `Tallies` is what
the ledger then holds: the recordings are its scans, numbered in order, and its audit
trail has one line for each recording with an action, which tells that recording. A
recording adds one to each side, and everything else leaves both (`tallies_next`).

A scan that succeeds is recorded, and so is that of a run that fails because the stream
of its reporter refuses the line when the scan is in the ledger already: it would
succeed with a reporter that keeps its report. `committed` lists both.
`trail_follows_scans` reads off what is read, for logs that are kept apart from the
ledger. It is always told by the recordings, and reading fails only if nothing was
recorded and some log was in the way of the ledger file. A log that is not kept apart
can make the ledger unreadable (`trail_strays`).
-/

namespace CharTally.Trail

/-! ## Recordings -/

/-- What is done with a ledger: a scan is recorded by hand, or by a run, or a log is opened for
runs. -/
inductive Deed where
  | record (report : Report) (profile action : Option Text)
  | openLog (file : FilePath)
  | count (target text : Text) (wording : Wording) (reporter : Reporter) (log : ScanLog)
    (profile : Option Text) (counter : Run.Counter)

namespace Deed

/-- The job of a deed, which answers with the number of its scan if it tells it. -/
def job (path : FilePath) : Deed → Job (Option Nat)
  | .record report profile action => some <$> Store.record path report profile action
  | .openLog file => (fun _ => none) <$> ScanLog.start (some file)
  | .count target text wording reporter log profile counter =>
    (fun _ => none) <$> Run.count target text wording ⟨reporter, log, some path, profile⟩ counter

/-- A deed asks for a scan. -/
def isScan : Deed → Bool
  | .openLog _ => false
  | .record _ _ _ | .count _ _ _ _ _ _ _ => true

/-- The log that a deed opens or writes, if there is one. -/
def file? : Deed → Option FilePath
  | .record _ _ _ => none
  | .openLog file => some file
  | .count _ _ _ _ log _ _ => log.path

/-- The log of a deed is not in a folder beside the ledger at a path, nor in the place of its
pages. -/
def Apart (files : Files) (path : FilePath) (deed : Deed) : Prop :=
  Run.LogApart files path deed.file?

instance (files : Files) (path : FilePath) (deed : Deed) : Decidable (deed.Apart files path) :=
  inferInstanceAs (Decidable (Run.LogApart files path deed.file?))

/-- The log of a deed is not on the way to a path, nor does its own way lead there. -/
def Avoids (files : Files) (path : FilePath) (deed : Deed) : Prop :=
  ∀ file ∈ deed.file?, ¬ Files.OnWay files path (files.spelled file) ∧
    ¬ Files.OnWay files file (files.spelled path)

/-- Where a deed tells its report. -/
def reporter : Deed → Reporter
  | .record _ _ _ | .openLog _ => .keep
  | .count _ _ _ reporter _ _ _ => reporter

/-- The report that a deed tells. -/
def report? : Deed → Option Report
  | .record _ _ _ | .openLog _ => none
  | .count target text wording _ _ _ counter =>
    (Tape.ofText? text).map fun tape => ⟨target, tape, counter target tape, wording⟩

/-- The reporter of a deed keeps its report, or prints it on a stream that takes its line. -/
def Heard (before : Workspace) (deed : Deed) : Prop :=
  deed.reporter = .print → ∀ report ∈ deed.report?, ∀ line ∈ report.line?,
    before.stream.Takes before.printed line

/-- The deed with a reporter that keeps its report. -/
def quiet : Deed → Deed
  | .count target text wording _ log profile counter =>
    .count target text wording .keep log profile counter
  | deed => deed

end Deed

/-- A scan that was recorded: its number, what its row gives back, and the action that was named. -/
structure Recording where
  number : Nat
  scan : Scan
  action : Option Text

namespace Recording

/-- The row of a recording. -/
def row (recording : Recording) : Nat × Scan := (recording.number, recording.scan)

/-- An action was named. -/
def isAudited (recording : Recording) : Bool := recording.action.getD [] ≠ []

end Recording

/-- A scan is recorded, with its answer, if it succeeds, or would with a reporter that keeps its
report. -/
def commit (path : FilePath) (before : Workspace) (moment : Timed Deed) :
    List (Timed Deed × Option Nat) :=
  match moment.deed.quiet.job path { before with now := moment.now } with
  | .ok answer _ => if moment.deed.isScan then [(moment, answer)] else []
  | .error _ _ => []

/-- The scans of a session that are recorded, in order. -/
def committed (path : FilePath) : List (Timed Deed) → Workspace → List (Timed Deed × Option Nat)
  | [], _ => []
  | moment :: rest, start =>
    commit path start moment ++ committed path rest (Session.next (Deed.job path) start moment)

/-- The scans of a session that succeed, in order. -/
def succeeded (path : FilePath) (session : List (Timed Deed)) (start : Workspace) :
    List (Timed Deed × Option Nat) :=
  (Session.answers (Deed.job path) session start).filter fun (moment, _) => moment.deed.isScan

/-- A deed that is recorded, with its answer, is a recording. -/
inductive Recorded : Timed Deed × Option Nat → Recording → Prop
  | byHand (now : Instant) (report : Report) (profile action : Option Text) (number : Nat) :
      Recorded (⟨now, .record report profile action⟩, some number)
        ⟨number, (Store.scanOf report profile now).stored, action⟩
  | byRun {now : Instant} {target text : Text} {wording : Wording} {reporter : Reporter}
      {log : ScanLog} {profile : Option Text} {counter : Run.Counter} {tape : Tape}
      (taped : Tape.ofText? text = some tape) (number : Nat) :
      Recorded (⟨now, .count target text wording reporter log profile counter⟩, none)
        ⟨number, (Store.scanOf ⟨target, tape, counter target tape, wording⟩ profile now).stored,
          some Run.auditAction⟩

/-- A line of the audit trail tells a recording: its action, number, target and count. -/
def Tells (recording : Recording) (entry : AuditEntry) : Prop :=
  entry.entity = "scan" ∧ recording.action = some entry.action ∧
    ∃ shown, Target.describe? recording.scan.target = some shown ∧
      entry.detail = Ledger.auditDetail recording.number shown recording.scan.count

/-! ## What the ledger holds -/

variable {path : FilePath} {files : Files} {held left : Ledger} {before after start : Workspace}
  {recordings : List Recording} {scan : Scan} {action : Option Text} {number : Nat}

/-- A ledger holds recordings, numbered from one on, and the lines that tell them. -/
structure Tallies (held : Ledger) (recordings : List Recording) : Prop where
  last : (held.scans.getD {}).lastId = recordings.length
  numbered : recordings.map (·.number) = List.range' 1 recordings.length
  scans : held.rows.1 = recordings.map Recording.row
  lines : List.Forall₂ Tells (recordings.filter (·.isAudited)) (held.rows.2.map (·.2))

theorem tallies_empty : Tallies {} [] := ⟨rfl, rfl, rfl, .nil⟩

/-- Setting up changes nothing that is held. -/
theorem Tallies.migrate (tallies : Tallies held recordings) (now : Instant) :
    Tallies (held.migrate now) recordings where
  last := by rw [Ledger.scans_migrate, tallies.last]
  numbered := tallies.numbered
  scans := by rw [Ledger.rows_migrate, tallies.scans]
  lines := by
    rw [Ledger.rows_migrate]
    exact tallies.lines

/-- A recorded scan with an action adds the line that tells it, and one without adds none. -/
theorem lines_of_gains {ledger : Ledger}
    (gains : Ledger.AuditGains scan action number ledger left) :
    ∃ added, left.rows.2.map (·.2) = ledger.rows.2.map (·.2) ++ added ∧
      List.Forall₂ Tells ([⟨number, scan.stored, action⟩].filter (·.isAudited)) added := by
  rcases action with _ | _ | ⟨first, letters⟩
  · refine ⟨[], ?_, .nil⟩
    rw [Ledger.rows, Ledger.rows, show left.audit = ledger.audit from gains, List.append_nil]
  · refine ⟨[], ?_, .nil⟩
    rw [Ledger.rows, Ledger.rows, show left.audit = ledger.audit from gains, List.append_nil]
  · obtain ⟨shown, trail, described, former, latter⟩ := gains
    refine ⟨[⟨"scan", first :: letters, Ledger.auditDetail number shown scan.count,
      scan.createdAt.stored⟩], ?_, .cons ⟨rfl, rfl, shown, described, rfl⟩ .nil⟩
    rw [Ledger.rows, Ledger.rows, former, latter]
    exact List.map_append

/-- A recorded scan is the next recording. -/
theorem Tallies.record (tallies : Tallies held recordings)
    (recorded : Ledger.record scan action held = .ok number left) :
    Tallies left (recordings ++ [⟨number, scan.stored, action⟩]) := by
  obtain ⟨next, scans, last, gains⟩ := Ledger.rows_of_record recorded
  obtain ⟨added, lines, told⟩ := lines_of_gains gains
  have next_eq : number = recordings.length + 1 := by
    rw [next, Table.nextId, tallies.last]
  refine ⟨?_, ?_, ?_, ?_⟩
  · rw [last, next_eq, List.length_append, List.length_singleton]
  · rw [List.map_append, tallies.numbered, List.length_append, List.length_singleton,
      List.range'_concat, next_eq, Nat.one_mul, Nat.add_comm 1]
    rfl
  · rw [scans, tallies.scans, List.map_append]
    rfl
  · rw [lines, List.filter_append]
    exact List.rel_append tallies.lines told

/-! ## What is recorded -/

variable {report : Report} {profile : Option Text} {reporter : Reporter} {log : ScanLog}
  {target text : Text} {wording : Wording} {counter : Run.Counter} {now : Instant}
  {moment : Timed Deed} {answer : Option Nat} {recording : Recording}

theorem commit_of_ok
    (ran : moment.deed.quiet.job path { before with now := moment.now } = .ok answer after)
    (scans : moment.deed.isScan = true) : commit path before moment = [(moment, answer)] := by
  rw [commit, ran]
  exact if_pos scans

theorem commit_of_error {failure : Failure}
    (failed : moment.deed.quiet.job path { before with now := moment.now } =
      .error failure after) : commit path before moment = [] := by
  rw [commit, failed]

section Runs

variable {tape : Tape} {logged : Workspace} {failure : Failure}

theorem commit_of_untaped (untaped : Tape.ofText? text = none) :
    commit path before ⟨now, .count target text wording reporter log profile counter⟩ = [] :=
  commit_of_error (map_eq_error.mpr (Run.count_of_untaped target wording _ counter _ untaped))

theorem commit_of_unlogged (taped : Tape.ofText? text = some tape)
    (made : report = ⟨target, tape, counter target tape, wording⟩)
    (unlogged : log.emit report profile { before with now } = .error failure logged) :
    commit path before ⟨now, .count target text wording reporter log profile counter⟩ = [] :=
  commit_of_error (map_eq_error.mpr (Run.count_of_unlogged .keep (some path) taped made unlogged))

theorem commit_of_refused (taped : Tape.ofText? text = some tape)
    (made : report = ⟨target, tape, counter target tape, wording⟩)
    (ranLog : log.emit report profile { before with now } = .ok () logged)
    (refused : Store.record path report profile (some Run.auditAction) logged =
      .error failure after) :
    commit path before ⟨now, .count target text wording reporter log profile counter⟩ = [] :=
  commit_of_error (map_eq_error.mpr (Run.count_of_refused .keep taped made ranLog refused))

/-- A run is recorded if its scan is, whatever becomes of its report. -/
theorem commit_of_recorded (taped : Tape.ofText? text = some tape)
    (made : report = ⟨target, tape, counter target tape, wording⟩)
    (ranLog : log.emit report profile { before with now } = .ok () logged)
    (ranLedger : Store.record path report profile (some Run.auditAction) logged =
      .ok number after) :
    commit path before ⟨now, .count target text wording reporter log profile counter⟩ =
      [(⟨now, .count target text wording reporter log profile counter⟩, none)] := by
  have ran := Run.count_of_recorded .keep taped made ranLog ranLedger
  exact commit_of_ok (map_eq_ok.mpr ⟨_, ran, rfl⟩) rfl

end Runs

theorem succeeded_cons (moment : Timed Deed) (rest : List (Timed Deed)) (start : Workspace) :
    succeeded path (moment :: rest) start = succeeded path [moment] start ++
      succeeded path rest (Session.next (Deed.job path) start moment) := by
  rw [succeeded, ← List.singleton_append, Session.answers_append, List.filter_append]
  rfl

theorem succeeded_of_ok
    (ran : moment.deed.job path { before with now := moment.now } = .ok answer after)
    (scans : moment.deed.isScan = true) : succeeded path [moment] before = [(moment, answer)] := by
  rw [succeeded, Session.answers_singleton, Session.outcome, ran]
  exact List.filter_cons_of_pos scans

theorem succeeded_of_error {failure : Failure}
    (failed : moment.deed.job path { before with now := moment.now } = .error failure after) :
    succeeded path [moment] before = [] := by
  rw [succeeded, Session.answers_singleton, Session.outcome, failed]
  rfl

/-! ## One deed -/

theorem tallies_of_refused {failure : Failure} (kept : Run.Kept path before.files held)
    (tallies : Tallies held recordings)
    (refused : Store.record path report profile action before = .error failure after) :
    ∃ held', Run.Kept path after.files held' ∧ Tallies held' recordings := by
  obtain ⟨held', kept', rfl | rfl⟩ := Run.kept_of_refused kept refused
  · exact ⟨held', kept', tallies⟩
  · exact ⟨_, kept', tallies.migrate before.now⟩

theorem tallies_of_recorded (kept : Run.Kept path before.files held)
    (tallies : Tallies held recordings)
    (recorded : Store.record path report profile action before = .ok number after) :
    ∃ held', Run.Kept path after.files held' ∧
      Tallies held' (recordings ++
        [⟨number, (Store.scanOf report profile before.now).stored, action⟩]) := by
  obtain ⟨left, kept', _, row⟩ := Run.kept_of_recorded kept recorded
  exact ⟨left, kept', (tallies.migrate before.now).record row⟩

/-- Behind a deed stands a ledger with the recordings that there were, and with the one that the
deed adds if it is recorded. -/
def Steps (path : FilePath) (before : Workspace) (moment : Timed Deed)
    (recordings : List Recording) : Prop :=
  ∃ held added, Run.Kept path (Session.next (Deed.job path) before moment).files held ∧
    Tallies held (recordings ++ added) ∧ List.Forall₂ Recorded (commit path before moment) added

theorem steps_of_none (none_ : commit path before moment = [])
    (kept : Run.Kept path (Session.next (Deed.job path) before moment).files held)
    (tallies : Tallies held recordings) : Steps path before moment recordings := by
  refine ⟨held, [], kept, ?_, none_ ▸ .nil⟩
  rw [List.append_nil]
  exact tallies

theorem steps_of_one (one : commit path before moment = [(moment, answer)])
    (kept : Run.Kept path (Session.next (Deed.job path) before moment).files held)
    (tallies : Tallies held (recordings ++ [recording]))
    (recorded : Recorded (moment, answer) recording) : Steps path before moment recordings :=
  ⟨held, [recording], kept, tallies, one ▸ .cons recorded .nil⟩

theorem steps_record (kept : Run.Kept path before.files held)
    (tallies : Tallies held recordings) :
    Steps path before ⟨now, .record report profile action⟩ recordings := by
  have keptThen : Run.Kept path ({ before with now } : Workspace).files held := kept
  cases ran : Store.record path report profile action { before with now } with
  | ok number after =>
    obtain ⟨held', kept', tallies'⟩ := tallies_of_recorded keptThen tallies ran
    have done_ : (Deed.record report profile action).job path { before with now } =
        .ok (some number) after := map_eq_ok.mpr ⟨number, ran, rfl⟩
    rw [← leftBy_of_ok done_] at kept'
    exact steps_of_one (commit_of_ok done_ rfl) kept' tallies' (.byHand ..)
  | error failure after =>
    obtain ⟨held', kept', tallies'⟩ := tallies_of_refused keptThen tallies ran
    have failed : (Deed.record report profile action).job path { before with now } =
        .error failure after := map_eq_error.mpr ran
    rw [← leftBy_of_error failed] at kept'
    exact steps_of_none (commit_of_error failed) kept' tallies'

/-- A log that is opened adds nothing. -/
theorem steps_openLog {file : FilePath} (apart : Deed.Apart before.files path (.openLog file))
    (kept : Run.Kept path before.files held) (tallies : Tallies held recordings) :
    Steps path before ⟨now, .openLog file⟩ recordings := by
  have keptThen : Run.Kept path ({ before with now } : Workspace).files held := kept
  have started : Run.Kept path
      (leftBy (ScanLog.start (some file)) { before with now }).files held :=
    keptThen.of_start apart
  refine steps_of_none ?_ ?_ tallies
  · unfold commit
    split <;> rfl
  · rw [Session.next, Deed.job, leftBy_map]
    exact started

/-- A run adds a recording once its scan is in the ledger, and otherwise none. -/
theorem steps_count
    (apart : Deed.Apart before.files path (.count target text wording reporter log profile counter))
    (kept : Run.Kept path before.files held) (tallies : Tallies held recordings) :
    Steps path before ⟨now, .count target text wording reporter log profile counter⟩
      recordings := by
  have keptThen : Run.Kept path ({ before with now } : Workspace).files held := kept
  -- the files behind the deed are those behind the run
  have onward {files : Files} (left : (leftBy (Run.count target text wording
      ⟨reporter, log, some path, profile⟩ counter) { before with now }).files = files)
      {ledger : Ledger} (keptLeft : Run.Kept path files ledger) : Run.Kept path
        (Session.next (Deed.job path) before
          ⟨now, .count target text wording reporter log profile counter⟩).files ledger := by
    rw [Session.next, Deed.job, leftBy_map, left]
    exact keptLeft
  cases taped : Tape.ofText? text with
  | none =>
    have ran := Run.count_of_untaped target wording ⟨reporter, log, some path, profile⟩ counter
      { before with now } taped
    refine steps_of_none (commit_of_untaped taped) (onward ?_ keptThen) tallies
    rw [leftBy_of_error ran]
  | some tape =>
    have keptLogged :=
      keptThen.of_emit apart ⟨target, tape, counter target tape, wording⟩ profile
    rcases Run.count_cases reporter log path profile { before with now } taped rfl with
      ⟨failure, logged, unlogged, ran⟩ | ⟨logged, ranLog, outcome⟩
    · rw [leftBy_of_error unlogged] at keptLogged
      refine steps_of_none (commit_of_unlogged taped rfl unlogged) (onward ?_ keptLogged) tallies
      rw [leftBy_of_error ran]
    · rw [leftBy_of_ok ranLog] at keptLogged
      rcases outcome with ⟨failure, refused, ranLedger, ran⟩ |
        ⟨number, recorded, after, ranLedger, sameFiles, tells⟩
      · obtain ⟨held', kept', tallies'⟩ := tallies_of_refused keptLogged tallies ranLedger
        refine steps_of_none (commit_of_refused taped rfl ranLog ranLedger) (onward ?_ kept')
          tallies'
        rw [leftBy_of_error ran]
      · obtain ⟨held', kept', tallies'⟩ := tallies_of_recorded keptLogged tallies ranLedger
        obtain ⟨files, rfl⟩ := ScanLog.exists_files_of_emit ranLog
        refine steps_of_one (commit_of_recorded taped rfl ranLog ranLedger) (onward ?_ kept')
          tallies' (.byRun taped number)
        rcases tells with ran | ⟨_, _, _, ran, _⟩
        · rw [leftBy_of_ok ran, sameFiles]
        · rw [leftBy_of_error ran, sameFiles]

/-- **What one deed does**: it adds a recording if it is a scan that succeeds, or if only its line
is refused, and leaves them otherwise. -/
theorem tallies_next (apart : moment.deed.Apart before.files path)
    (kept : Run.Kept path before.files held) (tallies : Tallies held recordings) :
    Steps path before moment recordings := by
  obtain ⟨now, deed⟩ := moment
  cases deed with
  | record report profile action => exact steps_record kept tallies
  | openLog file => exact steps_openLog apart kept tallies
  | count target text wording reporter log profile counter => exact steps_count apart kept tallies

/-- A deed leaves what comes from outside. -/
theorem framed_deed (deed : Deed) : (deed.job path).Keeps start.Framed := by
  cases deed with
  | record report profile action => exact (Run.framed_record path report profile action).map _
  | openLog file => exact (Run.framed_start (some file)).map _
  | count target text wording reporter log profile counter =>
    exact (Run.framed_count target text wording _ counter).map _

/-- Relative paths start where they started. -/
theorem here_next (moment : Timed Deed) (before : Workspace) :
    (Session.next (Deed.job path) before moment).files.here = before.files.here :=
  (framed_deed moment.deed { before with now := moment.now }
    (⟨rfl, rfl⟩ : before.Framed { before with now := moment.now })).here

/-! ## Room for the ledger -/

/-- There is a ledger at a path, or room for one, and relative paths start where they started. -/
def Ready (path : FilePath) (files later : Files) : Prop :=
  later.here = files.here ∧ ∃ ledger, Store.Tended path later ledger

/-- Recording leaves a ledger where there is one, or room for one, whether or not it fails. -/
theorem ready_of_record (ready : Ready path files before.files) (report : Report)
    (profile action : Option Text) :
    Ready path files (leftBy (Store.record path report profile action) before).files := by
  obtain ⟨here, ledger, tended⟩ := ready
  have steps : Store.Steps path before ⟨before.now, .record report profile action⟩ ledger :=
    Store.steps_record tended
  obtain ⟨ledger', tended', _⟩ := steps
  rw [Session.next, Store.Deed.job, leftBy_map] at tended'
  have framed := Run.framed_record path report profile action before (⟨rfl, rfl⟩ : before.Framed _)
  exact ⟨framed.here.trans here, ledger', tended'⟩

/-- A document that is written off the way leaves the room for a ledger. -/
theorem stands_of_append {files later : Files} {file : FilePath} {more : List UInt8}
    (stands : Store.Stands path files none)
    (off : ¬ Files.OnWay files path (files.spelled file))
    (added : files.append file more = .ok later) : Store.Stands path later none := by
  obtain ⟨isFile, made, place, ran, located, absent, sound⟩ := stands
  obtain ⟨there, locatedThere, outcome⟩ := Files.append_eq_ok added
  rw [← Files.eq_spelled locatedThere] at off
  have room {bytes : List UInt8} (notFolder : files.get? there ≠ some .folder) :
      Store.Stands path (files.set there (.document bytes)) none := by
    obtain ⟨made', ran', located', absent', folders⟩ :=
      Files.ensureFolders_parent_off ran located absent off notFolder
        (nofun : Entry.document bytes ≠ .folder)
    have here : made'.here = made.here :=
      (Files.ensureFolders_grows ran').here.trans (Files.ensureFolders_grows ran).here.symm
    exact ⟨isFile, made', place, ran', located', absent',
      sound.of_folders here (fun other _ folder => folders other folder)
        (Store.indexed_of_absent absent')⟩
  rcases outcome with ⟨missing, rfl⟩ | ⟨bytes, present, rfl⟩ | ⟨content, _, rfl⟩
  · exact room (by simp [missing])
  · exact room (by simp [present])
  · exact ⟨isFile, made, place, ran, located, absent, sound⟩

/-- So does a log that is opened apart from the ledger and not on a way through it. -/
theorem stands_of_grows {files later : Files} {opens : Option FilePath}
    (stands : Store.Stands path files none) (apart : Run.LogApart files path opens)
    (off : ∀ file ∈ opens, ¬ Files.OnWay files file (files.spelled path))
    (grown : Files.GrowsOn opens files later) : Store.Stands path later none := by
  obtain ⟨isFile, made, place, ran, located, absent, sound⟩ := stands
  have grownMade := Files.ensureFolders_grows ran
  have isPlace : place = files.spelled path := by
    rw [Files.eq_spelled located, Files.spelled_of_here grownMade.here]
  have free : later.get? place ≠ some .folder := by
    rw [grown.off place fun file named onWay => off file named (isPlace ▸ onWay.of_parent),
      grownMade.get?_eq_none absent]
    exact (Option.some_ne_none _).symm
  obtain ⟨last, ranThen, locatedThen, absentThen, folders⟩ :=
    Files.ensureFolders_parent_of_grows ran located absent grown.toGrows free
  have here : last.here = made.here :=
    (Files.ensureFolders_grows ranThen).here.trans (grown.here.trans grownMade.here.symm)
  have leaves := apart.leavesBeside grown
  rw [← isPlace] at leaves
  refine ⟨isFile, last, place, ranThen, locatedThen, absentThen,
    sound.of_folders here (fun other isBeside folder => ?_) (Store.indexed_of_absent absentThen)⟩
  rcases folders other folder with there | there
  · exact there
  · exact grownMade.get?_eq_some (leaves.folder other isBeside there)

/-- A log that is opened leaves the ledger, or the room for one. -/
theorem ready_of_start {opens : Option FilePath} (ready : Ready path files before.files)
    (apart : Run.LogApart before.files path opens)
    (off : ∀ file ∈ opens, ¬ Files.OnWay before.files file (before.files.spelled path)) :
    Ready path files (leftBy (ScanLog.start opens) before).files := by
  obtain ⟨here, ledger, tended⟩ := ready
  obtain ⟨opened, left, grown⟩ := ScanLog.leftBy_start opens before
  rw [left]
  refine ⟨grown.here.trans here, ledger, ?_⟩
  cases ledger with
  | none => exact (stands_of_grows tended.1 apart off grown).tended
  | some content =>
    exact Run.tended_of_keepsLedgers (.of_grows grown.toGrows) (apart.leavesBeside grown) tended

/-- A log that is written off the way leaves the ledger, or the room for one. -/
theorem ready_of_emit (ready : Ready path files before.files)
    (apart : Run.LogApart before.files path log.path)
    (off : ∀ file ∈ log.path, ¬ Files.OnWay before.files path (before.files.spelled file))
    (report : Report) (profile : Option Text) :
    Ready path files (leftBy (log.emit report profile) before).files := by
  obtain ⟨here, ledger, tended⟩ := ready
  obtain ⟨later, left, same | ⟨file, more, named, added⟩⟩ :=
    ScanLog.leftBy_emit_appends log report profile before
  · rw [left, same]
    exact ⟨here, ledger, tended⟩
  · have keeps := Files.KeepsLedgers.append added
    rw [left]
    refine ⟨keeps.folders.here.trans here, ledger, ?_⟩
    cases ledger with
    | none => exact (stands_of_append tended.1 (off file named) added).tended
    | some content =>
      exact Run.tended_of_keepsLedgers keeps (.append added (apart.pages file named)) tended

/-- A deed whose log is off the way leaves the ledger, or the room for one. -/
theorem ready_next {moment : Timed Deed} (ready : Ready path files before.files)
    (apart : moment.deed.Apart before.files path) (avoids : moment.deed.Avoids files path) :
    Ready path files (Session.next (Deed.job path) before moment).files := by
  obtain ⟨now, deed⟩ := moment
  have atNow : Ready path files ({ before with now } : Workspace).files := ready
  cases deed with
  | record report profile action =>
    rw [Session.next, Deed.job, leftBy_map]
    exact ready_of_record atNow report profile action
  | openLog file =>
    rw [Session.next, Deed.job, leftBy_map]
    refine ready_of_start atNow apart fun other named onWay => ?_
    rw [Files.spelled_of_here ready.1, Files.onWay_of_here ready.1] at onWay
    exact (avoids other named).2 onWay
  | count target text wording reporter log profile counter =>
    rw [Session.next, Deed.job, leftBy_map]
    cases taped : Tape.ofText? text with
    | none =>
      have ran := Run.count_of_untaped target wording ⟨reporter, log, some path, profile⟩ counter
        { before with now } taped
      rw [leftBy_of_error ran]
      exact atNow
    | some tape =>
      have off (file : FilePath) (named : file ∈ log.path) :
          ¬ Files.OnWay before.files path (before.files.spelled file) := by
        rw [Files.onWay_of_here ready.1, Files.spelled_of_here ready.1]
        exact (avoids file named).1
      have logged :=
        ready_of_emit atNow apart off ⟨target, tape, counter target tape, wording⟩ profile
      rcases Run.count_cases reporter log path profile { before with now } taped rfl with
        ⟨failure, middle, unlogged, ran⟩ | ⟨middle, ranLog, outcome⟩
      · rw [leftBy_of_error unlogged] at logged
        rw [leftBy_of_error ran]
        exact logged
      · rw [leftBy_of_ok ranLog] at logged
        have recorded := ready_of_record logged ⟨target, tape, counter target tape, wording⟩
          profile (some Run.auditAction)
        rcases outcome with ⟨failure, refused, ranLedger, ran⟩ |
          ⟨number, left, after, ranLedger, sameFiles, tells⟩
        · rw [leftBy_of_error ranLedger] at recorded
          rw [leftBy_of_error ran]
          exact recorded
        · rw [leftBy_of_ok ranLedger, ← sameFiles] at recorded
          rcases tells with ran | ⟨_, _, _, ran, _⟩
          · rw [leftBy_of_ok ran]
            exact recorded
          · rw [leftBy_of_error ran]
            exact recorded

/-! ## Sessions -/

/-- If the reporter of a deed takes its report, its scan is recorded if it succeeds. -/
theorem commit_eq_succeeded (heard : moment.deed.Heard before) :
    commit path before moment = succeeded path [moment] before := by
  obtain ⟨now, deed⟩ := moment
  have of_same (same : deed.quiet = deed) :
      commit path before ⟨now, deed⟩ = succeeded path [⟨now, deed⟩] before := by
    rw [commit, succeeded, Session.answers_singleton, Session.outcome, same]
    cases deed.job path { before with now } with
    | ok answer left =>
      dsimp only
      rw [List.filter_cons]
      rfl
    | error failure left => rfl
  cases deed with
  | record report profile action => exact of_same rfl
  | openLog file => exact of_same rfl
  | count target text wording reporter log profile counter =>
    cases taped : Tape.ofText? text with
    | none =>
      have ran := Run.count_of_untaped target wording ⟨reporter, log, some path, profile⟩ counter
        { before with now } taped
      rw [commit_of_untaped taped, succeeded_of_error (map_eq_error.mpr ran)]
    | some tape =>
      rcases Run.count_cases reporter log path profile { before with now } taped rfl with
        ⟨failure, logged, unlogged, ran⟩ | ⟨logged, ranLog, ⟨failure, refused, ranLedger, ran⟩ |
          ⟨number, recorded, after, ranLedger, _, ran | ⟨_, _, _, _, unheard⟩⟩⟩
      · rw [commit_of_unlogged taped rfl unlogged, succeeded_of_error (map_eq_error.mpr ran)]
      · rw [commit_of_refused taped rfl ranLog ranLedger,
          succeeded_of_error (map_eq_error.mpr ran)]
      · rw [commit_of_recorded taped rfl ranLog ranLedger,
          succeeded_of_ok (map_eq_ok.mpr ⟨_, ran, rfl⟩) rfl]
      · -- recording leaves the stream and what is printed
        obtain ⟨prints, _, line, written, untaken⟩ := unheard
        obtain ⟨files, rfl⟩ := ScanLog.exists_files_of_emit ranLog
        obtain ⟨_, _, _, _, _, _, _, _, _, _, _, rfl⟩ := Store.record_ok ranLedger
        have told : ⟨target, tape, counter target tape, wording⟩ ∈
            (Deed.count target text wording reporter log profile counter).report? := by
          rw [Deed.report?, taped]
          rfl
        exact absurd (heard prints _ told line written) untaken

/-- If every reporter takes its report, the scans that are recorded are those that succeed. -/
theorem committed_eq_succeeded {session : List (Timed Deed)}
    (heard : ∀ earlier moment later, session = earlier ++ moment :: later →
      moment.deed.Heard (Session.after (Deed.job path) earlier start)) :
    committed path session start = succeeded path session start := by
  induction session generalizing start with
  | nil => rfl
  | cons moment rest ih =>
    have first : moment.deed.Heard start := heard [] moment rest rfl
    rw [committed, succeeded_cons, commit_eq_succeeded first, ih]
    intro earlier other later split
    exact heard (moment :: earlier) other later (by rw [split, List.cons_append])

/-- Logs that are apart from the ledger stay so. -/
theorem apart_next {moment : Timed Deed} {rest : List (Timed Deed)}
    (apart : ∀ other ∈ moment :: rest, other.deed.Apart before.files path) :
    ∀ other ∈ rest,
      other.deed.Apart (Session.next (Deed.job path) before moment).files path :=
  fun other later => (apart other (List.mem_cons_of_mem moment later)).of_here
    (here_next moment before)

/-- Behind every session whose logs are apart from the ledger, it holds a recording for each deed
that was recorded. -/
theorem exists_tallies (kept : Run.Kept path before.files held) (tallies : Tallies held recordings)
    (session : List (Timed Deed))
    (apart : ∀ moment ∈ session, moment.deed.Apart before.files path) :
    ∃ held' added,
      Run.Kept path (Session.after (Deed.job path) session before).files held' ∧
      Tallies held' (recordings ++ added) ∧
      List.Forall₂ Recorded (committed path session before) added := by
  induction session generalizing before held recordings with
  | nil => exact ⟨held, [], kept, by rwa [List.append_nil], .nil⟩
  | cons moment rest ih =>
    obtain ⟨held', added, kept', tallies', recorded⟩ :=
      tallies_next (apart moment List.mem_cons_self) kept tallies
    obtain ⟨held'', more, kept'', tallies'', recorded'⟩ := ih kept' tallies' (apart_next apart)
    rw [List.append_assoc] at tallies''
    exact ⟨held'', added ++ more, kept'', tallies'', List.rel_append recorded recorded'⟩

/-- Behind a session whose logs are off the way stands the ledger, or there is room for it. -/
theorem ready_after {session : List (Timed Deed)}
    (apart : ∀ moment ∈ session, moment.deed.Apart before.files path)
    (avoids : ∀ moment ∈ session, moment.deed.Avoids files path)
    (ready : Ready path files before.files) :
    Ready path files (Session.after (Deed.job path) session before).files := by
  induction session generalizing before with
  | nil => exact ready
  | cons moment rest ih =>
    obtain ⟨first, others⟩ := List.forall_mem_cons.mp avoids
    exact ih (apart_next apart) others
      (ready_next ready (apart moment List.mem_cons_self) first)

/-- Where there is room for a ledger, none stands. -/
theorem kept_of_stands (stands : Store.Stands path files none) : Run.Kept path files {} := by
  obtain ⟨_, made, place, ran, located, absent, _⟩ := stands
  have grown := Files.ensureFolders_grows ran
  refine ⟨?_, Or.inl rfl⟩
  rw [← Files.spelled_of_here grown.here, ← Files.eq_spelled located, Store.ledgerAt,
    grown.get?_eq_none absent]

/-- A ledger that holds a recording is there. -/
theorem Tallies.tended (tallies : Tallies held recordings) (kept : Run.Kept path files held)
    (some_ : recordings ≠ []) : Store.Tended path files (some held) := by
  rcases kept.2 with rfl | tended
  · exact absurd (List.eq_nil_of_length_eq_zero tallies.last.symm) some_
  · exact tended

/-- Of two lists that are related item by item, each item of the first has one in the second. -/
theorem exists_of_mem {α β : Type} {R : α → β → Prop} {items : List α} {others : List β} {item : α}
    (related : List.Forall₂ R items others) (member : item ∈ items) :
    ∃ other ∈ others, R item other := by
  induction related with
  | nil => cases member
  | cons first rest ih =>
    rcases List.mem_cons.mp member with rfl | later
    · exact ⟨_, List.mem_cons_self, first⟩
    · obtain ⟨other, among, held⟩ := ih later
      exact ⟨other, List.mem_cons_of_mem _ among, held⟩

/-- **The audit trail follows the scans.** Whatever is recorded by hand, with an action or without,
and by runs, on one ledger file that is not there at first, and whatever fails of it: each deed that
is recorded is one recording, and the recordings are numbered in their order. If every reporter
takes its report, these are the deeds that succeed; if not, there are also the runs whose line was
refused. The scans that are read are the recordings. The audit trail that is read has one line for
each recording with an action, in the same order, and the line tells its number, its target and its
count; so no line tells a scan that is not there, and no scan with an action lacks its line. Both
are read as soon as anything was recorded, and before that if no log was written in the way of the
ledger file. -/
theorem trail_follows_scans (free : Store.Stands path start.files none)
    (session : List (Timed Deed))
    (apart : ∀ moment ∈ session, moment.deed.Apart start.files path) :
    ((∀ earlier moment later, session = earlier ++ moment :: later →
        moment.deed.Heard (Session.after (Deed.job path) earlier start)) →
      committed path session start = succeeded path session start) ∧
    ∃ recordings : List Recording,
      List.Forall₂ Recorded (committed path session start) recordings ∧
      recordings.map (·.number) = List.range' 1 recordings.length ∧
      ∀ now, let at_ : Workspace := { Session.after (Deed.job path) session start with now }
        (∀ rows left, Store.scans path none at_ = .ok rows left →
          rows = (recordings.map Recording.row).reverse) ∧
        (∀ entries left, Store.auditTrail path at_ = .ok entries left →
          List.Forall₂ Tells (recordings.filter (·.isAudited)) entries ∧
          (∀ entry ∈ entries, ∃ recording ∈ recordings, Tells recording entry) ∧
          ∀ recording ∈ recordings, recording.isAudited = true →
            ∃ entry ∈ entries, Tells recording entry) ∧
        ((recordings ≠ [] ∨ ∀ moment ∈ session, moment.deed.Avoids start.files path) →
          (∃ rows left, Store.scans path none at_ = .ok rows left) ∧
            ∃ entries left, Store.auditTrail path at_ = .ok entries left) := by
  obtain ⟨held, recordings, kept, tallies, recorded⟩ :=
    exists_tallies (kept_of_stands free) tallies_empty session apart
  rw [List.nil_append] at tallies
  refine ⟨committed_eq_succeeded, recordings, recorded, tallies.numbered, ?_⟩
  intro now at_
  have keptThen : Run.Kept path at_.files held := kept
  have rows : Store.rowsAt at_.files (at_.files.spelled path) = held.rows := by
    rw [Store.rowsAt, keptThen.1]
  refine ⟨?_, ?_, ?_⟩
  · intro read left ran
    rw [Store.scans_eq_ok ran, rows, tallies.scans, Ledger.limited]
  · intro entries left ran
    have told : List.Forall₂ Tells (recordings.filter (·.isAudited)) entries := by
      rw [Store.auditTrail_eq_ok ran, rows]
      exact tallies.lines
    refine ⟨told, ?_, ?_⟩
    · intro entry member
      obtain ⟨recording, among, tells⟩ := exists_of_mem told.flip member
      exact ⟨recording, List.mem_of_mem_filter among, tells⟩
    · intro recording member audited
      exact exists_of_mem told (List.mem_filter.mpr ⟨member, audited⟩)
  · intro reachable
    have tended : ∃ ledger, Store.Tended path at_.files ledger := by
      rcases reachable with some_ | avoids
      · exact ⟨some held, tallies.tended keptThen some_⟩
      · have room : Ready path start.files start.files := ⟨rfl, none, free.tended⟩
        exact (ready_after apart avoids room).2
    obtain ⟨ledger, tended⟩ := tended
    obtain ⟨left, read⟩ :=
      Store.scans_of_tended tended (rfl : (none : Option Int).all Ledger.fits = true)
    exact ⟨⟨_, left, read⟩, Store.auditTrail_of_tended tended⟩

/-- A scan with an action, one with an action that cannot be recorded because its target is not one
character, a run, and a scan without an action. -/
def fourDeeds : List (Timed Deed) :=
  [⟨.last, .record ⟨['d'], ⟨['d', '\x00', 'd']⟩, 1, {}⟩ none (some ['c'])⟩,
    ⟨.last, .record ⟨['d', 'd'], ⟨['d']⟩, 0, {}⟩ none (some ['c'])⟩,
    ⟨.last, .count ['d'] ['d', 'a', 'd'] {} .keep ⟨some ⟨[], [['l']]⟩⟩ none Run.scanning⟩,
    ⟨.last, .record ⟨['a'], ⟨['d']⟩, 0, {}⟩ none none⟩]

/-- Three of them are recorded, and the first two of these are told. -/
theorem trail_follows_scans_of_fourDeeds :
    let path : FilePath := ⟨[], [['h']]⟩
    let start : Workspace := { files := {}, now := .last }
    let at_ : Workspace := { Session.after (Deed.job path) fourDeeds start with now := .last }
    (succeeded path fourDeeds start).map (·.2) = [some 1, none, some 3] ∧
      ∃ (recordings : List Recording) (entries : List AuditEntry) (left : Workspace),
        recordings.map (·.number) = [1, 2, 3] ∧
        Store.auditTrail path at_ = .ok entries left ∧
        entries.map (·.detail) = ["id=1 target=d count=1", "id=2 target=d count=2"] ∧
        List.Forall₂ Tells (recordings.filter (·.isAudited)) entries := by
  intro path start at_
  have free : Store.Stands path start.files none :=
    ⟨by decide, {}, [['h']], rfl, rfl, rfl, by decide⟩
  have answered : (succeeded path fourDeeds start).map (·.2) = [some 1, none, some 3] := by
    decide +kernel
  have apart : ∀ moment ∈ fourDeeds, moment.deed.Apart start.files path := by decide
  have heard : ∀ earlier moment later, fourDeeds = earlier ++ moment :: later →
      moment.deed.Heard (Session.after (Deed.job path) earlier start) := by
    intro earlier moment later split prints
    have member : moment ∈ fourDeeds := by
      rw [split]
      exact List.mem_append_right _ List.mem_cons_self
    have keeps : ∀ moment ∈ fourDeeds, moment.deed.reporter = .keep := by decide
    cases (keeps moment member).symm.trans prints
  obtain ⟨among, recordings, recorded, numbered, told⟩ :=
    trail_follows_scans free fourDeeds apart
  have three : recordings.length = 3 := by
    rw [← recorded.length_eq, among heard, ← List.length_map (·.2), answered]
    rfl
  rw [three] at numbered
  have some_ : recordings ≠ [] := List.ne_nil_of_length_eq_add_one three
  obtain ⟨_, lines, reads⟩ := told .last
  obtain ⟨_, entries, left, read⟩ := reads (Or.inl some_)
  have details : (Store.rowsAt at_.files (at_.files.spelled path)).2.map (·.2.detail) =
      ["id=1 target=d count=1", "id=2 target=d count=2"] := by
    decide +kernel
  refine ⟨answered, recordings, entries, left, numbered, read, ?_, (lines entries left read).1⟩
  rw [Store.auditTrail_eq_ok read, List.map_map]
  exact details

/-- A scan with an action, and then a run whose log is opened in a folder that comes where the
ledger's journal would. -/
def inTheWay : List (Timed Deed) :=
  [⟨.last, .record ⟨['d'], ⟨['d', '\x00', 'd']⟩, 1, {}⟩ none (some ['c'])⟩,
    ⟨.last, .openLog ⟨[], ["h-journal", "l"]⟩⟩,
    ⟨.last, .count ['d'] ['d', 'a', 'd'] {} .keep ⟨some ⟨[], ["h-journal", "l"]⟩⟩ none
      Run.scanning⟩]

/-- A run that prints half of a surrogate pair. -/
def halfPrinted : List (Timed Deed) :=
  [⟨.last, .count ['d'] ['d', 'a', 'd'] { beforeTarget := [CodePoint.ofNat 0xD800] } .print ⟨none⟩
    none Run.scanning⟩]

/-- Behind the one, a scan has succeeded, and its line cannot be read. Behind the other, none has
succeeded, and there is a line. -/
theorem trail_strays :
    let path : FilePath := ⟨[], [['h']]⟩
    let start : Workspace := { files := {}, now := .last, stream := .utf8 }
    let behind (session : List (Timed Deed)) := Session.after (Deed.job path) session start
    Store.Stands path start.files none ∧
      (succeeded path inTheWay start).map (·.2) = [some 1] ∧
      EStateM.run' (Store.auditTrail path) (behind inTheWay) = none ∧
      succeeded path halfPrinted start = [] ∧
      (EStateM.run' (Store.auditTrail path) (behind halfPrinted)).map (·.map (·.detail)) =
        some [("id=1 target=d count=2" : Text)] := by
  intro path start behind
  exact ⟨⟨by decide, {}, [['h']], rfl, rfl, rfl, by decide⟩, by decide +kernel, by decide +kernel,
    by decide +kernel, by decide +kernel⟩

end CharTally.Trail
