import CharTally.Proofs.CommandLine.Agreement
import CharTally.Proofs.CommandLine.Failure
import CharTally.Proofs.Run.Open
import CharTally.Proofs.Run.Trail
import CharTally.Proofs.Stamp

/-!
# Histories of command lines

A session of command lines scans with one ledger file, which is not there at first. Each
command line sets the ledger up before anything else, so from the first one on that asks
for a run the ledger is there, whatever becomes of the rest. `Books` says what it then
holds: one recording for each command line that is done, told by an entry. A command line
adds an entry if it is done and none otherwise (`books_next`).

A lookup prints the newest entries and adds none (`run_history_of_books`), so the listing
replays the session, and lookups do not change what it shows (`history_replays`).
-/

namespace CharTally.CommandLine

/-! ## Sessions of command lines -/

/-- The program as a job, which answers with the workspace that it began in and with its outcome. -/
def program (usual : Settings.Source) (arguments : List Text) : Job (Workspace × Outcome) :=
  fun before => .ok (before, (run arguments usual before).1) (run arguments usual before).2

/-- A command line that was run: its time and its arguments, the workspace that it began in, and its
outcome. -/
abbrev Ran : Type := Timed (List Text) × Workspace × Outcome

/-- A command line that asked for a run which returned the status 0. -/
def isDone : Ran → Bool
  | (command, _, outcome) =>
    match Request.parse command.deed, outcome.ending with
    | .ok _, .ok 0 => true
    | _, _ => false

/-- The command lines of a session that are done, in order. -/
def done (usual : Settings.Source) (session : List (Timed (List Text))) (start : Workspace) :
    List Ran :=
  (Session.answers (program usual) session start).filter isDone

/-! ## Entries -/

/-- What a listing tells of a scan. -/
structure Entry where
  number : Nat
  stamp : Text
  profile : Text
  target : CodePoint
  count : Nat
  text : Text

/-- The line of an entry. -/
def Entry.line (entry : Entry) : Text :=
  "[history] #" ++ Numeral.decimal entry.number ++ " " ++ entry.stamp ++
    " profile=" ++ shownProfile (some entry.profile) ++
    " target=" ++ Target.describe entry.target ++ " count=" ++ Numeral.decimal entry.count ++
    " text=" ++ Text.quoted entry.text

/-- What is printed about the newest entries. -/
def listing (ledger : Text) (limit : Nat) : List Entry → List Text
  | [] => ["[history] no scans recorded in " ++ ledger]
  | entries => (entries.reverse.take limit).map Entry.line

/-- An entry shows the scan of a command line: the stamp of its time, the profile that it names, the
target and the text that it read, and the count that it printed. -/
inductive Shows (usual : Settings.Source) : Ran → Entry → Prop
  | scan {command : Timed (List Text)} {before : Workspace} {outcome : Outcome} {request : Request}
      {options : Options} {runtime : Settings.Runtime} {target : CodePoint} {stamp behind : Text}
      (asked : Request.parse command.deed = .ok request)
      (scans : request.options? = some options)
      (loaded : Settings.loadRuntime (request.settled (fresh before)).files (options.source usual)
        (some options.profile) = .ok runtime)
      (targeted : request.target? runtime = some target)
      (printed : outcome.output =
        Run.sentence target (request.scanned runtime) runtime.wording ++ "\n" ++ behind)
      (stamped : Stamp.text command.now = .ok stamp) (number : Nat) :
      Shows usual (command, before, outcome) ⟨number, stamp, options.profile, target,
        (Run.seen (request.scanned runtime)).count target, Run.seen (request.scanned runtime)⟩

/-! ## What the ledger holds -/

variable {usual : Settings.Source} {path : FilePath} {files later : Files} {request : Request}
  {options : Options} {start before after : Workspace} {entries : List Entry} {target : CodePoint}
  {text stamp : Text} {wording : Wording} {log : ScanLog} {report : Report} {failure : Failure}

/-- An entry tells a recording. -/
structure Tells (recording : Trail.Recording) (entry : Entry) : Prop where
  number : recording.number = entry.number
  stamp : Stamp.text recording.scan.createdAt = .ok entry.stamp
  profile : recording.scan.profile = some entry.profile
  target : recording.scan.target = [entry.target]
  count : recording.scan.count = entry.count
  text : recording.scan.text = entry.text

/-- At a path stands a ledger that is set up and holds the recordings that entries tell. -/
def Holds (path : FilePath) (files : Files) (entries : List Entry) : Prop :=
  ∃ content recordings, Store.Tended path files (some content) ∧
    Trail.Tallies content recordings ∧ List.Forall₂ Tells recordings entries

/-- At a path stands what entries tell; for none, there may only be room for a ledger. -/
def Books (path : FilePath) (files : Files) (entries : List Entry) : Prop :=
  entries = [] ∧ Store.Stands path files none ∨ Holds path files entries

theorem Holds.of_keepsLedgers (keeps : Files.KeepsLedgers files later)
    (leaves : Run.LeavesBeside (files.spelled path) files later)
    (holds : Holds path files entries) : Holds path later entries := by
  obtain ⟨content, recordings, tended, tallies, told⟩ := holds
  exact ⟨content, recordings, Run.tended_of_keepsLedgers keeps leaves tended, tallies, told⟩

theorem Holds.of_emit (holds : Holds path before.files entries)
    (apart : Run.LogApart before.files path log.path) (report : Report) (profile : Option Text) :
    Holds path (leftBy (log.emit report profile) before).files entries := by
  obtain ⟨files, left, keeps, leaves⟩ := apart.leftBy_emit report profile
  rw [left]
  exact holds.of_keepsLedgers keeps leaves

/-- Folders on the way to a log that is apart from the ledger leave it. -/
theorem Holds.of_grows {logPath : Option FilePath} (holds : Holds path files entries)
    (apart : Run.LogApart files path logPath) (grown : Files.GrowsOn logPath files later) :
    Holds path later entries :=
  holds.of_keepsLedgers (.of_grows grown.toGrows) (apart.leavesBeside grown)

/-- Setting up succeeds, and then the ledger is there. -/
theorem Books.setUp (books : Books path before.files entries) :
    ∃ files, Store.setUp path before = .ok () { before with files } ∧ Holds path files entries := by
  obtain ⟨held, recordings, stands, ready, tallies, told⟩ :
      ∃ (held : Option Ledger) (recordings : _),
      Store.Stands path before.files held ∧ Ledger.Ready ((held.getD {}).migrate before.now) ∧
      Trail.Tallies (held.getD {}) recordings ∧ List.Forall₂ Tells recordings entries := by
    rcases books with ⟨rfl, vacant⟩ | ⟨content, recordings, ⟨stands, ready⟩, tallies, told⟩
    · exact ⟨none, [], vacant, Ledger.ready_migrate_empty before.now, Trail.tallies_empty, .nil⟩
    · refine ⟨some content, recordings, stands, ?_, tallies, told⟩
      rw [Option.getD_some, Ledger.migrate_of_ready before.now (ready content rfl)]
      exact ready content rfl
  obtain ⟨files, ran, stood⟩ := Store.setUp_of_stands stands
  refine ⟨files, ran, _, recordings, ⟨stood, ?_⟩, tallies.migrate before.now, told⟩
  rintro _ ⟨rfl⟩
  exact ready

theorem Holds.of_refused {profile action : Option Text} (holds : Holds path before.files entries)
    (refused : Store.record path report profile action before = .error failure after) :
    Holds path after.files entries := by
  obtain ⟨files, ran, stays⟩ := Books.setUp (Or.inr holds)
  rcases Store.setUp_of_refused refused with same | ⟨_, unready⟩
  · cases ran.symm.trans same
    exact stays
  · cases ran.symm.trans unready

/-! ## Scans -/

/-- A job fails because the stream refuses what it prints. -/
def Refused (before : Workspace) (failure : Failure) : Prop :=
  ∃ crash, before.stream.Refuses crash ∧ failure = .crash crash

/-- A scan that fails adds nothing, unless its line is refused. -/
theorem Holds.of_count_error {profile : Option Text} (holds : Holds path before.files entries)
    (apart : Run.LogApart before.files path log.path)
    (failed : Run.count [target] text wording ⟨.print, log, some path, profile⟩ Run.scanning
      before = .error failure after) :
    Holds path after.files entries ∨ Refused before failure := by
  cases taped : Tape.ofText? text with
  | none =>
    cases (Run.count_of_untaped [target] wording _ Run.scanning before taped).symm.trans failed
    exact Or.inl holds
  | some tape =>
    have logged := holds.of_emit apart ⟨[target], tape, Run.scanning [target] tape, wording⟩ profile
    rcases Run.count_cases .print log path profile before taped rfl with
      ⟨_, stopped, unlogged, ran⟩ | ⟨emitted, ranLog, outcome⟩
    · cases ran.symm.trans failed
      rw [leftBy_of_error unlogged] at logged
      exact Or.inl logged
    · rw [leftBy_of_ok ranLog] at logged
      rcases outcome with ⟨_, _, refused, ran⟩ | ⟨_, recorded, _, ranLedger, _, tells⟩
      · cases ran.symm.trans failed
        exact Or.inl (logged.of_refused refused)
      · rcases tells with ran | ⟨crash, _, _, ran, _, refuses, _⟩
        · cases ran.symm.trans failed
        · cases ran.symm.trans failed
          obtain ⟨_, _, _, _, _, _, _, _, _, _, _, rfl⟩ := Store.record_ok ranLedger
          exact Or.inr ⟨crash, (Run.stream_of_emit ranLog).1 ▸ refuses, rfl⟩

/-- A scan that succeeds adds its entry, and prints its sentence. -/
theorem Holds.of_count_ok {profile : Text} (holds : Holds path before.files entries)
    (apart : Run.LogApart before.files path log.path)
    (stamped : Stamp.text before.now = .ok stamp)
    (ran : Run.count [target] text wording ⟨.print, log, some path, some profile⟩ Run.scanning
      before = .ok report after) :
    (∃ number, Holds path after.files (entries ++
      [⟨number, stamp, profile, target, (Run.seen text).count target, Run.seen text⟩])) ∧
      after.printed = before.printed ++ (Run.sentence target text wording ++ "\n") := by
  obtain ⟨logged, recorded, number, target_eq, wording_eq, text_eq, count_eq, ranLog, ranLedger,
    ranReporter⟩ := Run.count_eq_ok ran
  -- the log leaves the time and what is printed
  obtain ⟨files, left⟩ := ScanLog.exists_files_of_emit ranLog
  have stays := holds.of_emit apart report (some profile)
  rw [leftBy_of_ok ranLog] at stays
  obtain ⟨content, recordings, tended, tallies, told⟩ := stays
  have kept : Run.Kept path logged.files content := by
    refine ⟨?_, Or.inr tended⟩
    obtain ⟨_, place, located, _, stands, _⟩ := tended.1
    rw [← Files.eq_spelled located, stands]
  obtain ⟨gained, keptThen, some_, row⟩ := Run.kept_of_recorded kept ranLedger
  have tendedThen : Store.Tended path recorded.files (some gained) :=
    keptThen.2.resolve_left some_
  obtain ⟨_, _, _, _, _, _, _, _, _, _, _, leaves⟩ := Store.record_ok ranLedger
  have narrow : Numeral.isShort report.count = true :=
    Run.isShort_of_fits (Ledger.fits_of_record row)
  have line : report.line? = some (Run.sentence target text wording) := by
    rw [Report.line?_of_isShort narrow, Report.predicate, wording_eq, target_eq, text_eq, count_eq,
      Run.sentence]
    simp only [List.append_assoc]
    rfl
  obtain ⟨sameFiles, _, printed⟩ := Run.receives_of_emit line ranReporter
  refine ⟨⟨number, ?_⟩, ?_⟩
  · rw [sameFiles]
    refine ⟨gained, _, tendedThen, (tallies.migrate logged.now).record row,
      List.rel_append told (.cons ?_ .nil)⟩
    refine ⟨rfl, ?_, rfl, target_eq, count_eq, text_eq⟩
    change Stamp.text logged.now.stored = .ok stamp
    rw [Stamp.text_stored, left]
    exact stamped
  · rw [printed, leaves, left]

/-! ## Command lines that scan -/

/-- A request scans, and names a ledger. -/
def Request.Scans (path : FilePath) (request : Request) : Prop :=
  request.options?.isSome = true ∧ request.ledger? = some path

theorem ledger?_of_options (scans : request.options? = some options) :
    request.ledger? = path? options.ledger := by
  cases request with
  | demo others => cases scans; rfl
  | count literal text others => cases scans; rfl
  | history ledger limit => cases scans

theorem prepare_of_ledger (names : request.ledger? = some path) :
    request.prepare = Store.setUp path := by
  rw [Request.prepare, names]

/-- What is done behind a scan of one character prints a line, or nothing. -/
theorem close_cases {report : Report} (one : report.target = [target]) (request : Request)
    (before : Workspace) :
    request.close report before = .ok () before ∨
      ∃ line, request.close report before = Job.print line before := by
  cases request with
  | demo options =>
    have shown : shownTarget report.target before = .ok (Target.describe target) before := by
      rw [one]
      exact shownTarget_of_one target before
    exact Or.inr ⟨_, bind_of_ok shown⟩
  | count literal text options => exact Or.inl rfl
  | history ledger limit => exact Or.inl rfl

theorem close_eq_ok {report : Report} (one : report.target = [target])
    (closed : request.close report before = .ok () after) :
    ∃ behind, after = { before with printed := before.printed ++ behind } := by
  rcases close_cases one request before with idle | ⟨line, prints⟩
  · cases idle.symm.trans closed
    exact ⟨[], by rw [List.append_nil]⟩
  · exact ⟨_, (Job.print_eq_ok.mp (prints.symm.trans closed)).2⟩

theorem refused_of_close {report : Report} (one : report.target = [target])
    (failed : request.close report before = .error failure after) : Refused before failure := by
  rcases close_cases one request before with idle | ⟨line, prints⟩
  · cases idle.symm.trans failed
  · obtain ⟨crash, refuses, isCrash, _⟩ := Job.print_eq_error (prints.symm.trans failed)
    exact ⟨crash, refuses, isCrash⟩

/-- A request that scans adds an entry if it is done, and prints its sentence first; otherwise it
adds none, unless the stream refuses what it prints. Its log is apart from the ledger. -/
theorem books_of_run (books : Books path before.files entries)
    (names : request.ledger? = some path) (scans : request.options? = some options)
    (apart : Run.LogApart before.files path (path? options.scanLog))
    (stamped : Stamp.text before.now = .ok stamp) :
    (∃ failure after, request.run usual before = .error failure after ∧
        (Holds path after.files entries ∨ Refused before failure)) ∨
      ∃ after runtime target number behind, request.run usual before = .ok () after ∧
        Settings.loadRuntime (request.settled before).files (options.source usual)
          (some options.profile) = .ok runtime ∧
        request.target? runtime = some target ∧
        after.printed = before.printed ++
          (Run.sentence target (request.scanned runtime) runtime.wording ++ "\n" ++ behind) ∧
        Holds path after.files (entries ++ [⟨number, stamp, options.profile, target,
          (Run.seen (request.scanned runtime)).count target,
          Run.seen (request.scanned runtime)⟩]) := by
  obtain ⟨files, prepared, holds⟩ := books.setUp
  rw [← prepare_of_ledger names] at prepared
  have sinks : options.sinks =
      ⟨.print, ⟨path? options.scanLog⟩, some path, some options.profile⟩ := by
    rw [Options.sinks, ← ledger?_of_options scans, names]
  have framed := (framed_prepare request).of_ok (⟨rfl, rfl⟩ : before.Framed before) prepared
  have same : files.here = before.files.here := framed.here
  rw [Request.run_eq, bind_of_ok prepared]
  have atOpened {opened : Files} (grown : Files.GrowsOn (path? options.scanLog) files opened) :
      Holds path opened entries := holds.of_grows (apart.of_here same) grown
  cases serve_cases scans (leftBy_of_ok prepared) with
  | stops stopped grown => exact Or.inl ⟨_, _, stopped, Or.inl (atOpened grown)⟩
  | @scans opened runtime target loaded targeted served grown =>
    have holdsOpened : Holds path ({ before with files := opened } : Workspace).files entries :=
      atOpened grown
    have apartOpened : Run.LogApart opened path (path? options.scanLog) :=
      apart.of_here (grown.here.trans same)
    rw [served, Request.scan, sinks]
    cases counted : Run.count [target] (request.scanned runtime) runtime.wording
        ⟨.print, ⟨path? options.scanLog⟩, some path, some options.profile⟩ Run.scanning
        { before with files := opened } with
    | error failure left =>
      exact Or.inl ⟨failure, left, bind_eq_error.mpr (Or.inl counted),
        holdsOpened.of_count_error apartOpened counted⟩
    | ok report told =>
      obtain ⟨⟨number, added⟩, printed⟩ := holdsOpened.of_count_ok apartOpened stamped counted
      have framedTold := (Run.framed_count _ _ _ _ _).of_ok
        (⟨rfl, rfl⟩ : Workspace.Framed { before with files := opened } _) counted
      cases closed : request.close report told with
      | error failure left =>
        obtain ⟨crash, refuses, rfl⟩ := refused_of_close (Run.target_of_count counted) closed
        exact Or.inl ⟨_, left, bind_eq_error.mpr (Or.inr ⟨report, told, counted, closed⟩),
          Or.inr ⟨crash, framedTold.stream ▸ refuses, rfl⟩⟩
      | ok _ left =>
        obtain ⟨behind, rfl⟩ := close_eq_ok (Run.target_of_count counted) closed
        refine Or.inr ⟨_, runtime, target, number, behind,
          bind_eq_ok.mpr ⟨report, told, counted, closed⟩, loaded, targeted, ?_, added⟩
        simp only [printed, List.append_assoc]

/-! ## Sessions -/

/-- A command line of the session: its time can be shown, and if it asks for a run, the run scans
with the ledger, and its log is apart from it. -/
structure Joins (files : Files) (path : FilePath) (command : Timed (List Text)) : Prop where
  dated : Stamp.Dated command.now
  scans : ∀ request, Request.parse command.deed = .ok request → request.Scans path
  apart : ∀ request, Request.parse command.deed = .ok request →
    ∀ options ∈ request.options?, Run.LogApart files path (path? options.scanLog)

theorem Joins.of_here {command : Timed (List Text)} (same : later.here = files.here)
    (joins : Joins files path command) : Joins later path command where
  dated := joins.dated
  scans := joins.scans
  apart request asked options scans := (joins.apart request asked options scans).of_here same

/-- A command line that was run did not end with a crash of the stream. -/
def Heard (ran : Ran) : Prop :=
  ∀ crash, ran.2.2.ending = .error crash → ¬ ran.2.1.stream.Refuses crash

theorem done_singleton (usual : Settings.Source) (command : Timed (List Text))
    (workspace : Workspace) :
    done usual [command] workspace =
      [(command, { workspace with now := command.now },
        (run command.deed usual { workspace with now := command.now }).1)].filter isDone := rfl

theorem done_append (earlier later : List (Timed (List Text))) (workspace : Workspace) :
    done usual (earlier ++ later) workspace = done usual earlier workspace ++
      done usual later (Session.after (program usual) earlier workspace) := by
  rw [done, Session.answers_append, List.filter_append]
  rfl

theorem not_isDone {command : Timed (List Text)} {workspace : Workspace} {outcome : Outcome}
    (ending : outcome.ending ≠ .ok 0) : ¬ isDone (command, workspace, outcome) = true := by
  unfold isDone
  dsimp only
  split
  case h_1 _ zero => exact absurd zero ending
  case h_2 => exact Bool.false_ne_true

/-- **What one command line does**: it adds an entry if it is done, and leaves them otherwise. -/
theorem books_next {command : Timed (List Text)} (joins : Joins before.files path command)
    (heard : ∀ ran ∈ Session.answers (program usual) [command] before, Heard ran)
    (books : Books path before.files entries) :
    ∃ added, Books path (Session.next (program usual) before command).files (entries ++ added) ∧
      List.Forall₂ (Shows usual) (done usual [command] before) added := by
  have isHeard := heard (command, { before with now := command.now },
    (run command.deed usual { before with now := command.now }).1) (List.mem_singleton_self _)
  rw [done_singleton]
  change ∃ added, Books path (run command.deed usual { before with now := command.now }).2.files
    (entries ++ added) ∧ _
  cases asked : Request.parse command.deed with
  | error halt =>
    have halted : run command.deed usual { before with now := command.now } =
        (halt.outcome before.stream, { before with now := command.now }) := by
      simp only [run, asked]
    refine ⟨[], ?_, ?_⟩
    · rw [halted, List.append_nil]
      exact books
    · rw [List.filter_cons_of_neg (by simp [isDone, asked])]
      exact .nil
  | ok request =>
    obtain ⟨isSome, names⟩ := joins.scans request asked
    obtain ⟨options, scans⟩ := Option.isSome_iff_exists.mp isSome
    obtain ⟨stamp, stamped⟩ := Stamp.exists_stamp joins.dated
    have atNow : Books path (fresh { before with now := command.now }).files entries := books
    rcases books_of_run atNow names scans (joins.apart request asked options scans) stamped with
      ⟨failure, after, failed, holds | ⟨crash, refuses, rfl⟩⟩ |
      ⟨after, runtime, target, number, behind, ran, loaded, targeted, printed, holds⟩
    · obtain ⟨outcome, isRun, ending⟩ := run_of_error asked failed
      rw [isRun]
      refine ⟨[], ?_, ?_⟩
      · rw [List.append_nil]
        exact Or.inr holds
      · rw [List.filter_cons_of_neg (not_isDone ending)]
        exact .nil
    · -- the command line would have ended with a crash of the stream
      exact absurd refuses (isHeard crash (congrArg (·.1.ending) (run_of_crash asked failed)))
    · have isRun := run_of_ok asked ran
      rw [isRun]
      refine ⟨_, Or.inr holds, ?_⟩
      rw [List.filter_cons_of_pos (by simp [isDone, asked])]
      exact .cons (.scan asked scans loaded targeted printed stamped number) .nil

theorem leftBy_program (arguments : List Text) (before : Workspace) :
    leftBy (program usual arguments) before =
      match Request.parse arguments with
      | .error _ => before
      | .ok request => leftBy (request.run usual) (fresh before) := by
  change (run arguments usual before).2 = _
  rw [run]
  cases Request.parse arguments with
  | error halt => rfl
  | ok request =>
    dsimp only
    rw [outcomeOf, leftBy, fresh]
    cases request.run usual { before with printed := [] } with
    | ok _ after => rfl
    | error failure after => cases failure <;> rfl

/-- A command line leaves what comes from outside. -/
theorem framed_program (usual : Settings.Source) (arguments : List Text) :
    (program usual arguments).Keeps start.Framed := by
  intro before framed
  rw [leftBy_program]
  cases Request.parse arguments with
  | error halt => exact framed
  | ok request => exact framed_request usual request _ ⟨framed.here, framed.stream⟩

/-- A session of command lines leaves it too. -/
theorem framed_after (usual : Settings.Source) (commands : List (Timed (List Text)))
    (start : Workspace) : start.Framed (Session.after (program usual) commands start) := by
  refine Session.keeps_after (program usual) (fun moment _ before framed => ?_) ⟨rfl, rfl⟩
  exact framed_program usual moment.deed _ ⟨framed.here, framed.stream⟩

/-- Behind every session stand the entries of the command lines that are done. -/
theorem exists_books (usual : Settings.Source) (stands : Store.Stands path start.files none)
    {commands : List (Timed (List Text))}
    (join : ∀ command ∈ commands, Joins start.files path command)
    (heard : ∀ ran ∈ Session.answers (program usual) commands start, Heard ran) :
    ∃ entries, Books path (Session.after (program usual) commands start).files entries ∧
      List.Forall₂ (Shows usual) (done usual commands start) entries := by
  induction commands using List.reverseRecOn with
  | nil => exact ⟨[], Or.inl ⟨rfl, stands⟩, .nil⟩
  | append_singleton commands command ih =>
    rw [Session.answers_append] at heard
    obtain ⟨front, last⟩ := List.forall_mem_append.mp join
    obtain ⟨heardFront, heardLast⟩ := List.forall_mem_append.mp heard
    obtain ⟨entries, books, shown⟩ := ih front heardFront
    have framed := framed_after usual commands start
    have joins := (last command (List.mem_singleton_self command)).of_here framed.here
    obtain ⟨added, booksNext, shownNext⟩ := books_next joins heardLast books
    refine ⟨entries ++ added, ?_, ?_⟩
    · rw [Session.after_append]
      exact booksNext
    · rw [done_append]
      exact List.rel_append shown shownNext

theorem numbers_of_told {recordings : List Trail.Recording}
    (told : List.Forall₂ Tells recordings entries) :
    recordings.map (·.number) = entries.map (·.number) := by
  induction told with
  | nil => rfl
  | cons first rest ih => rw [List.map_cons, List.map_cons, first.number, ih]

/-- Entries are numbered in order, from one on. -/
theorem Books.numbered (books : Books path files entries) :
    entries.map (·.number) = List.range' 1 entries.length := by
  rcases books with ⟨rfl, _⟩ | ⟨_, recordings, _, tallies, told⟩
  · rfl
  · rw [← numbers_of_told told, tallies.numbered, told.length_eq]

/-! ## Lookups -/

/-- The line that a listing prints for a numbered scan of one character. -/
def lineOf (id : Nat) (stamp : Text) (target : CodePoint) (scan : Scan) : Text :=
  "[history] #" ++ Numeral.decimal id ++ " " ++ stamp ++ " profile=" ++
    shownProfile scan.profile ++ " target=" ++ Target.describe target ++ " count=" ++
    Numeral.ofInt scan.count ++ " text=" ++ Text.quoted scan.text

/-- A scan of one character at a time that has a stamp is printed on its line. -/
theorem printScan_of_stamped {scan : Scan} (stamped : Stamp.text scan.createdAt = .ok stamp)
    (one : scan.target = [target]) (id : Nat) :
    printScan id scan = Job.print (lineOf id stamp target scan) := by
  funext before
  have stamps : (Job.ofExcept ((Stamp.text scan.createdAt).mapError fun fault =>
      .crash (.stamp fault)) : Job Text) before = .ok stamp before := by
    rw [stamped]
    rfl
  have shown : shownTarget scan.target before = .ok (Target.describe target) before := by
    rw [one]
    exact shownTarget_of_one target before
  rw [printScan, bind_of_ok stamps, bind_of_ok shown]
  rfl

/-- A recorded scan is printed as its entry. -/
theorem printScan_of_tells {recording : Trail.Recording} {entry : Entry}
    (tells : Tells recording entry) :
    printScan recording.number recording.scan = Job.print entry.line := by
  have line : lineOf recording.number entry.stamp entry.target recording.scan = entry.line := by
    have count : Numeral.ofInt recording.scan.count = Numeral.decimal entry.count := by
      rw [tells.count]
      rfl
    unfold lineOf Entry.line
    rw [tells.number, tells.profile, count, tells.text]
  rw [printScan_of_stamped tells.stamp tells.target, line]

theorem forM_printScan {recordings : List Trail.Recording}
    (told : List.Forall₂ Tells recordings entries) :
    ((recordings.map Trail.Recording.row).forM fun (id, scan) => printScan id scan : Job Unit) =
      Job.printAll (entries.map Entry.line) := by
  induction told with
  | nil => rfl
  | cons first rest ih =>
    rw [List.map_cons, List.map_cons, Job.printAll_cons, ← ih, ← printScan_of_tells first]
    rfl

/-- What a lookup does with the rows that it has read. -/
def printRows (ledger : Text) : List (Nat × Scan) → Job Unit
  | [] => Job.print ("[history] no scans recorded in " ++ ledger)
  | scans => scans.forM fun (id, scan) => printScan id scan

theorem listHistory_eq (ledger : Text) (limit : Int) :
    listHistory ledger limit =
      (do printRows ledger (← Store.scans (.ofText ledger) (some limit)) : Job Unit) := by
  unfold listHistory
  refine congrArg _ (funext fun rows => ?_)
  cases rows <;> rfl

/-- The rows of recordings are listed as their entries. -/
theorem printRows_of_told {recordings : List Trail.Recording} {limit : Nat}
    (told : List.Forall₂ Tells recordings entries) (positive : 1 ≤ limit) (ledger : Text) :
    printRows ledger
        (Ledger.limited (some (limit : Int)) (recordings.map Trail.Recording.row).reverse) =
      Job.printAll (listing ledger limit entries) := by
  have rows : Ledger.limited (some (limit : Int)) (recordings.map Trail.Recording.row).reverse =
      (recordings.reverse.take limit).map Trail.Recording.row := by
    have notNegative : ¬ (limit : Int) < 0 := by omega
    rw [Ledger.limited, if_neg notNegative, Int.toNat_natCast, List.map_take, List.map_reverse]
  have newest : List.Forall₂ Tells (recordings.reverse.take limit) (entries.reverse.take limit) :=
    List.forall₂_take limit (List.rel_reverse told)
  rw [rows]
  cases entries with
  | nil =>
    rw [List.forall₂_nil_right_iff.mp told, List.reverse_nil, List.take_nil, listing,
      Job.printAll_singleton]
    rfl
  | cons entry others =>
    have printed := forM_printScan newest
    have some_ : recordings.reverse.take limit ≠ [] := by
      have long := told.length_eq
      rw [List.length_cons] at long
      apply List.ne_nil_of_length_pos
      rw [List.length_take, List.length_reverse]
      omega
    obtain ⟨first, rest, shape⟩ := List.exists_cons_of_ne_nil some_
    rw [shape] at printed ⊢
    exact printed

theorem keepsRows_of_setUp (ran : Store.setUp path before = .ok () { before with files }) :
    Store.KeepsRows (some (before.files.spelled path)) before.files files := by
  obtain ⟨others, left, rows⟩ := Store.leftBy_setUp path before
  rw [leftBy_of_ok ran] at left
  cases left
  exact rows

/-- A limit below the bound fits into a column. -/
theorem fits_limit {limit : Nat} (narrow : limit < 0x8000000000000000) :
    (some (limit : Int)).all Ledger.fits = true := by
  rw [Option.all_some, Ledger.fits, Bool.and_eq_true, decide_eq_true_eq, decide_eq_true_eq]
  omega

/-- It can also be written. -/
theorem short_limit {limit : Nat} (narrow : limit < 0x8000000000000000) :
    limit < Nat.pow 10 Numeral.maxDigits := by
  have bound : Nat.pow 10 20 = 100000000000000000000 := by decide
  exact Numeral.lt_pow_of_le (by decide : 20 ≤ Numeral.maxDigits) (by omega)

/-- A lookup prints the newest entries, if the stream takes them, and changes no row. -/
theorem run_history_of_books {ledger : Text} {limit : Nat} (named : ledger ≠ [])
    (books : Books (.ofText ledger) before.files entries) (positive : 1 ≤ limit)
    (narrow : limit < 0x8000000000000000) :
    ∃ files, (Request.history ledger limit).run usual before =
        Job.printAll (listing ledger limit entries) { before with files } ∧
      Books (.ofText ledger) files entries ∧
      Store.KeepsRows (some (before.files.spelled (.ofText ledger))) before.files files := by
  obtain ⟨ready, prepared, holds⟩ := books.setUp
  have kept := keepsRows_of_setUp prepared
  -- what is read is set up once more
  have atReady : Books (.ofText ledger) ({ before with files := ready } : Workspace).files
    entries := Or.inr holds
  obtain ⟨files, again, stays⟩ := atReady.setUp
  have keptThen := keepsRows_of_setUp again
  dsimp only at keptThen
  rw [Files.spelled_of_here kept.here] at keptThen
  obtain ⟨content, recordings, tended, tallies, told⟩ := holds
  have tendedThen : Store.Tended (.ofText ledger)
    ({ before with files := ready } : Workspace).files (some content) := tended
  obtain ⟨left, read⟩ := Store.scans_of_tended tendedThen (fits_limit narrow)
  have leaves := Store.leftBy_scans (.ofText ledger) (some (limit : Int))
    { before with files := ready }
  rw [leftBy_of_ok read, leftBy_of_ok again] at leaves
  have rows : (Store.scansOf (some content)).newestFirst =
      (recordings.map Trail.Recording.row).reverse := congrArg List.reverse tallies.scans
  rw [leaves, rows] at read
  have named : (Request.history ledger limit).ledger? = some (.ofText ledger) := by
    cases ledger with
    | nil => exact absurd rfl named
    | cons first letters => rfl
  rw [← prepare_of_ledger named] at prepared
  refine ⟨files, ?_, Or.inr stays, kept.trans keptThen⟩
  rw [Request.run_eq, bind_of_ok prepared]
  change listHistory ledger limit { before with files := ready } = _
  rw [listHistory_eq, bind_of_ok read, printRows_of_told told positive]

/-- The arguments of a lookup, with a limit that fits into 64 bits. -/
def IsLookup (ledger : Text) (arguments : List Text) : Prop :=
  ∃ limit, 1 ≤ limit ∧ limit < 0x8000000000000000 ∧ arguments = historyArguments ledger limit

/-- A lookup shows the newest entries if the stream takes them, and else it ends with a crash of the
stream. -/
def Replays (stream : Stream) (lines : List Text) (outcome : Outcome) : Prop :=
  (stream.TakesAll [] lines → outcome = { ending := .ok 0, output := Text.written lines }) ∧
    (¬ stream.TakesAll [] lines →
      ∃ crash, stream.Refuses crash ∧ outcome.ending = .error crash)

theorem run_lookup (usual : Settings.Source) {ledger : Text} {limit : Nat}
    (plain : ledger.head? ≠ some '-') (named : ledger ≠ [])
    (books : Books (.ofText ledger) before.files entries)
    (positive : 1 ≤ limit) (narrow : limit < 0x8000000000000000) :
    let ran := run (historyArguments ledger limit) usual before
    Replays before.stream (listing ledger limit entries) ran.1 ∧
      Books (.ofText ledger) ran.2.files entries ∧
      Store.KeepsRows (some (before.files.spelled (.ofText ledger))) before.files ran.2.files := by
  intro ran
  have asked := parse_history plain positive (short_limit narrow)
  have begins : Books (.ofText ledger) (fresh before).files entries := books
  obtain ⟨files, prints, stays, rows⟩ := run_history_of_books named begins positive narrow
  obtain ⟨takes, refuses, left⟩ := run_of_prints asked prints
  have isLeft : ran.2.files = files := left
  rw [isLeft]
  exact ⟨⟨takes, refuses⟩, stays, rows⟩

/-- Lookups add no entries and change no row. -/
theorem books_of_lookups (usual : Settings.Source) {ledger : Text} (plain : ledger.head? ≠ some '-')
    (named : ledger ≠ [])
    (books : Books (.ofText ledger) before.files entries) {lookups : List (Timed (List Text))}
    (look : ∀ lookup ∈ lookups, IsLookup ledger lookup.deed) :
    let after := Session.after (program usual) lookups before
    Books (.ofText ledger) after.files entries ∧
      Store.KeepsRows (some (before.files.spelled (.ofText ledger))) before.files after.files := by
  induction lookups generalizing before with
  | nil => exact ⟨books, .refl _ before.files⟩
  | cons lookup rest ih =>
    obtain ⟨first, others⟩ := List.forall_mem_cons.mp look
    obtain ⟨limit, positive, narrow, isLookup⟩ := first
    have atNow : Books (.ofText ledger) ({ before with now := lookup.now } : Workspace).files
      entries := books
    obtain ⟨_, booksNext, rows⟩ := run_lookup usual plain named atNow positive narrow
    rw [← isLookup] at booksNext rows
    change Books _ (Session.next (program usual) before lookup).files _ at booksNext
    change Store.KeepsRows _ before.files (Session.next (program usual) before lookup).files at rows
    obtain ⟨booksThen, rowsThen⟩ := ih booksNext others
    rw [Files.spelled_of_here rows.here] at rowsThen
    exact ⟨booksThen, rows.trans rowsThen⟩

/-- The empty path leads to a folder. -/
theorem ne_nil_of_stands {ledger : Text} (stands : Store.Stands (.ofText ledger) files none) :
    ledger ≠ [] := by
  rintro rfl
  obtain ⟨made, place, _, located, absent⟩ := stands.vacant
  exact Files.names_ne_nil located (by simp [absent]) rfl

/-- **The history replays what was done.** Let command lines scan with one ledger file, which is not
there at first, at times that can be shown, and let any of them fail, but none because the stream
refuses what it prints. Let their logs be apart from the ledger. Each command line that is done has
its entry: the entries are numbered in order, and each shows the stamp, the profile and the target
of its command line, the count that it printed, and the text in front of the first terminator.
Behind them, a lookup prints the newest entries, as many as there are up to its limit, the last one
first, or else that there are none. However many lookups come before it, it prints the same, and no
lookup changes a row of a ledger that is not beside this one. -/
theorem history_replays {ledger : Text} (usual : Settings.Source)
    (plain : ledger.head? ≠ some '-')
    (stands : Store.Stands (.ofText ledger) start.files none) {commands : List (Timed (List Text))}
    (join : ∀ command ∈ commands, Joins start.files (.ofText ledger) command)
    (heard : ∀ ran ∈ Session.answers (program usual) commands start, Heard ran) :
    ∃ entries : List Entry, List.Forall₂ (Shows usual) (done usual commands start) entries ∧
      entries.map (·.number) = List.range' 1 entries.length ∧
      ∀ lookups : List (Timed (List Text)), (∀ lookup ∈ lookups, IsLookup ledger lookup.deed) →
        ∀ now limit, 1 ≤ limit → limit < 0x8000000000000000 →
          let behind := Session.after (program usual) commands start
          let shown := run (historyArguments ledger limit) usual
            { Session.after (program usual) lookups behind with now }
          Replays start.stream (listing ledger limit entries) shown.1 ∧
            Store.KeepsRows (some (start.files.spelled (.ofText ledger))) behind.files
              shown.2.files := by
  have named := ne_nil_of_stands stands
  obtain ⟨entries, books, shows⟩ := exists_books usual stands join heard
  refine ⟨entries, shows, books.numbered, ?_⟩
  intro lookups look now limit positive narrow behind shown
  obtain ⟨booksThen, rows⟩ := books_of_lookups usual plain named books look
  have atNow : Books (.ofText ledger)
    ({ Session.after (program usual) lookups behind with now } : Workspace).files entries :=
      booksThen
  obtain ⟨replays, _, rowsThen⟩ := run_lookup usual plain named atNow positive narrow
  have framed : start.Framed behind := framed_after usual commands start
  have framedThen : behind.Framed (Session.after (program usual) lookups behind) :=
    framed_after usual lookups behind
  have stream : (Session.after (program usual) lookups behind).stream = start.stream :=
    framedThen.stream.trans framed.stream
  have here : (Session.after (program usual) lookups behind).files.here = start.files.here :=
    framedThen.here.trans framed.here
  dsimp only at rowsThen
  rw [Files.spelled_of_here here] at rowsThen
  rw [Files.spelled_of_here framed.here] at rows
  refine ⟨?_, rows.trans rowsThen⟩
  rw [← stream]
  exact replays

/-- The epoch. -/
def epoch : Instant := ⟨.finite false 0 0, nofun⟩

theorem dated_epoch : Stamp.Dated epoch := ⟨0, Stamp.second_of_zero nofun, by decide, by decide⟩

/-- A count, a count of a text that is not ASCII, and a demo, with one ledger. -/
def threeCommands : List (Timed (List Text)) :=
  [⟨epoch, ["count", "d", "dad", "--sqlite-db", "h"]⟩,
    ⟨epoch, ["count", "d", "\u00e9", "--sqlite-db=h", "--scan-log", "l"]⟩,
    ⟨epoch, ["demo", "--profile", "letter_l", "--sqlite-db", "h"]⟩]

theorem joins_threeCommands : ∀ command ∈ threeCommands, Joins {} (.ofText "h") command := by
  have first : Request.parse ["count", "d", "dad", "--sqlite-db", "h"] =
      .ok (.count "d" (some "dad") { ledger := some "h" }) := by decide +kernel
  have second : Request.parse ["count", "d", "\u00e9", "--sqlite-db=h", "--scan-log", "l"] =
      .ok (.count "d" (some "\u00e9") { ledger := some "h", scanLog := some "l" }) := by
    decide +kernel
  have third : Request.parse ["demo", "--profile", "letter_l", "--sqlite-db", "h"] =
      .ok (.demo { profile := "letter_l", ledger := some "h" }) := by decide +kernel
  intro command member
  rcases List.mem_cons.mp member with rfl | member
  · refine ⟨dated_epoch, fun request asked => ?_, fun request asked => ?_⟩
    · cases first.symm.trans asked
      exact ⟨rfl, rfl⟩
    · cases first.symm.trans asked
      rintro _ ⟨⟩
      decide
  rcases List.mem_cons.mp member with rfl | member
  · refine ⟨dated_epoch, fun request asked => ?_, fun request asked => ?_⟩
    · cases second.symm.trans asked
      exact ⟨rfl, rfl⟩
    · cases second.symm.trans asked
      rintro _ ⟨⟩
      decide
  rcases List.mem_singleton.mp member with rfl
  refine ⟨dated_epoch, fun request asked => ?_, fun request asked => ?_⟩
  · cases third.symm.trans asked
    exact ⟨rfl, rfl⟩
  · cases third.symm.trans asked
    rintro _ ⟨⟩
    decide

/-- Two of them are done, and the last one is listed under the number 2. -/
theorem history_replays_threeCommands :
    let behind := Session.after (program .bundled) threeCommands Run.untouched
    let shown := run (historyArguments "h" 1) .bundled { behind with now := epoch }
    ∃ entries : List Entry, entries.map (·.number) = [1, 2] ∧
      List.Forall₂ (Shows .bundled) (done .bundled threeCommands Run.untouched) entries ∧
      shown.1.output = Text.written (listing "h" 1 entries) ∧
      shown.1.output =
        ("[history] #2 1970-01-01T00:00:00+00:00 profile=letter_l target=l count=2" : Text) ++
          " text='load rel address'\n" := by
  intro behind shown
  have stands : Store.Stands (.ofText "h") Run.untouched.files none :=
    ⟨by decide, {}, [['h']], rfl, rfl, rfl, by decide⟩
  have two : (done .bundled threeCommands Run.untouched).length = 2 := by decide +kernel
  have told : (Session.answers (program .bundled) threeCommands Run.untouched).all
      (·.2.2.ending.toOption.isSome) = true := by decide +kernel
  have heard : ∀ ran ∈ Session.answers (program .bundled) threeCommands Run.untouched,
      Heard ran := by
    intro ran member crash ending
    have some_ := List.all_eq_true.mp told ran member
    rw [ending] at some_
    cases some_
  obtain ⟨entries, shows, numbered, looks⟩ :=
    history_replays .bundled (by decide) stands joins_threeCommands heard
  rw [← shows.length_eq, two] at numbered
  have told := looks [] (List.forall_mem_nil _) epoch 1 (by decide) (by decide)
  dsimp only at told
  rw [Session.after_nil] at told
  refine ⟨entries, numbered, shows, ?_, ?_⟩
  · dsimp only [shown, behind]
    rw [told.1.1 (.of_memory [] _)]
  · decide +kernel

/-- A count that is done, and one whose log is kept in a folder that stands where the ledger's
journal would. -/
def inTheWay : List (Timed (List Text)) :=
  [⟨epoch, ["count", "d", "dad", "--sqlite-db", "h"]⟩,
    ⟨epoch, ["count", "d", "dad", "--sqlite-db", "h", "--scan-log", "h-journal/l"]⟩]

/-- The scan of the first one is recorded, but no lookup can open the ledger behind the second. -/
theorem history_of_inTheWay_unlisted :
    let behind := Session.after (program .bundled) inTheWay Run.untouched
    let shown := (run (historyArguments "h" 1) .bundled { behind with now := epoch }).1
    Store.Stands (.ofText "h") Run.untouched.files none ∧
      (∀ command ∈ inTheWay, ∃ options, Stamp.Dated command.now ∧
        Request.parse command.deed = .ok (.count "d" (some "dad") options) ∧
        options.ledger = some "h") ∧
      (done .bundled inTheWay Run.untouched).length = 1 ∧
      shown.ending = .ok 2 ∧
      shown.errors =
        "error: [IO_ERROR] Cannot initialize in SQLite file 'h': disk I/O error\n" := by
  intro behind shown
  have first : Request.parse ["count", "d", "dad", "--sqlite-db", "h"] =
      .ok (.count "d" (some "dad") { ledger := some "h" }) := by decide +kernel
  have second : Request.parse
      ["count", "d", "dad", "--sqlite-db", "h", "--scan-log", "h-journal/l"] =
        .ok (.count "d" (some "dad") { ledger := some "h", scanLog := some "h-journal/l" }) := by
    decide +kernel
  refine ⟨⟨by decide, {}, [['h']], rfl, rfl, rfl, by decide⟩, ?_, ?_, ?_⟩
  · intro command member
    rcases List.mem_cons.mp member with rfl | member
    · exact ⟨_, dated_epoch, first, rfl⟩
    · rcases List.mem_singleton.mp member with rfl
      exact ⟨_, dated_epoch, second, rfl⟩
  · decide +kernel
  · decide +kernel

end CharTally.CommandLine
