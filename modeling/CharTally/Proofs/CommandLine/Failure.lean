import CharTally.Proofs.CommandLine.Ending
import CharTally.Proofs.Ledger.Migration

/-!
# Commands that fail

A demo and a count do the same behind the setting up of their ledger: they read their
settings and their target, open their log, scan, and close with what is left to print.
`serve_cases` says where they stop: before the scan, with nothing but folders made, or
by the scan. A listing prints as it goes, but once it prints it reports no fault
(`printScan_neverReports`). So whatever a command reports a fault for, it has printed
nothing and every ledger has its rows (`untold_of_run`).
-/

namespace CharTally.CommandLine

variable {usual : Settings.Source} {request : Request} {options : Options}
  {start before after : Workspace} {failure : Failure} {fault : Fault}

/-! ## Requests that scan -/

/-- The sinks are opened or not, and folders are made at most. -/
theorem openSinks_cases (options : Options) (before : Workspace) :
    ∃ opened, Files.GrowsOn (path? options.scanLog) before.files opened ∧
      (options.openSinks before = .ok options.sinks { before with files := opened } ∨
        ∃ failure, options.openSinks before = .error failure { before with files := opened }) := by
  obtain ⟨opened, left, grown⟩ := ScanLog.leftBy_start (path? options.scanLog) before
  refine ⟨opened, grown, ?_⟩
  cases started : ScanLog.start (path? options.scanLog) before with
  | ok log unlocked =>
    rw [leftBy_of_ok started] at left
    have opens : options.openSinks before =
        .ok ⟨.print, log, path? options.ledger, some options.profile⟩ unlocked :=
      bind_eq_ok.mpr ⟨log, unlocked, started, rfl⟩
    rw [(openSinks_eq_ok opens).1, left] at opens
    exact Or.inl opens
  | error failure stopped =>
    rw [leftBy_of_error started] at left
    rw [left] at started
    exact Or.inr ⟨failure, bind_eq_error.mpr (Or.inl started)⟩

namespace Request

/-- What is done behind a scan: a demo sums up what it found. -/
def close (report : Report) : Request → Job Unit
  | .demo options => do
    Job.print ("[demo] profile=" ++ options.profile ++ " target=" ++
      (← shownTarget report.target) ++ " count=" ++ Numeral.ofInt report.count)
  | _ => pure ()

/-- The scan of a request, and what is done behind it. -/
def scan (options : Options) (runtime : Settings.Runtime) (target : CodePoint) (request : Request) :
    Job Unit := do
  let report ← Run.count [target] (request.scanned runtime) runtime.wording options.sinks
  request.close report

end Request

/-- A step may be replaced by one that does the same where it is taken. -/
theorem bind_congr_left {ε σ α β : Type} {first other : EStateM ε σ α} {state : σ}
    (same : first state = other state) (second : α → EStateM ε σ β) :
    (first >>= second) state = (other >>= second) state := by
  change EStateM.bind first second state = EStateM.bind other second state
  rw [EStateM.bind, EStateM.bind, same]

/-- An answer is discarded by doing nothing with it. -/
theorem discard_eq_bind {ε σ α : Type} (work : EStateM ε σ α) (state : σ) :
    discard work state = (do let _ ← work; pure () : EStateM ε σ Unit) state := by
  change EStateM.map _ work state = EStateM.bind work _ state
  rw [EStateM.map, EStateM.bind]
  cases work state with
  | ok value left => rfl
  | error failure left => rfl

/-- How a request that scans is served: it stops with nothing but folders made, or it comes to its
scan, with the settings and the target that it read. -/
inductive Serves (usual : Settings.Source) (request : Request) (options : Options)
    (start before : Workspace) : Prop
  | stops {failure : Failure} {opened : Files}
      (stopped : request.serve usual before = .error failure { before with files := opened })
      (grown : Files.GrowsOn (path? options.scanLog) before.files opened)
  | scans {opened : Files} {runtime : Settings.Runtime} {target : CodePoint}
      (loaded : Settings.loadRuntime (request.settled start).files (options.source usual)
        (some options.profile) = .ok runtime)
      (targeted : request.target? runtime = some target)
      (served : request.serve usual before =
        request.scan options runtime target { before with files := opened })
      (grown : Files.GrowsOn (path? options.scanLog) before.files opened)

theorem serves_demo (ready : leftBy (Request.prepare (.demo options)) start = before) :
    Serves usual (.demo options) options start before := by
  obtain ⟨opened, grown, opens | ⟨failure, unopened⟩⟩ := openSinks_cases options before
  · have settled : (Request.demo options).settled start = { before with files := opened } := by
      rw [Request.settled, ready, leftBy_of_ok opens]
    cases loaded : Settings.loadRuntime opened (options.source usual) (some options.profile) with
    | error failure =>
      have failed : Run.profile options.profile (options.source usual) options.sinks
          { before with files := opened } = .error failure { before with files := opened } :=
        Run.profile_of_unloaded options.sinks loaded
      exact .stops (bind_eq_error.mpr (Or.inr ⟨_, _, opens, bind_eq_error.mpr (Or.inl failed)⟩))
        grown
    | ok runtime =>
      have profiled : Run.profile options.profile (options.source usual) options.sinks
          { before with files := opened } =
            Run.count [runtime.profile.target] runtime.profile.text runtime.wording options.sinks
              Run.scanning { before with files := opened } :=
        Run.profile_of_loaded options.sinks loaded
      refine .scans (by rw [settled]; exact loaded) rfl ?_ grown
      change runDemo usual options before = _
      rw [runDemo, bind_of_ok opens]
      exact bind_congr_left profiled _
  · exact .stops (bind_eq_error.mpr (Or.inl unopened)) grown

/-- Once its settings are loaded, a count reads its target, opens its log and scans. -/
theorem runCount_of_loaded {runtime : Settings.Runtime} (literal : Text) (text : Option Text)
    (loaded : Settings.loadRuntime before.files (options.source usual) (some options.profile) =
      .ok runtime) :
    runCount usual literal text options before =
      (match Target.parse literal with
        | .error trouble => throw (.ofTarget literal trouble)
        | .ok target => do
          let sinks ← options.openSinks
          discard (Run.count [target] (text.getD runtime.profile.text) runtime.wording sinks) :
        Job Unit) before := by
  rw [runCount, bind_of_ok (rfl : (get : Job Workspace) before = _), loaded]
  rfl

theorem serves_count {literal : Text} {text : Option Text}
    (ready : leftBy (Request.prepare (.count literal text options)) start = before) :
    Serves usual (.count literal text options) options start before := by
  have settled : (Request.count literal text options).settled start = before := ready
  cases loaded :
    Settings.loadRuntime before.files (options.source usual) (some options.profile) with
  | error failure =>
    have stopped : runCount usual literal text options before = .error failure before := by
      rw [runCount, bind_of_ok (rfl : (get : Job Workspace) before = _), loaded]
      rfl
    exact .stops stopped (.refl _ before.files)
  | ok runtime =>
    have onward := runCount_of_loaded literal text loaded
    cases parsed : Target.parse literal with
    | error trouble =>
      rw [parsed] at onward
      exact .stops onward (.refl _ before.files)
    | ok target =>
      rw [parsed] at onward
      obtain ⟨opened, grown, opens | ⟨failure, unopened⟩⟩ := openSinks_cases options before
      · have targeted : (Request.count literal text options).target? runtime = some target := by
          rw [Request.target?, parsed]
          rfl
        refine .scans (by rw [settled]; exact loaded) targeted ?_ grown
        refine onward.trans ?_
        dsimp only
        rw [bind_of_ok opens]
        exact discard_eq_bind _ _
      · exact .stops (onward.trans (bind_eq_error.mpr (Or.inl unopened))) grown

/-- What becomes of every request that scans. -/
theorem serve_cases (scans : request.options? = some options)
    (ready : leftBy request.prepare start = before) :
    Serves usual request options start before := by
  cases request with
  | demo others => cases scans; exact serves_demo ready
  | count literal text others => cases scans; exact serves_count ready
  | history ledger limit => cases scans

/-! ## What is left behind a fault -/

/-- Work that may crash, but not with a fault that it reports. -/
def NeverReports {α : Type} (job : Job α) : Prop :=
  ∀ before fault after, job before ≠ .error (.reported fault) after

theorem NeverReports.bind {α β : Type} {first : Job α} {second : α → Job β}
    (never : NeverReports first) (then_ : ∀ value, NeverReports (second value)) :
    NeverReports (first >>= second) := by
  intro before fault after failed
  rcases bind_eq_error.mp failed with stopped | ⟨value, middle, _, stopped⟩
  · exact never before fault after stopped
  · exact then_ value middle fault after stopped

/-- A stream refuses with a crash. -/
theorem print_neverReports (line : Text) : NeverReports (Job.print line) := by
  intro before fault after failed
  obtain ⟨_, _, same, _⟩ := Job.print_eq_error failed
  cases same

theorem shownTarget_neverReports (target : Text) : NeverReports (shownTarget target) := by
  intro before fault after failed
  unfold shownTarget at failed
  cases described : Target.describe? target with
  | some shown => rw [described] at failed; cases failed
  | none => rw [described] at failed; cases failed

/-- Behind its scan, a request does not report a fault. -/
theorem close_neverReports (report : Report) (request : Request) :
    NeverReports (request.close report) := by
  cases request with
  | demo options =>
    exact (shownTarget_neverReports report.target).bind fun _ => print_neverReports _
  | count literal text options => exact fun _ _ _ failed => nomatch failed
  | history ledger limit => exact fun _ _ _ failed => nomatch failed

/-- The place of the ledger that a request works on. -/
def Request.home (files : Files) : Request → Option Place
  | .demo options | .count _ _ options => (path? options.ledger).map files.spelled
  | .history ledger _ => some (files.spelled (.ofText ledger))

theorem home_of_here {files later : Files} (same : later.here = files.here) (request : Request) :
    request.home later = request.home files := by
  have spelled : later.spelled = files.spelled := funext (Files.spelled_of_here same)
  cases request <;> simp only [Request.home, spelled]

theorem untold_of_prepare (request : Request) (before : Workspace) :
    Run.Untold (request.home before.files) before (leftBy request.prepare before) := by
  obtain ⟨files, left, rows⟩ := leftBy_prepare request before
  refine .of_files ⟨files, left, ?_⟩
  cases request with
  | demo options => exact rows
  | count literal text options => exact rows
  | history ledger limit =>
    cases ledger with
    | nil => exact rows.of_none _
    | cons first rest => exact rows

/-- The ledger of a request that scans is among its sinks. -/
theorem home_of_options {files : Files} (scans : request.options? = some options) :
    request.home files = options.sinks.ledger.map files.spelled := by
  cases request with
  | demo other => cases scans; rfl
  | count literal text other => cases scans; rfl
  | history ledger limit => cases scans

/-- A scan for which a request reports a fault is untold. -/
theorem untold_of_serves (scans : request.options? = some options)
    (ready : leftBy request.prepare start = before)
    (failed : request.serve usual before = .error (.reported fault) after) :
    Run.Untold (request.home before.files) before after := by
  cases serve_cases scans ready with
  | stops stopped grown =>
    cases stopped.symm.trans failed
    exact .of_files ⟨_, rfl, (Store.KeepsRows.of_grows grown.toGrows).of_none _⟩
  | @scans opened runtime target loaded targeted served grown =>
    have folders : Run.Untold (request.home before.files) before { before with files := opened } :=
      .of_files ⟨_, rfl, (Store.KeepsRows.of_grows grown.toGrows).of_none _⟩
    rw [served] at failed
    rcases bind_eq_error.mp failed with unscanned | ⟨report, told, _, unclosed⟩
    · rcases Run.untold_of_count unscanned with untold | ⟨_, same, _⟩
      · rw [← home_of_options scans, home_of_here grown.here] at untold
        exact folders.trans untold
      · cases same
    · exact absurd unclosed (close_neverReports report request told fault after)

/-- Once a listing prints scans, it does not report a fault. -/
theorem printScan_neverReports (id : Nat) (scan : Scan) : NeverReports (printScan id scan) := by
  refine .bind ?_ fun stamp => (shownTarget_neverReports _).bind fun _ => print_neverReports _
  intro before fault after failed
  cases stamped : Stamp.text scan.createdAt with
  | ok stamp => rw [stamped] at failed; cases failed
  | error why => rw [stamped] at failed; cases failed

theorem forM_neverReports {α : Type} {job : α → Job PUnit}
    (never : ∀ item, NeverReports (job item)) (items : List α) : NeverReports (items.forM job) := by
  induction items with
  | nil => exact fun _ _ _ failed => nomatch failed
  | cons item rest ih => exact (never item).bind fun _ => ih

/-- A listing reports a fault only if it cannot read the scans. -/
theorem untold_of_listHistory {ledger : Text} {limit : Int}
    (failed : listHistory ledger limit before = .error (.reported fault) after) :
    Run.Untold (some (before.files.spelled (.ofText ledger))) before after := by
  rcases bind_eq_error.mp failed with unread | ⟨rows, read, _, unprinted⟩
  · have left := Store.leftBy_scans (.ofText ledger) (some limit) before
    rw [leftBy_of_error unread] at left
    rw [left]
    exact .of_files (Store.leftBy_setUp (.ofText ledger) before)
  · cases rows with
    | nil => exact absurd unprinted (print_neverReports _ read fault after)
    | cons first rest =>
      have never (row : Nat × Scan) : NeverReports (printScan row.1 row.2) :=
        printScan_neverReports row.1 row.2
      exact absurd unprinted (forM_neverReports never (first :: rest) read fault after)

/-- A request that reports a fault has printed nothing, and every ledger has its rows. -/
theorem untold_of_run (failed : request.run usual before = .error (.reported fault) after) :
    Run.Untold (request.home before.files) before after := by
  have prepared := untold_of_prepare request before
  rw [Request.run_eq] at failed
  rcases bind_eq_error.mp failed with unprepared | ⟨_, ready, ran, unserved⟩
  · rw [leftBy_of_error unprepared] at prepared
    exact prepared
  · rw [leftBy_of_ok ran] at prepared
    refine prepared.trans ?_
    rw [← home_of_here prepared.rows.here]
    cases request with
    | demo options => exact untold_of_serves rfl (leftBy_of_ok ran) unserved
    | count literal text options => exact untold_of_serves rfl (leftBy_of_ok ran) unserved
    | history ledger limit => exact untold_of_listHistory unserved

/-! ## How the program ends -/

/-- A request that is done ends the program with the status 0, and with what it printed. -/
theorem run_of_ok {arguments : List Text} {workspace : Workspace}
    (asked : Request.parse arguments = .ok request)
    (ran : request.run usual (fresh workspace) = .ok () after) :
    run arguments usual workspace = ({ ending := .ok 0, output := after.printed }, after) := by
  rw [fresh] at ran
  simp only [run, asked, outcomeOf, ran]

/-- A request that reports a fault ends the program with the status 2, and with its notice. -/
theorem run_of_fault {arguments : List Text} {workspace : Workspace}
    (asked : Request.parse arguments = .ok request)
    (failed : request.run usual (fresh workspace) = .error (.reported fault) after) :
    run arguments usual workspace = (⟨.ok 2, after.printed, fault.notice⟩, after) := by
  rw [fresh] at failed
  simp only [run, asked, outcomeOf, failed]
  rfl

/-- A request that crashes ends the program with the crash. -/
theorem run_of_crash {arguments : List Text} {workspace : Workspace} {crash : Crash}
    (asked : Request.parse arguments = .ok request)
    (failed : request.run usual (fresh workspace) = .error (.crash crash) after) :
    run arguments usual workspace = (⟨.error crash, after.printed, []⟩, after) := by
  rw [fresh] at failed
  simp only [run, asked, outcomeOf, failed]

/-- A request for lines ends the program with the status 0 if the stream takes them, and else with
a crash of the stream. -/
theorem run_of_prints {arguments lines : List Text} {workspace : Workspace} {files : Files}
    (asked : Request.parse arguments = .ok request)
    (prints : request.run usual (fresh workspace) =
      Job.printAll lines { fresh workspace with files }) :
    let ran := run arguments usual workspace
    (workspace.stream.TakesAll [] lines →
        ran.1 = { ending := .ok 0, output := Text.written lines }) ∧
      (¬ workspace.stream.TakesAll [] lines →
        ∃ crash, workspace.stream.Refuses crash ∧ ran.1.ending = .error crash) ∧
      ran.2.files = files := by
  intro ran
  cases printed : Job.printAll lines { fresh workspace with files } with
  | ok _ after =>
    obtain ⟨takes, rfl⟩ := Job.printAll_eq_ok.mp printed
    have told : ran = _ := run_of_ok asked (prints.trans printed)
    rw [told]
    exact ⟨fun _ => rfl, fun refuses => absurd takes refuses, rfl⟩
  | error failure after =>
    obtain ⟨crash, _, refuses, rfl, rfl⟩ := Job.printAll_eq_error printed
    have told : ran = _ := run_of_crash asked (prints.trans printed)
    rw [told]
    refine ⟨fun takes => ?_, fun _ => ⟨crash, refuses, rfl⟩, rfl⟩
    have taken : Job.printAll lines { fresh workspace with files } = _ :=
      Job.printAll_eq_ok.mpr ⟨takes, rfl⟩
    cases printed.symm.trans taken

/-- The status 2 of a job is that of a fault, and the fault is told on the error stream. -/
theorem outcomeOf_fault {job : Job Unit} {workspace : Workspace}
    (ended : (outcomeOf job workspace).1.ending = .ok 2) :
    ∃ fault, job (fresh workspace) = .error (.reported fault) (outcomeOf job workspace).2 ∧
      (outcomeOf job workspace).1 =
        ⟨.ok 2, (outcomeOf job workspace).2.printed, fault.notice⟩ := by
  rw [fresh]
  cases ran : job { workspace with printed := [] } with
  | ok _ left =>
    simp only [outcomeOf, ran] at ended
    cases ended
  | error failure left =>
    cases failure with
    | crash crash =>
      simp only [outcomeOf, ran] at ended
      cases ended
    | reported fault =>
      simp only [outcomeOf, ran]
      exact ⟨fault, rfl, rfl⟩

/-- A request that fails does not end the program with the status 0. -/
theorem run_of_error {arguments : List Text} {workspace : Workspace}
    (asked : Request.parse arguments = .ok request)
    (failed : request.run usual (fresh workspace) = .error failure after) :
    ∃ outcome, run arguments usual workspace = (outcome, after) ∧ outcome.ending ≠ .ok 0 := by
  cases failure with
  | reported fault =>
    refine ⟨_, run_of_fault asked failed, ?_⟩
    intro same
    cases same
  | crash crash =>
    refine ⟨_, run_of_crash asked failed, ?_⟩
    intro same
    cases same

/-- **A failing command has no visible result.** Whatever the arguments and whatever stands in the
workspace: if they ask for a run and it ends with the status 2, then a fault was reported, it is all
that is written on the error stream, nothing is on the output, and every ledger has the scans and
the audit trail that it had, except where the store keeps files of its own beside the ledger of the
run. If they ask for no run, because they are refused or ask for help, the workspace is as it
was. -/
theorem failing_command_untold (arguments : List Text) (usual : Settings.Source)
    (workspace : Workspace) :
    let outcome := (run arguments usual workspace).1
    let after := (run arguments usual workspace).2
    (∀ request, Request.parse arguments = .ok request → outcome.ending = .ok 2 →
      ∃ fault, request.run usual (fresh workspace) = .error (.reported fault) after ∧
        outcome.output = [] ∧ outcome.errors = "error: " ++ fault.message ++ "\n" ∧
        Store.KeepsRows (request.home workspace.files) workspace.files after.files) ∧
      ∀ halt, Request.parse arguments = .error halt →
        outcome = halt.outcome workspace.stream ∧ after = workspace := by
  intro outcome after
  constructor
  · intro request asked ended
    have isRun : run arguments usual workspace = outcomeOf (request.run usual) workspace := by
      simp only [run, asked]
    dsimp only [outcome, after] at ended ⊢
    rw [isRun] at ended ⊢
    obtain ⟨fault, failed, told⟩ := outcomeOf_fault ended
    have untold := untold_of_run failed
    rw [told]
    exact ⟨fault, failed, untold.printed, rfl, untold.rows⟩
  · intro halt asked
    have isHalt : run arguments usual workspace = (halt.outcome workspace.stream, workspace) := by
      simp only [run, asked]
    dsimp only [outcome, after]
    rw [isHalt]
    exact ⟨rfl, rfl⟩

/-- A count with a log and a ledger, of a text that is not ASCII. -/
def beyondAscii : List Text :=
  ["count", "d", "\u00e9", "--sqlite-db", "h", "--scan-log", "f/l"]

/-- The folder of the log is made before the text is refused, and the scan in the ledger stays. A
count of nothing is refused, and touches nothing. -/
theorem failing_command_untold_beyondAscii :
    let outcome := (run beyondAscii .bundled Run.busy).1
    let after := (run beyondAscii .bundled Run.busy).2
    outcome.ending = .ok 2 ∧ outcome.output = [] ∧ after.files ≠ Run.busy.files ∧
      Store.rowsAt after.files [['h']] = Store.rowsAt Run.busy.files [['h']] ∧
      (run [Command.count.word] .bundled Run.busy).2 = Run.busy := by
  intro outcome after
  have request : ∃ request, Request.parse beyondAscii = .ok request ∧
      request.home Run.busy.files = some ([['h']] : Place) := ⟨_, rfl, rfl⟩
  have refused : ∃ halt, Request.parse [Command.count.word] = .error halt := ⟨_, rfl⟩
  have ended : outcome.ending = .ok 2 ∧ after.files ≠ Run.busy.files := by decide +kernel
  obtain ⟨request, asked, home⟩ := request
  obtain ⟨halt, halted⟩ := refused
  obtain ⟨fault, _, untold, _, rows⟩ :=
    (failing_command_untold beyondAscii .bundled Run.busy).1 request asked ended.1
  rw [home] at rows
  have untouched :=
    ((failing_command_untold [Command.count.word] .bundled Run.busy).2 halt halted).2
  exact ⟨ended.1, untold, ended.2, rows.own, untouched⟩

/-- A ledger with a scan, beside the place of another. -/
def journaled : Workspace where
  files := { entries := [([['h', '-', 'j', 'o', 'u', 'r', 'n', 'a', 'l']],
    .ledger ⟨some [⟨1, .last⟩], some ⟨1, [(1, ⟨['a'], ['a'], 1, none, .last⟩)]⟩, some {}⟩)] }
  now := .last

/-- A command that fails and opens the other ledger takes the one beside it for its journal, and the
scan is gone. -/
theorem rows_lost_beside_ledger :
    let place : Place := [['h', '-', 'j', 'o', 'u', 'r', 'n', 'a', 'l']]
    let arguments : List Text := ["count", "dd", "--sqlite-db", "h"]
    (run arguments .bundled journaled).1.ending = .ok 2 ∧
      (Store.rowsAt journaled.files place).1.length = 1 ∧
      (Store.rowsAt (run arguments .bundled journaled).2.files place).1.length = 0 := by
  decide +kernel

end CharTally.CommandLine
