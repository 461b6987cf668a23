import CharTally.CommandLine.Page
import CharTally.Run
import CharTally.Stamp

/-!
The command line: three commands over the same run.

`demo` runs a profile and sums it up in a line of its own, `count` counts a target
in a text, and `history` lists the newest scans of a ledger. A ledger that is
named is set up before anything else is done. What a command prints stays
printed, even if it fails later; a fault is told on the error stream and ends the
program with the status 2. The error stream takes every text.
-/

namespace CharTally.CommandLine

/-! ## Values of switches -/

/-- The path that a value names. The empty value names none. -/
def path? : Option Text → Option FilePath
  | none | some [] => none
  | some value => some (.ofText value)

namespace Options

/-- Where the settings come from: the file that is named, or else the usual ones. -/
def source (usual : Settings.Source) (options : Options) : Settings.Source :=
  (path? options.config).elim usual .file

/-- Where reports go; opens the scan log. -/
def openSinks (options : Options) : Job Sinks := do
  let log ← ScanLog.start (path? options.scanLog)
  return { reporter := .print, log, ledger := path? options.ledger,
           profile := some options.profile }

end Options

/-! ## Commands -/

/-- A target as a line shows it. -/
def shownTarget (target : Text) : Job Text :=
  match Target.describe? target with
  | some shown => pure shown
  | none => throw (.crash (.notOneCharacter target.length))

/-- Runs a profile, and sums up what it found. -/
def runDemo (usual : Settings.Source) (options : Options) : Job Unit := do
  let sinks ← options.openSinks
  let report ← Run.profile options.profile (options.source usual) sinks
  Job.print ("[demo] profile=" ++ options.profile ++ " target=" ++ (← shownTarget report.target) ++
    " count=" ++ Numeral.ofInt report.count)

/-- Counts a target in a text, or else in the text of the profile. -/
def runCount (usual : Settings.Source) (literal : Text) (text : Option Text) (options : Options) :
    Job Unit := do
  let runtime ← Job.ofExcept
    (Settings.loadRuntime (← get).files (options.source usual) (some options.profile))
  match Target.parse literal with
  | .error trouble => throw (.ofTarget literal trouble)
  | .ok target =>
    let sinks ← options.openSinks
    discard (Run.count [target] (text.getD runtime.profile.text) runtime.wording sinks)

/-- The profile of a scan in a listing. -/
def shownProfile : Option Text → Text
  | none | some [] => "-"
  | some profile => profile

/-- Prints a scan of a listing. -/
def printScan (id : Nat) (scan : Scan) : Job Unit := do
  let stamp ← Job.ofExcept
    ((Stamp.text scan.createdAt).mapError fun fault => .crash (.stamp fault))
  let shown ← shownTarget scan.target
  Job.print ("[history] #" ++ Numeral.decimal id ++ " " ++ stamp ++
    " profile=" ++ shownProfile scan.profile ++ " target=" ++ shown ++
    " count=" ++ Numeral.ofInt scan.count ++ " text=" ++ Text.quoted scan.text)

/-- Lists the newest scans of a ledger. -/
def listHistory (ledger : Text) (limit : Int) : Job Unit := do
  match ← Store.scans (.ofText ledger) (some limit) with
  | [] => Job.print ("[history] no scans recorded in " ++ ledger)
  | scans => scans.forM fun (id, scan) => printScan id scan

/-! ## Requests -/

/-- The ledger that a request names. -/
def Request.ledger? : Request → Option FilePath
  | .demo options | .count _ _ options => path? options.ledger
  | .history ledger _ => path? (some ledger)

/-- The paths that a request names. -/
def Request.paths : Request → List FilePath
  | .demo options | .count _ _ options =>
    [path? options.config, path? options.scanLog, path? options.ledger].filterMap id
  | .history ledger _ => [.ofText ledger]

/-- Does what a request asks for. -/
def Request.run (usual : Settings.Source) (request : Request) : Job Unit := do
  match request.ledger? with
  | none => pure ()
  | some ledger => Store.setUp ledger
  match request with
  | .demo options => runDemo usual options
  | .count literal text options => runCount usual literal text options
  | .history ledger limit => listHistory ledger limit

/-! ## The program -/

/-- What can be seen of a run of the program: how it ends, and what it writes on its two streams. -/
structure Outcome where
  ending : Except Crash Nat
  output : Text := []
  errors : Text := []

/-- The outcome of a command line that asks for no run, on a stream. -/
def Halt.outcome (stream : Stream) : Halt → Outcome
  | .help about =>
    match stream.refusal? [] (Page.help about) with
    | some crash => { ending := .error crash }
    | none => { ending := .ok 0, output := Page.help about }
  | .refused about problem => { ending := .ok 2, errors := Page.refusal about problem }

/-- The outcome of a job. -/
def outcomeOf (job : Job Unit) (workspace : Workspace) : Outcome × Workspace :=
  match job { workspace with printed := [] } with
  | .ok () after => (⟨.ok 0, after.printed, []⟩, after)
  | .error (.reported fault) after =>
    (⟨.ok Fault.status, after.printed, fault.notice⟩, after)
  | .error (.crash crash) after => (⟨.error crash, after.printed, []⟩, after)

/-- Runs the program with arguments. `usual` is where its settings come from when the arguments name
no file. -/
def run (arguments : List Text) (usual : Settings.Source := .bundled) (workspace : Workspace) :
    Outcome × Workspace :=
  match Request.parse arguments with
  | .error halt => (halt.outcome workspace.stream, workspace)
  | .ok request => outcomeOf (request.run usual) workspace

/-- The paths that a command line names. -/
def paths (arguments : List Text) : List FilePath :=
  match Request.parse arguments with
  | .error _ => []
  | .ok request => request.paths

end CharTally.CommandLine
