import CharTally.CommandLine
import CharTally.Proofs.Files.Room
import CharTally.Proofs.Run.Crash

/-!
# How the program ends

`Told` lists the endings that a user is told about: help, a word about the command
line, a run that is done, and a fault with its notice. `Escapes` lists what a request
and the workspace hold in store that ends a run otherwise, with a crash that nobody
tells about. Besides these, the stream may refuse what is printed, the help included.
`run_told_or_escapes` says that there is nothing else.
-/

namespace CharTally.CommandLine

variable {usual : Settings.Source} {before after : Workspace} {options : Options}

/-! ## Endings -/

/-- The endings that the command line is told about. -/
inductive Told (arguments : List Text) : Outcome → Prop
  | help {about : Option Command} (asked : Request.parse arguments = .error (.help about)) :
      Told arguments ⟨.ok 0, Page.help about, []⟩
  | refused {about : Option Command} {problem : Problem}
      (asked : Request.parse arguments = .error (.refused about problem)) :
      Told arguments ⟨.ok 2, [], Page.refusal about problem⟩
  | done {request : Request} {output : Text} (asked : Request.parse arguments = .ok request) :
      Told arguments ⟨.ok 0, output, []⟩
  | fault {request : Request} {output : Text} {fault : Fault}
      (asked : Request.parse arguments = .ok request) :
      Told arguments ⟨.ok 2, output, fault.notice⟩

/-- The workspace in which a run begins. -/
def fresh (workspace : Workspace) : Workspace := { workspace with printed := [] }

/-! ## What a request begins with -/

namespace Request

/-- The options of a request that scans. -/
def options? : Request → Option Options
  | .demo options | .count _ _ options => some options
  | .history _ _ => none

/-- What is done first: the ledger that is named is set up. -/
def prepare (request : Request) : Job Unit :=
  match request.ledger? with
  | none => pure ()
  | some ledger => Store.setUp ledger

/-- What is done then. -/
def serve (usual : Settings.Source) : Request → Job Unit
  | .demo options => runDemo usual options
  | .count literal text options => runCount usual literal text options
  | .history ledger limit => listHistory ledger limit

theorem run_eq (usual : Settings.Source) (request : Request) :
    request.run usual = (do request.prepare; request.serve usual : Job Unit) := by
  unfold run prepare
  generalize request.ledger? = named
  cases named <;> cases request <;> rfl

/-- The workspace in which a request reads its settings: its ledger is set up, and a demo has opened
its log. -/
def settled (request : Request) (before : Workspace) : Workspace :=
  match request with
  | .demo options => leftBy options.openSinks (leftBy (prepare (.demo options)) before)
  | other => leftBy other.prepare before

/-- The text that a request scans. -/
def scanned (runtime : Settings.Runtime) : Request → Text
  | .count _ text _ => text.getD runtime.profile.text
  | _ => runtime.profile.text

/-- The target of a request that scans: that of the profile, or the one that its literal is read
as. -/
def target? (runtime : Settings.Runtime) : Request → Option CodePoint
  | .demo _ => some runtime.profile.target
  | .count literal _ _ => (Target.parse literal).toOption
  | .history _ _ => none

end Request

/-- The scans that a listing shows. -/
def listed (ledger : Text) (limit : Int) (files : Files) : List (Nat × Scan) :=
  Ledger.limited (some limit) (Store.rowsAt files (files.spelled (.ofText ledger))).1.reverse

/-! ## What escapes -/

/-- Why a request ends with a crash: a path that cannot be used, settings that crash, a text that is
huge, the code of a target that no sentence can hold, a target or the name of a profile that has no
bytes to put into a row, a limit that is too wide, a scan in the listing with a time or a target
that cannot be shown, or a stream that refuses what is printed. -/
inductive Escapes (usual : Settings.Source) (before : Workspace) : Request → Crash → Prop
  | unusable {request : Request} {path : FilePath} {why : Unworkable}
      (named : path ∈ request.paths) (spoils : Files.Spoils path why) :
      Escapes usual before request (.ofUnworkable why)
  | settings {request : Request} {options : Options} {crash : Crash}
      (scans : request.options? = some options)
      (escapes : Settings.Escapes (request.settled before).files (options.source usual)
        (some options.profile) crash) : Escapes usual before request crash
  | hugeText {request : Request} {options : Options} {runtime : Settings.Runtime} {crash : Crash}
      (scans : request.options? = some options)
      (loaded : Settings.loadRuntime (request.settled before).files (options.source usual)
        (some options.profile) = .ok runtime)
      (huge : Run.IsHuge (request.scanned runtime))
      (isNumber : crash = .integerTooWide ∨ crash = .integerTooLong) :
      Escapes usual before request crash
  | longCode {literal : Text} {text : Option Text} {options : Options}
      (long : Target.parse literal = .error .codeTooLong) :
      Escapes usual before (.count literal text options) .integerTooLong
  | unbound {request : Request} {options : Options} {runtime : Settings.Runtime}
      {target : CodePoint} {fault : Utf8.Unencodable} (scans : request.options? = some options)
      (loaded : Settings.loadRuntime (request.settled before).files (options.source usual)
        (some options.profile) = .ok runtime)
      (targeted : request.target? runtime = some target)
      (kept : (path? options.ledger).isSome = true)
      (broken : target.isHalf = true ∨ options.profile.isWhole = false) :
      Escapes usual before request (.unencodable fault)
  | wideLimit {ledger : Text} {limit : Int} (wide : Ledger.fits limit = false) :
      Escapes usual before (.history ledger limit) .integerTooWide
  | stamp {ledger : Text} {limit : Int} {id : Nat} {scan : Scan} {fault : StampFault}
      (isListed : (id, scan) ∈ listed ledger limit before.files)
      (unshown : Stamp.text scan.createdAt = .error fault) :
      Escapes usual before (.history ledger limit) (.stamp fault)
  | target {ledger : Text} {limit : Int} {id : Nat} {scan : Scan}
      (isListed : (id, scan) ∈ listed ledger limit before.files)
      (unshown : Target.describe? scan.target = none) :
      Escapes usual before (.history ledger limit) (.notOneCharacter scan.target.length)
  | refused {request : Request} {crash : Crash} (refuses : before.stream.Refuses crash) :
      Escapes usual before request crash

/-! ## The commands -/

/-- What is done first changes nothing but files, and keeps the rows of every ledger in them that is
not beside its own. -/
theorem leftBy_prepare (request : Request) (before : Workspace) :
    ∃ files, leftBy request.prepare before = { before with files } ∧
      Store.KeepsRows (request.ledger?.map before.files.spelled) before.files files := by
  unfold Request.prepare
  cases request.ledger? with
  | none => exact ⟨before.files, rfl, .refl _ _⟩
  | some path => exact Store.leftBy_setUp path before

/-- The sinks that options name. -/
def Options.sinks (options : Options) : Sinks :=
  ⟨.print, ⟨path? options.scanLog⟩, path? options.ledger, some options.profile⟩

/-- The sinks of a request are the paths that it names, and folders are made for them at most. -/
theorem openSinks_eq_ok {sinks : Sinks} (ran : options.openSinks before = .ok sinks after) :
    sinks = options.sinks ∧
      ∃ opened, after = { before with files := opened } ∧ Files.Grows before.files opened := by
  obtain ⟨log, middle, started, answered⟩ := bind_eq_ok.mp ran
  cases answered
  obtain ⟨opened, left, grown⟩ := ScanLog.leftBy_start (path? options.scanLog) before
  rw [leftBy_of_ok started] at left
  refine ⟨?_, opened, left, grown.toGrows⟩
  cases named : path? options.scanLog with
  | none =>
    rw [named] at started
    cases started
    rw [Options.sinks, named]
  | some path =>
    rw [named] at started
    obtain ⟨_, _, _, isLog⟩ := bind_eq_ok.mp started
    cases isLog
    rw [Options.sinks, named]

theorem shownTarget_of_one (target : CodePoint) (before : Workspace) :
    shownTarget [target] before = .ok (Target.describe target) before := rfl

theorem keeps_shownTarget {good : Workspace → Prop} (target : Text) :
    (shownTarget target).Keeps good := by
  unfold shownTarget
  cases Target.describe? target with
  | some shown => exact .of_idle fun _ => rfl
  | none => exact .of_idle fun _ => rfl

section Frames

variable {start : Workspace}

theorem framed_openSinks (options : Options) : options.openSinks.Keeps start.Framed :=
  (Run.framed_start _).bind fun _ => .of_idle fun _ => rfl

theorem framed_runDemo (usual : Settings.Source) (options : Options) :
    (runDemo usual options).Keeps start.Framed :=
  (framed_openSinks options).bind fun _ => (Run.framed_profile _ _ _).bind fun _ =>
    (keeps_shownTarget _).bind fun _ => Job.framed_print _

theorem framed_runCount (usual : Settings.Source) (literal : Text) (text : Option Text)
    (options : Options) : (runCount usual literal text options).Keeps start.Framed := by
  refine .bind_get fun found _ => (Job.Keeps.ofExcept _).bind fun runtime => ?_
  cases Target.parse literal with
  | error trouble => exact .of_idle fun _ => rfl
  | ok target => exact (framed_openSinks options).bind fun _ => (Run.framed_count _ _ _ _ _).map _

theorem framed_printScan (id : Nat) (scan : Scan) : (printScan id scan).Keeps start.Framed :=
  (Job.Keeps.ofExcept _).bind fun _ => (keeps_shownTarget _).bind fun _ => Job.framed_print _

theorem framed_scans (path : FilePath) (limit : Option Int) :
    (Store.scans path limit).Keeps start.Framed :=
  (Run.framed_setUp path).bind fun _ => Run.framed_onLedger _ _ _

theorem framed_listHistory (ledger : Text) (limit : Int) :
    (listHistory ledger limit).Keeps start.Framed := by
  refine (framed_scans _ _).bind fun rows => ?_
  cases rows with
  | nil => exact Job.framed_print _
  | cons first rest => exact .forM fun row => framed_printScan row.1 row.2

theorem framed_prepare (request : Request) : request.prepare.Keeps start.Framed := by
  unfold Request.prepare
  cases request.ledger? with
  | none => exact .of_idle fun _ => rfl
  | some path => exact Run.framed_setUp path

/-- A request leaves what comes from outside. -/
theorem framed_request (usual : Settings.Source) (request : Request) :
    (request.run usual).Keeps start.Framed := by
  rw [Request.run_eq]
  refine (framed_prepare request).bind fun _ => ?_
  cases request with
  | demo options => exact framed_runDemo usual options
  | count literal text options => exact framed_runCount usual literal text options
  | history ledger limit => exact framed_listHistory ledger limit

end Frames

end CharTally.CommandLine
