import CharTally.Proofs.CommandLine.Arguments
import CharTally.Proofs.CommandLine.Failure
import CharTally.Proofs.Run.Open
import CharTally.Proofs.Settings.Profile

/-!
# Two commands for one scan

A demo of a profile and a count of the profile's target are the same scan. The demo takes
the target and the text from the settings; the count takes the target from the command
line, where it is a word, and reads it again, and the text from the settings. Both set up
the same ledger, open the same log and run on what these leave, so what they print and
what they leave is the same, but for the line in which the demo sums up
(`demo_and_count_agree`).
-/

namespace CharTally.CommandLine

variable {usual : Settings.Source} {options : Options} {before : Workspace}
  {document : Settings.Document} {profile : Settings.Profile}

/-- The line in which a demo sums up what it found. -/
def summary (name : Text) (target : CodePoint) (text : Text) : Text :=
  "[demo] profile=" ++ name ++ " target=" ++ Target.describe target ++
    " count=" ++ Numeral.decimal ((Run.seen text).count target)

theorem prepare_eq (request : Request) : request.prepare = Run.setUpNamed request.ledger? := by
  unfold Request.prepare
  cases request.ledger? <;> rfl

/-- A scan of a profile that was loaded can be put into a row if its name has bytes. -/
theorem bindable_of_loaded {source : Settings.Source}
    (loaded : Settings.load before.files source none = .ok document)
    (found : document.find? name = some profile) (whole : name.isWhole = true) :
    Run.Bindable profile.target (some name) := by
  obtain ⟨_, parsed⟩ := Settings.fit_of_loaded loaded found
  have ascii : Text.isAscii [profile.target] = true := by
    rw [Text.isAscii_cons, decide_eq_true (Target.toNat_of_parse parsed)]
    rfl
  have wholeTarget := Text.isWhole_of_isAscii ascii
  rw [Text.isWhole_cons, Text.isWhole_nil, Bool.and_true, Bool.not_eq_true'] at wholeTarget
  refine ⟨wholeTarget, ?_⟩
  rintro _ ⟨⟩
  exact whole

/-- **A demo and a count of its target end alike.** With settings that are loaded and room for the
sinks, both succeed with one scan, if the name of the profile has bytes where it goes into a row and
the stream takes what they print; the demo prints its summary behind it. -/
theorem exists_served {config : FilePath} (source : options.source usual = .file config)
    (loaded : Settings.load before.files (.file config) none = .ok document)
    (found : document.find? options.profile = some profile)
    (small : ¬ Run.IsHuge profile.text)
    (room : Run.Room before.files config (path? options.scanLog) (path? options.ledger))
    (whole : ∀ path ∈ path? options.ledger, options.profile.isWhole = true)
    (takes : before.stream.TakesAll before.printed
      [Run.sentence profile.target profile.text document.wording,
        summary options.profile profile.target profile.text]) :
    ∃ after : Workspace,
      (Request.count [profile.target] none options).run usual before = .ok () after ∧
      (Request.demo options).run usual before = .ok () { after with
        printed := after.printed ++
          (summary options.profile profile.target profile.text ++ "\n") } ∧
      after.printed = before.printed ++
        (Run.sentence profile.target profile.text document.wording ++ "\n") ∧
      Run.Gains profile.target profile.text document.wording (some options.profile)
        (path? options.scanLog) (path? options.ledger) before after := by
  obtain ⟨takesLine, takesSummary, _⟩ := takes
  obtain ⟨ready, opened, prepared, started, spares, apart, isOpened⟩ := Run.exists_opened room
  obtain ⟨ascii, parsed⟩ := Settings.fit_of_loaded loaded found
  have bindable : ∀ path ∈ path? options.ledger,
      Run.Bindable profile.target (some options.profile) :=
    fun path named => bindable_of_loaded loaded found (whole path named)
  obtain ⟨after, ran, gains, receives, stream⟩ :=
    Run.count_of_opened ascii small bindable isOpened fun _ : Reporter.print = .print => takesLine
  have readyRuntime :=
    Settings.loadRuntime_of_loaded (Run.load_of_spares spares apart loaded) found
  have openedRuntime :=
    Settings.loadRuntime_of_loaded (Run.load_of_spares isOpened.spares apart loaded) found
  rw [← source] at readyRuntime openedRuntime
  have opens : options.openSinks { before with files := ready } =
      .ok options.sinks { before with files := opened } :=
    bind_eq_ok.mpr ⟨_, _, started, rfl⟩
  refine ⟨after, ?_, ?_, receives.2, gains⟩
  · have first : (Request.count [profile.target] none options).prepare before =
        .ok () { before with files := ready } := by
      rw [prepare_eq]
      exact prepared
    rw [Request.run_eq, bind_of_ok first]
    refine (runCount_of_loaded [profile.target] none readyRuntime).trans ?_
    rw [parsed]
    exact bind_eq_ok.mpr ⟨_, _, opens, map_eq_ok.mpr ⟨_, ran, rfl⟩⟩
  · have first : (Request.demo options).prepare before =
        .ok () { before with files := ready } := by
      rw [prepare_eq]
      exact prepared
    have profiled : Run.profile options.profile (options.source usual) options.sinks
        { before with files := opened } =
          .ok (Run.reportOf profile.target profile.text document.wording) after :=
      (Run.profile_of_loaded _ openedRuntime).trans ran
    rw [Request.run_eq, bind_of_ok first]
    change runDemo usual options { before with files := ready } = _
    rw [runDemo, bind_of_ok opens, bind_of_ok profiled]
    refine bind_eq_ok.mpr ⟨_, _, shownTarget_of_one profile.target after, ?_⟩
    refine Job.print_eq_ok.mpr ⟨?_, rfl⟩
    rw [stream, receives.2]
    exact takesSummary

/-- The empty path leads to a folder, so it names no settings. -/
theorem path?_of_loaded {config : Text} {files : Files}
    (loaded : Settings.load files (.file (.ofText config)) none = .ok document) :
    path? (some config) = some (.ofText config) := by
  cases config with
  | nil =>
    have folder : files.get? files.here = some .folder :=
      Files.get?_start (List.isPrefixOf_iff_prefix.mpr (List.prefix_refl _))
    have unread : files.read (.ofText []) = .error (.obstacle (.ofText []) .isFolder) := by
      have located : files.locate (.ofText []) = .ok files.here := rfl
      rw [Files.read, located]
      simp only [folder]
    have failed : Settings.readSource files (.file (.ofText [])) =
        .error (.crash (.file (.ofText []) .isFolder)) := by
      rw [Settings.readSource, unread]
      rfl
    rw [Settings.load, failed] at loaded
    cases loaded
  | cons first rest => rfl

/-- **Demo and count are the same scan.** Let the settings file that the arguments name be loaded,
let it have a profile of the name that they give, and let there be room for the log and the ledger
that they may name. If a ledger is named, let the name of the profile have bytes; and let the stream
take what is printed. Then a demo and a count of the profile's target both end with the status 0 and
write no error. The count prints the sentence of the scan; the demo prints the same line, and one in
which it sums up. Both leave the same files, in which the log has gained the event and the ledger
the row and the audit line of this scan. Only a text of two to the power of 63 characters or more,
which no memory holds, is left out. -/
theorem demo_and_count_agree {config name : Text} {log ledger : Option Text}
    {workspace : Workspace} (usual : Settings.Source)
    (loaded : Settings.load workspace.files (.file (.ofText config)) none = .ok document)
    (found : document.find? name = some profile) (small : ¬ Run.IsHuge profile.text)
    (room : Run.Room workspace.files (.ofText config) (path? log) (path? ledger))
    (whole : ∀ path ∈ path? ledger, name.isWhole = true)
    (takes : workspace.stream.TakesAll []
      [Run.sentence profile.target profile.text document.wording,
        summary name profile.target profile.text]) :
    let switches := written (switchesFor config name log ledger)
    let count := run (Command.count.word :: [profile.target] :: switches) usual workspace
    let demo := run (Command.demo.word :: switches) usual workspace
    let line := Run.sentence profile.target profile.text document.wording ++ "\n"
    count.1 = { ending := .ok 0, output := line } ∧
      demo.1 = { ending := .ok 0,
                 output := line ++ (summary name profile.target profile.text ++ "\n") } ∧
      demo.2.files = count.2.files ∧
      Run.Gains profile.target profile.text document.wording (some name) (path? log) (path? ledger)
        workspace count.2 := by
  intro switches count demo line
  have source : (optionsFor config name log ledger).source usual = .file (.ofText config) := by
    rw [Options.source, show (optionsFor config name log ledger).config = some config from rfl,
      path?_of_loaded loaded]
    rfl
  have begins : Settings.load ({ workspace with printed := [] } : Workspace).files
      (.file (.ofText config)) none = .ok document := loaded
  obtain ⟨after, ranCount, ranDemo, printed, gains⟩ :=
    exists_served source begins found small room whole takes
  have known := known_switchesFor config name log ledger
  have gives := giveAll_switchesFor config name log ledger
  have counted : count = _ := run_of_ok (parse_count profile.target known gives) ranCount
  have shown : demo = _ := run_of_ok (parse_demo known gives) ranDemo
  rw [counted, shown]
  have isLine : after.printed = line := printed
  rw [isLine]
  exact ⟨rfl, rfl, rfl, gains.logged, gains.recorded⟩

/-- Settings with one profile, which has no name, a hyphen for its target, and a terminator in its
text; and a log. -/
def hyphens : Workspace where
  files := { entries := [([['c']], .document (Utf8.encode
      ("\x7b\"version\": 1, \"global\": \x7b\x7d, \"profiles\": \x7b\"\": \x7b" ++
        "\"description\": \"d\", \"target\": \"x2D\", \"string\": \"a-\\u0000-\"\x7d\x7d\x7d"))),
    ([['l']], .document [0x7B, 0x7D, 0x0A])] }
  now := .last

/-- The document that these settings are. -/
def hyphensDocument : Settings.Document :=
  ⟨.file (.ofText "c"), 1, {}, [([], ⟨"d", '-', "a-\x00-"⟩)]⟩

theorem loaded_hyphens :
    Settings.load hyphens.files (.file (.ofText "c")) none = .ok hyphensDocument := by
  decide +kernel

theorem found_hyphens : hyphensDocument.find? [] = some ⟨"d", '-', "a-\x00-"⟩ := rfl

theorem told_hyphens :
    Run.sentence '-' "a-\x00-" hyphensDocument.wording =
        "1 occurrences of the letter '-' in the string a-" ∧
      summary [] '-' "a-\x00-" = "[demo] profile= target=- count=1" := by
  decide +kernel

theorem small_hyphens : ¬ Run.IsHuge "a-\x00-" := by
  rw [Run.IsHuge]
  decide

/-- The hyphen is a word on the command line, the scan stops at the terminator, and a folder is made
for the ledger. -/
theorem demo_and_count_agree_on_hyphens :
    let switches := written (switchesFor "c" [] (some "l") (some "d/h"))
    let count := run (Command.count.word :: ['-'] :: switches) .bundled hyphens
    let demo := run (Command.demo.word :: switches) .bundled hyphens
    let line : Text := ("1 occurrences of the letter '-' in the string a-" : Text) ++ "\n"
    count.1.output = line ∧
      demo.1.output = line ++ (("[demo] profile= target=- count=1" : Text) ++ "\n") ∧
      demo.2.files = count.2.files ∧
      Run.Gains '-' "a-\x00-" {} (some []) (path? (some "l")) (path? (some "d/h")) hyphens
        count.2 := by
  intro switches count demo line
  have room : Run.Room hyphens.files (.ofText "c") (path? (some "l")) (path? (some "d/h")) := by
    refine ⟨hyphens.files.set [['d']] .folder, .folder rfl, ?_, ?_⟩
    · rintro _ ⟨⟩
      exact ⟨by decide, [['l']], rfl, by decide +kernel⟩
    · rintro _ ⟨⟩
      refine ⟨[['d'], ['h']], ⟨by decide, by decide, rfl, by decide, Or.inl rfl⟩, ?_, ?_⟩
      · decide
      · rintro _ ⟨⟩
        decide
  have whole : ∀ path ∈ path? (some "d/h"), Text.isWhole [] = true := fun _ _ => rfl
  have takes (lines : List Text) : hyphens.stream.TakesAll [] lines := .of_memory [] lines
  have agree := demo_and_count_agree .bundled loaded_hyphens found_hyphens small_hyphens room
    whole (takes _)
  dsimp only at agree
  rw [told_hyphens.1, told_hyphens.2] at agree
  rcases agree with ⟨counted, shown, same, gains⟩
  dsimp only [count, demo, switches]
  rw [counted, shown]
  exact ⟨rfl, rfl, same, gains⟩

/-- Settings with one profile, whose name is half a surrogate pair. -/
def halfNamed : Workspace where
  files := { entries := [([['c']], .document (Utf8.encode
      ("\x7b\"version\": 1, \"global\": \x7b\x7d, \"profiles\": \x7b\"\\ud800\": \x7b" ++
        "\"description\": \"d\", \"target\": \"d\", \"string\": \"dad\"\x7d\x7d\x7d")))] }
  now := .last

/-- The settings are loaded, but the name has no bytes to put into a row, so that neither command
comes to its end. -/
theorem demo_and_count_crash_on_half :
    let name : Text := [CodePoint.ofNat 0xD800]
    let switches := written (switchesFor "c" name none (some "h"))
    let crash : Crash := .unencodable ⟨CodePoint.ofNat 0xD800, 0, 1⟩
    ((Settings.load halfNamed.files (.file (.ofText "c")) none).toOption.bind
        (·.find? name)).isSome = true ∧
      (run (Command.count.word :: ['d'] :: switches) .bundled halfNamed).1.ending =
        .error crash ∧
      (run (Command.demo.word :: switches) .bundled halfNamed).1.ending = .error crash := by
  decide +kernel

end CharTally.CommandLine
