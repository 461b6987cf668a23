import CharTally.Proofs.CommandLine.History
import CharTally.Proofs.Run.Listable
import CharTally.Proofs.Text.Breaks

/-!
# The lines of a listing

A listing prints each scan on a line of its own, as far as the profile lets it: the name of a
profile is printed as it is, and everything else in a line is free of line breaks (`Listed.breaks`).
Command lines store only scans that can be listed (`listable_session`), whatever settings they read
and however they end, so behind every session a listing has one line for each scan exactly if no
name that it shows breaks its line (`history_lines_iff`).
-/

namespace CharTally.CommandLine

variable {usual : Settings.Source} {options : Options} {place : Place} {path : FilePath}
  {ledger : Text} {limit : Nat} {before start : Workspace} {content : Ledger}
  {rows : List (Nat × Scan)} {lines : List Text} {row : Nat × Scan} {line : Text}

/-! ## Lines -/

/-- What every line of a listing begins with. -/
def historyMark : Text := "[history] #"

/-- The line that a listing prints for a numbered scan. -/
inductive Listed : Nat × Scan → Text → Prop
  | scan {id : Nat} {scan : Scan} {stamp : Text} {target : CodePoint}
      (stamped : Stamp.text scan.createdAt = .ok stamp) (one : scan.target = [target]) :
      Listed (id, scan) (lineOf id stamp target scan)

theorem Listed.begins (listed : Listed row line) : historyMark <+: line := by
  cases listed
  unfold lineOf
  simp only [List.append_assoc]
  exact List.prefix_append _ _

/-- Only the profile can break the line of a scan. -/
theorem Listed.breaks (listed : Listed row line) :
    Text.breaks line = Text.breaks (shownProfile row.2.profile) := by
  cases listed with
  | scan stamped one =>
    have between : Text.breaks historyMark = [] ∧ Text.breaks " " = [] ∧
        Text.breaks " profile=" = [] ∧ Text.breaks " target=" = [] ∧
        Text.breaks " count=" = [] ∧ Text.breaks " text=" = [] := by
      decide
    obtain ⟨begins, space, profile, target, count, text⟩ := between
    unfold lineOf
    unfold historyMark at begins
    simp only [Text.breaks_append, begins, space, profile, target, count, text,
      Text.breaks_decimal, Text.breaks_stamp stamped, Text.breaks_describe, Text.breaks_ofInt,
      Text.breaks_quoted, List.nil_append, List.append_nil]

/-- A listing has a line break behind each scan, and those of the profiles. -/
theorem length_breaks_written (listed : List.Forall₂ Listed rows lines) :
    (Text.breaks (Text.written lines)).length = rows.length +
      (rows.flatMap fun row => Text.breaks (shownProfile row.2.profile)).length := by
  induction listed with
  | nil => rfl
  | @cons row line rows lines first rest ih =>
    rw [Text.breaks_written_cons, first.breaks, List.length_append, List.length_cons, ih,
      List.flatMap_cons, List.length_append, List.length_cons]
    omega

/-- A listing consists of one line for each scan exactly if no profile breaks its line. -/
theorem isLines_iff (listed : List.Forall₂ Listed rows lines) :
    Text.IsLines historyMark rows.length (Text.written lines) ↔
      ∀ row ∈ rows, Text.breaks (shownProfile row.2.profile) = [] := by
  constructor
  · intro isLines row member
    have length := isLines.length_breaks
    rw [length_breaks_written listed] at length
    have none_ : (rows.flatMap fun row => Text.breaks (shownProfile row.2.profile)) = [] :=
      List.eq_nil_of_length_eq_zero (by omega)
    exact List.flatMap_eq_nil_iff.mp none_ row member
  · intro plain
    refine ⟨lines, listed.length_eq.symm, rfl, ?_⟩
    intro line member
    obtain ⟨row, isRow, first⟩ := Trail.exists_of_mem listed.flip member
    exact ⟨first.begins, first.breaks.trans (plain row isRow)⟩

/-! ## Lookups -/

/-- A scan that can be listed is printed on its line. -/
theorem exists_listed (listable : row.2.Listable) :
    ∃ line, Listed row line ∧ printScan row.1 row.2 = Job.print line := by
  obtain ⟨⟨target, one⟩, stamp, stamped⟩ := listable
  exact ⟨_, .scan stamped one, printScan_of_stamped stamped one row.1⟩

theorem exists_lines (listable : ∀ row ∈ rows, row.2.Listable) :
    ∃ lines, List.Forall₂ Listed rows lines ∧
      (rows.forM fun (id, scan) => printScan id scan : Job Unit) = Job.printAll lines := by
  induction rows with
  | nil => exact ⟨[], .nil, rfl⟩
  | cons row rest ih =>
    obtain ⟨first, others⟩ := List.forall_mem_cons.mp listable
    obtain ⟨line, listed, printed⟩ := exists_listed first
    obtain ⟨lines, listedRest, printedRest⟩ := ih others
    refine ⟨line :: lines, .cons listed listedRest, ?_⟩
    rw [Job.printAll_cons, ← printed, ← printedRest]
    rfl

/-- Reading a ledger that stands at a path leaves files only. -/
theorem exists_read (tended : Store.Tended path before.files (some content))
    (narrow : limit < 0x8000000000000000) :
    ∃ files, Store.scans path (some limit) before =
      .ok (content.rows.1.reverse.take limit) { before with files } := by
  obtain ⟨files, _, ready, _⟩ := Store.setUp_of_tended tended
  obtain ⟨left, read⟩ := Store.scans_of_tended tended (fits_limit narrow)
  have leaves := Store.leftBy_scans path (some (limit : Int)) before
  rw [leftBy_of_ok read, leftBy_of_ok ready] at leaves
  have notNegative : ¬ (limit : Int) < 0 := by omega
  rw [Ledger.limited, if_neg notNegative, Int.toNat_natCast, leaves] at read
  exact ⟨files, read⟩

/-- A ledger that can be listed and has scans is set up. -/
theorem tended_of_listable (stands : Store.Stands path before.files (some content))
    (listable : content.Listable) (some_ : content.rows.1 ≠ []) :
    Store.Tended path before.files (some content) := by
  refine ⟨stands, ?_⟩
  rintro _ ⟨⟩
  rcases listable.ready with rfl | ready
  · exact absurd rfl some_
  · exact ready

/-- The path of a ledger that stands is not empty, as the empty path leads to a folder. -/
theorem ledger?_of_stands (stands : Store.Stands (.ofText ledger) before.files (some content))
    (limit : Int) : (Request.history ledger limit).ledger? = some (.ofText ledger) := by
  cases ledger with
  | nil =>
    obtain ⟨_, place, located, opens, _⟩ := stands
    exact absurd rfl (Files.names_ne_nil located opens.not_folder)
  | cons first letters => rfl

/-- A lookup prints the newest scans of a ledger that can be listed, each on its line. -/
theorem run_history_of_listable (usual : Settings.Source)
    (stands : Store.Stands (.ofText ledger) before.files (some content))
    (listable : content.Listable) (some_ : content.rows.1 ≠ []) (positive : 1 ≤ limit)
    (narrow : limit < 0x8000000000000000) :
    ∃ files lines, List.Forall₂ Listed (content.rows.1.reverse.take limit) lines ∧
      (Request.history ledger limit).run usual before =
        Job.printAll lines { before with files } := by
  obtain ⟨prepared, content', ran, tendedThen, same⟩ :=
    Store.setUp_of_tended (tended_of_listable stands listable some_)
  have rows : content'.rows.1 = content.rows.1 := congrArg Table.rows same
  have atPrepared : Store.Tended (.ofText ledger)
    ({ before with files := prepared } : Workspace).files (some content') := tendedThen
  obtain ⟨files, read⟩ := exists_read atPrepared narrow
  rw [rows] at read
  have newest : ∀ row ∈ content.rows.1.reverse.take limit, row.2.Listable := by
    intro row member
    exact listable.scans row (List.mem_reverse.mp (List.mem_of_mem_take member))
  obtain ⟨lines, listed, printed⟩ := exists_lines newest
  refine ⟨files, lines, listed, ?_⟩
  rw [← prepare_of_ledger (ledger?_of_stands stands limit)] at ran
  rw [Request.run_eq, bind_of_ok ran]
  change listHistory ledger limit { before with files := prepared } = _
  rw [listHistory_eq, bind_of_ok read, ← printed]
  have shown : content.rows.1.reverse.take limit ≠ [] := by
    apply List.ne_nil_of_length_pos
    have long := List.length_pos_iff.mpr some_
    rw [List.length_take, List.length_reverse]
    omega
  obtain ⟨first, rest, shape⟩ := List.exists_cons_of_ne_nil shown
  rw [shape]
  rfl

/-! ## What commands store -/

theorem keeps_openSinks (options : Options) :
    Job.Keeps (Workspace.Listable place) options.openSinks := by
  refine .bind ?_ fun log => .of_idle fun _ => rfl
  intro before listable
  obtain ⟨opened, left, grown⟩ := ScanLog.leftBy_start (path? options.scanLog) before
  rw [left]
  exact listable.of_keepsLedgers (.of_grows grown.toGrows)

theorem keeps_runDemo (usual : Settings.Source) (options : Options) :
    Job.Keeps (Workspace.Listable place) (runDemo usual options) := by
  refine (keeps_openSinks options).bind fun sinks => (Run.keeps_profile _ _ _).bind fun report => ?_
  exact (keeps_shownTarget report.target).bind fun _ => keeps_print _

theorem keeps_runCount (usual : Settings.Source) (literal : Text) (text : Option Text)
    (options : Options) :
    Job.Keeps (Workspace.Listable place) (runCount usual literal text options) := by
  refine .bind_get fun found _ => (Job.Keeps.ofExcept _).bind fun runtime => ?_
  cases Target.parse literal with
  | error trouble => exact .of_idle fun _ => rfl
  | ok target =>
    refine (keeps_openSinks options).bind fun sinks => ?_
    exact (Run.keeps_count target _ _ sinks).map _

theorem keeps_printScan (id : Nat) (scan : Scan) :
    Job.Keeps (Workspace.Listable place) (printScan id scan) := by
  refine (Job.Keeps.ofExcept _).bind fun stamp => ?_
  exact (keeps_shownTarget scan.target).bind fun _ => keeps_print _

theorem keeps_listHistory (ledger : Text) (limit : Int) :
    Job.Keeps (Workspace.Listable place) (listHistory ledger limit) := by
  refine (keeps_scans _ _).bind fun rows => ?_
  cases rows with
  | nil => exact keeps_print _
  | cons first rest => exact .forM fun row => keeps_printScan row.1 row.2

/-- Whatever is asked for, what a ledger holds can be listed. -/
theorem keeps_request (usual : Settings.Source) (request : Request) :
    Job.Keeps (Workspace.Listable place) (request.run usual) := by
  rw [Request.run_eq]
  refine .bind ?_ fun _ => ?_
  · unfold Request.prepare
    cases request.ledger? with
    | none => exact .of_idle fun _ => rfl
    | some path => exact keeps_setUp path
  · cases request with
    | demo options => exact keeps_runDemo usual options
    | count literal text options => exact keeps_runCount usual literal text options
    | history ledger limit => exact keeps_listHistory ledger limit

theorem keeps_program (usual : Settings.Source) (arguments : List Text) :
    Job.Keeps (Workspace.Listable place) (program usual arguments) := by
  intro before listable
  rw [leftBy_program]
  cases Request.parse arguments with
  | error halt => exact listable
  | ok request =>
    have begins : (fresh before).Listable place := ⟨listable.dated, listable.ledgers⟩
    exact keeps_request usual request _ begins

/-! ## Sessions -/

/-- What is done in a session: a command line is run, or files are changed by other means, such as
the settings that the next command line reads. -/
inductive Deed where
  | command (arguments : List Text)
  | edit (change : Files → Files)

/-- The job of a deed. -/
def Deed.job (usual : Settings.Source) : Deed → Job Unit
  | .command arguments => discard (program usual arguments)
  | .edit change => modify fun workspace => { workspace with files := change workspace.files }

/-- A change of files brings no ledger to a place, and relative paths start where they started. -/
structure Spares (place : Place) (change : Files → Files) : Prop where
  here : ∀ files, (change files).here = files.here
  found : ∀ files content, (change files).get? place = some (.ledger content) →
    files.get? place = some (.ledger content)

/-- A deed of the session: its time can be shown, and only command lines write to the ledger. -/
structure Fair (place : Place) (moment : Timed Deed) : Prop where
  dated : Stamp.Dated moment.now
  spares : ∀ change, moment.deed = .edit change → Spares place change

/-- Writing a document brings no ledger anywhere. -/
theorem spares_document (other : Place) (bytes : List UInt8) :
    Spares place fun files => files.set other (.document bytes) where
  here _ := rfl
  found files content found := by
    by_cases same : place = other
    · subst same
      cases start : files.isStart place with
      | true =>
        have folder : (files.set place (.document bytes)).get? place = some .folder :=
          Files.get?_start start
        cases folder.symm.trans found
      | false =>
        rw [Files.get?_set_self files _ start] at found
        cases found
    · rw [Files.get?_set_elsewhere files _ same] at found
      exact found

/-- **What one deed stores**: behind it, the ledger at the place can be listed as before, and what
comes from outside is as it was. -/
theorem listable_next {moment : Timed Deed} (fair : Fair place moment)
    (listable : ∀ content, before.files.get? place = some (.ledger content) → content.Listable)
    (framed : start.Framed before) :
    (Session.next (Deed.job usual) before moment).Listable place ∧
      start.Framed (Session.next (Deed.job usual) before moment) := by
  obtain ⟨now, deed⟩ := moment
  have atNow : Workspace.Listable place { before with now } := ⟨fair.dated, listable⟩
  have framedNow : start.Framed { before with now } := ⟨framed.here, framed.stream⟩
  cases deed with
  | command arguments =>
    exact ⟨((keeps_program usual arguments).map _) _ atNow,
      ((framed_program usual arguments).map _) _ framedNow⟩
  | edit change =>
    obtain ⟨here, found⟩ := fair.spares change rfl
    refine ⟨⟨fair.dated, ?_⟩, (here before.files).trans framed.here, framed.stream⟩
    intro content stands
    exact listable content (found before.files content stands)

/-- Behind every session, the ledger at the place can be listed. -/
theorem listable_session (usual : Settings.Source) {session : List (Timed Deed)}
    (fair : ∀ moment ∈ session, Fair place moment)
    (listable : ∀ content, start.files.get? place = some (.ledger content) → content.Listable) :
    let behind := Session.after (Deed.job usual) session start
    (∀ content, behind.files.get? place = some (.ledger content) → content.Listable) ∧
      start.Framed behind := by
  let good (workspace : Workspace) : Prop :=
    (∀ content, workspace.files.get? place = some (.ledger content) → content.Listable) ∧
      start.Framed workspace
  have step : ∀ moment ∈ session, ∀ before, good before →
      good (Session.next (Deed.job usual) before moment) := by
    rintro moment member before ⟨found, framed⟩
    obtain ⟨next, framedNext⟩ := listable_next (fair moment member) found framed
    exact ⟨next.ledgers, framedNext⟩
  exact Session.keeps_after (Deed.job usual) step ⟨listable, rfl, rfl⟩

/-- **A history is one line for each scan, unless a profile's name breaks its line.** Let command
lines of any kind, with any settings and with files changed in between, write to the ledger at a
path, where none or an empty one stands at first; and let the stream take the lines of a lookup. A
lookup shows the newest scans, as many as there are up to its limit: what it prints consists of as
many lines, each of which begins with the mark of the history, exactly if its path is taken for the
value of its switch and no line break is in the names of the profiles that it shows. Whenever the
path is taken, the lookup succeeds and prints each scan as its line: the number, the stamp, the
profile as it is, and then the target, the count and the text, which never break the line. -/
theorem history_lines_iff (usual : Settings.Source) {session : List (Timed Deed)}
    (empty : Store.ledgerAt start.files (start.files.spelled (.ofText ledger)) = {})
    (fair : ∀ moment ∈ session, Fair (start.files.spelled (.ofText ledger)) moment)
    (stands : Store.Stands (.ofText ledger)
      (Session.after (Deed.job usual) session start).files (some content))
    (some_ : content.rows.1 ≠ []) (now : Instant) (positive : 1 ≤ limit)
    (narrow : limit < 0x8000000000000000)
    (takes : ∀ lines, List.Forall₂ Listed (content.rows.1.reverse.take limit) lines →
      start.stream.TakesAll [] lines) :
    let behind := Session.after (Deed.job usual) session start
    let outcome := (run (historyArguments ledger limit) usual { behind with now }).1
    let shown := content.rows.1.reverse.take limit
    (Text.IsLines historyMark (min limit content.rows.1.length) outcome.output ↔
      Token.IsWordAmong Command.history.switches ledger ∧
        ∀ row ∈ shown, Text.breaks (shownProfile row.2.profile) = []) ∧
      (Token.IsWordAmong Command.history.switches ledger →
        ∃ lines, List.Forall₂ Listed shown lines ∧
          outcome = { ending := .ok 0, output := Text.written lines }) := by
  intro behind outcome shown
  have count : shown.length = min limit content.rows.1.length := by
    rw [List.length_take, List.length_reverse]
  have listableFirst (content : Ledger) (found : start.files.get?
      (start.files.spelled (.ofText ledger)) = some (.ledger content)) : content.Listable := by
    rw [← Store.ledgerAt_of_found found, empty]
    exact Ledger.listable_empty
  obtain ⟨listables, framed⟩ := listable_session usual fair listableFirst
  have listable : content.Listable := by
    obtain ⟨_, place, located, opens, stood, _⟩ := stands
    have isHome : place = start.files.spelled (.ofText ledger) :=
      (Files.eq_spelled located).trans (Files.spelled_of_here framed.here _)
    subst isHome
    have notEmpty : content ≠ {} := by
      rintro rfl
      exact some_ rfl
    rw [← stood] at notEmpty ⊢
    exact listables _ (Store.get?_of_ledgerAt_ne notEmpty)
  have listing : Token.IsWordAmong Command.history.switches ledger →
      ∃ lines, List.Forall₂ Listed shown lines ∧
        outcome = { ending := .ok 0, output := Text.written lines } := by
    intro isWord
    have asked := parse_history_of_word isWord positive (short_limit narrow)
    have begins : Store.Stands (.ofText ledger) (fresh { behind with now }).files (some content) :=
      stands
    obtain ⟨files, lines, listed, prints⟩ :=
      run_history_of_listable usual begins listable some_ positive narrow
    refine ⟨lines, listed, (run_of_prints asked prints).1 ?_⟩
    change behind.stream.TakesAll [] lines
    rw [framed.stream]
    exact takes lines listed
  refine ⟨?_, listing⟩
  by_cases isWord : Token.IsWordAmong Command.history.switches ledger
  · obtain ⟨lines, listed, told⟩ := listing isWord
    rw [told, ← count, isLines_iff listed]
    exact (and_iff_right isWord).symm
  · -- the arguments are refused, and nothing is printed on the output
    obtain ⟨problem, refused⟩ := parse_history_of_other isWord limit
    have silent : outcome.output = [] := by
      dsimp only [outcome]
      rw [run, refused]
      rfl
    refine iff_of_false ?_ fun taken => isWord taken.1
    intro isLines
    have long := List.length_pos_iff.mpr some_
    have length := isLines.length_breaks
    rw [silent] at length
    change 0 = min limit content.rows.1.length at length
    omega

/-- Settings with one profile, whose name has a line feed in it. -/
def brokenSettings : Text :=
  "\x7b\"version\": 1, \"global\": \x7b\x7d, \"profiles\": \x7b\"a\\nb\": \x7b" ++
    "\"description\": \"b\", \"target\": \"d\", \"string\": \"dad\"\x7d\x7d\x7d"

/-- These settings are written, and a demo of their profile is run. -/
def brokenDemo : List (Timed Deed) :=
  [⟨epoch, .edit fun files => files.set [['c']] (.document (Utf8.encode brokenSettings))⟩,
    ⟨epoch, .command ["demo", "--profile", "a\nb", "--config", "c", "--sqlite-db", "h"]⟩]

theorem fair_brokenDemo : ∀ moment ∈ brokenDemo, Fair [['h']] moment := by
  intro moment member
  rcases List.mem_cons.mp member with rfl | member
  · refine ⟨dated_epoch, ?_⟩
    rintro _ ⟨⟩
    exact spares_document _ _
  rcases List.mem_singleton.mp member with rfl
  exact ⟨dated_epoch, fun _ isEdit => nomatch isEdit⟩

/-- Its scan is listed on two lines, and the second has no mark. With a demo of the usual profile
behind it, the newest scan is one line, and both scans are more than two. -/
theorem history_lines_iff_brokenDemo :
    let session := brokenDemo ++ [⟨epoch, .command ["demo", "--sqlite-db", "h"]⟩]
    let behind := Session.after (Deed.job .bundled) session Run.untouched
    let output := fun limit =>
      (run (historyArguments "h" limit) .bundled { behind with now := epoch }).1.output
    Text.IsLines historyMark 1 (output 1) ∧ ¬ Text.IsLines historyMark 2 (output 2) := by
  intro session behind output
  have fair : ∀ moment ∈ session, Fair [['h']] moment := by
    refine List.forall_mem_append.mpr ⟨fair_brokenDemo, ?_⟩
    intro moment member
    rcases List.mem_singleton.mp member with rfl
    exact ⟨dated_epoch, fun _ isEdit => nomatch isEdit⟩
  obtain ⟨content, stands, names⟩ : ∃ content : Ledger,
      Store.Stands (.ofText "h") behind.files (some content) ∧
        content.rows.1.map (·.2.profile) =
          [some ("a\nb" : Text), some Settings.usualProfile] := by
    have there : behind.files.locate (.ofText "h") = .ok [['h']] ∧
        behind.files.get? [['h']] = some (.ledger (Store.ledgerAt behind.files [['h']])) ∧
        Store.Sound behind.files (.ofText "h") [['h']] ∧
        (Store.ledgerAt behind.files [['h']]).rows.1.map (·.2.profile) =
          [some ("a\nb" : Text), some Settings.usualProfile] := by
      decide +kernel
    obtain ⟨located, found, sound, names⟩ := there
    exact ⟨_, .of_found (by decide) located found sound, names⟩
  obtain ⟨first, second, rows⟩ := List.length_eq_two.mp
    ((List.length_map _).symm.trans (congrArg List.length names))
  rw [rows] at names
  have broken : first.2.profile = some ("a\nb" : Text) := (List.cons.inj names).1
  have plain : second.2.profile = some Settings.usualProfile :=
    (List.cons.inj (List.cons.inj names).2).1
  have some_ : content.rows.1 ≠ [] := by
    rw [rows]
    exact List.cons_ne_nil _ _
  have isWord : Token.IsWordAmong Command.history.switches "h" := ⟨by decide, by decide⟩
  have one := (history_lines_iff .bundled rfl fair stands some_ epoch
    (by decide : 1 ≤ 1) (by decide) fun lines _ => .of_memory [] lines).1
  have two := (history_lines_iff .bundled rfl fair stands some_ epoch
    (by decide : 1 ≤ 2) (by decide) fun lines _ => .of_memory [] lines).1
  have count : content.rows.1.length = 2 := congrArg List.length rows
  rw [count, Nat.min_eq_left (by decide), rows] at one
  rw [count, Nat.min_self, rows] at two
  dsimp only [output, behind]
  refine ⟨one.mpr ⟨isWord, ?_⟩, fun isLines => ?_⟩
  · intro row member
    rw [List.mem_singleton.mp member, plain]
    decide
  · have unbroken := (two.mp isLines).2 first (by simp)
    rw [broken] at unbroken
    exact absurd unbroken (by decide)

/-- One scan is stored, and it is listed on two lines. -/
theorem history_of_brokenDemo_unlisted :
    let behind := Session.after (Deed.job .bundled) brokenDemo Run.untouched
    let output := (run (historyArguments "h" 5) .bundled { behind with now := epoch }).1.output
    Store.ledgerAt Run.untouched.files [['h']] = {} ∧
      (∀ moment ∈ brokenDemo, Fair [['h']] moment) ∧
      (∃ content, Store.Stands (.ofText "h") behind.files (some content) ∧
        content.rows.1.length = 1) ∧
      output =
        ("[history] #1 1970-01-01T00:00:00+00:00 profile=a\nb target=d count=2" : Text) ++
          " text='dad'\n" ∧
      ¬ Text.IsLines historyMark (min 5 1) output := by
  intro behind output
  have told : output =
      ("[history] #1 1970-01-01T00:00:00+00:00 profile=a\nb target=d count=2" : Text) ++
        " text='dad'\n" := by
    decide +kernel
  have stored : ∃ content, Store.Stands (.ofText "h") behind.files (some content) ∧
      content.rows.1.length = 1 := by
    have there : behind.files.locate (.ofText "h") = .ok [['h']] ∧
        behind.files.get? [['h']] = some (.ledger (Store.ledgerAt behind.files [['h']])) ∧
        Store.Sound behind.files (.ofText "h") [['h']] ∧
        (Store.ledgerAt behind.files [['h']]).rows.1.length = 1 := by
      decide +kernel
    obtain ⟨located, found, sound, one⟩ := there
    exact ⟨_, .of_found (by decide) located found sound, one⟩
  refine ⟨rfl, fair_brokenDemo, stored, told, ?_⟩
  intro isLines
  have length := isLines.length_breaks
  rw [told] at length
  exact absurd length (by decide)

end CharTally.CommandLine
