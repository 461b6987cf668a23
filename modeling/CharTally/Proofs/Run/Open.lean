import CharTally.Proofs.Files.Room
import CharTally.Proofs.Run.Crash
import CharTally.Proofs.Run.Lead

/-!
# Runs that succeed

`Room` is all that a run needs of the files: a path for its log that is not a folder's,
and a path for its ledger at which nothing stands, or a ledger with its tables. None of
the files that the store keeps beside the ledger is needed for something else. Then
setting up the ledger and opening the log succeed one after the other, and what they
leave is `Opened` (`exists_opened`). On opened files every scan of one character in an
ASCII text succeeds, unless the text is huge, if what goes into a row has bytes and the
reporter takes the report; and `Gains` is what it leaves (`count_of_opened`).
-/

namespace CharTally.Run

variable {files made later opened : Files} {config path : FilePath}
  {log ledger : Option FilePath} {place other : Place} {home : Option Place} {before : Workspace}
  {content : Ledger} {target : CodePoint} {text : Text} {wording : Wording}
  {profile : Option Text} {now : Instant}

/-! ## Documents stay what they are -/

theorem documentAt_of_grows (grown : Files.Grows files made) (place : Place) :
    documentAt made place = documentAt files place := by
  rcases grown.places place with same | ⟨absent, folder⟩
  · rw [documentAt, documentAt, same]
  · rw [documentAt, documentAt, absent, folder]

theorem documentAt_of_opens (opens : Store.Opens files place) : documentAt files place = [] := by
  rw [documentAt]
  rcases opens with absent | empty | ⟨content, found⟩
  · rw [absent]
  · rw [empty]
  · rw [found]

/-- Work on a ledger leaves the documents that are not beside it. -/
theorem documentAt_of_touches (touches : Store.Touches place files later)
    (apart : ¬ Store.Beside place other) : documentAt later other = documentAt files other := by
  have of_same (same : later.get? other = files.get? other) :
      documentAt later other = documentAt files other := by
    rw [documentAt, documentAt, same]
  rcases eq_or_ne other place with rfl | differs
  · rcases touches.own with same | ⟨opens, opensLater⟩
    · exact of_same same
    · rw [documentAt_of_opens opens, documentAt_of_opens opensLater]
  · rcases touches.others other differs with same | ⟨isBeside, _⟩
    · exact of_same same
    · exact absurd isBeside apart

/-! ## Room for the sinks -/

/-- A ledger can be put at a path once some folders are added: nothing stands there, or a ledger
with all its tables, and its place is sound. -/
structure LedgerRoom (files made : Files) (path : FilePath) (place : Place) : Prop where
  few : files.missing path.parent ≤ Files.maxMissing
  file : path.toText ≠ Store.noFile
  located : made.locate path = .ok place
  sound : Store.Sound made path place
  usable : made.get? place = none ∨ ∃ content, made.get? place = some (.ledger content) ∧
    ∀ name, content.hasTable name = true

/-- There is room for a log and a ledger: once some folders are added, and not too many, the log's
path leads to something that is no folder, and a ledger can be put at the ledger's path. The log and
the settings are not beside the ledger. -/
def Room (files : Files) (config : FilePath) (log ledger : Option FilePath) : Prop :=
  ∃ made, Files.Grows files made ∧
    (∀ path ∈ log, files.missing path.parent ≤ Files.maxMissing ∧
      ∃ place, made.locate path = .ok place ∧ made.get? place ≠ some .folder) ∧
    ∀ path ∈ ledger, ∃ place, LedgerRoom files made path place ∧
      ¬ Store.Beside place (files.spelled config) ∧
      ∀ other ∈ log, ¬ Store.Beside place (files.spelled other)

/-- What setting up a ledger and opening a log leave: the documents as they were, unless they are
beside the ledger, a log to which lines can be added, and a ledger that is set up. -/
structure Opened (log ledger : Option FilePath) (now : Instant) (before opened : Files) :
    Prop where
  spares : Spares (ledger.map before.spelled) before opened
  documents : ∀ place, Store.Apart (ledger.map before.spelled) place →
    documentAt opened place = documentAt before place
  log : ∀ path ∈ log, ∃ place, opened.locate path = .ok place ∧
    opened.get? place ≠ some .folder ∧ Store.Apart (ledger.map before.spelled) place
  ledger : ∀ path ∈ ledger, Store.Tended path opened
    (some ((Store.ledgerAt before (before.spelled path)).migrate now))

theorem LedgerRoom.not_folder (room : LedgerRoom files made path place) :
    made.get? place ≠ some .folder := by
  rcases room.usable with absent | ⟨content, found, _⟩
  · simp [absent]
  · simp [found]

/-- Work at a place where the later stage has no folder stays within it. -/
theorem within_of_touches (touches : Store.Touches place files later)
    (within : Files.Within files made) (notFolder : made.get? place ≠ some .folder) :
    Files.Within later made where
  here := within.here.trans touches.here.symm
  folders other folder := within.folders other (touches.folder folder)
  room other folder := by
    have differs : other ≠ place := by
      rintro rfl
      exact notFolder folder
    rcases within.room other folder with absent | isFolder
    · rcases touches.others other differs with same | ⟨_, _, gone⟩
      · exact Or.inl (same.trans absent)
      · exact Or.inl gone
    · exact Or.inr (touches.keepsFolders.folders other isFolder)

/-- What is a file in the later stage stands there already. -/
theorem get?_of_grows_within (grown : Files.Grows files later) (within : Files.Within later made)
    (notFolder : made.get? place ≠ some .folder) : later.get? place = files.get? place :=
  grown.get?_of_not_folder fun folder => notFolder (within.folders place folder)

/-- A ledger is set up where there is room for it. -/
theorem setUp_within (grown : Files.Grows before.files made)
    (room : LedgerRoom before.files made path place) :
    ∃ files, Store.setUp path before = .ok () { before with files } ∧
      Opened none (some path) before.now before.files files ∧ Files.Within files made ∧
      files.bytesAt (Store.pagesOf (before.files.spelled path)) = [] := by
  have notFolder := room.not_folder
  obtain ⟨later, folders, within, located⟩ :=
    Files.ensureFolders_parent_within grown.within room.few room.located notFolder
  have grownLater := Files.ensureFolders_grows folders
  have same : later.get? place = made.get? place :=
    (get?_of_grows_within grownLater within notFolder).trans
      (grown.get?_of_not_folder notFolder).symm
  have isHome : place = before.files.spelled path :=
    (Files.eq_spelled located).trans (Files.spelled_of_here grownLater.here path)
  have prior : Store.ledgerAt later place =
      Store.ledgerAt before.files (before.files.spelled path) := by
    rw [← isHome, Store.ledgerAt_of_keepsLedgers (.of_grows grownLater)]
  have opens : Store.Opens later place := by
    rcases room.usable with absent | ⟨content, found, _⟩
    · exact Or.inl (same.trans absent)
    · exact Or.inr (Or.inr ⟨content, same.trans found⟩)
  have ready : Ledger.Ready ((Store.ledgerAt later place).migrate before.now) := by
    rw [Store.ledgerAt, same]
    rcases room.usable with absent | ⟨content, found, tables⟩
    · rw [absent]
      exact Ledger.ready_migrate_empty before.now
    · rw [found]
      exact Ledger.ready_migrate tables before.now
  have samePages : later.get? (Store.pagesOf place) = made.get? (Store.pagesOf place) :=
    (get?_of_grows_within grownLater within room.sound.pages).trans
      (grown.get?_of_not_folder room.sound.pages).symm
  have sound : Store.Sound later path place :=
    room.sound.of_folders within.here.symm (fun other _ folder => within.folders other folder)
      (room.sound.index.of_get?_eq same samePages (within.folders _))
  obtain ⟨files, ran, yields, settled⟩ := Store.setUp_of_sound room.file folders located opens sound
  have stands := Store.Stands.of_yields room.file located sound yields settled
  have withinFiles := within_of_touches yields.toTouches within notFolder
  rw [prior] at stands ready
  refine ⟨files, ran, ⟨?_, ?_, ?_, ?_⟩, withinFiles, isHome ▸ settled.pages.2⟩
  · rw [Option.map_some, ← isHome]
    exact (Spares.of_grows grownLater).trans (.of_touches yields.toTouches)
  · intro other apart
    rw [Option.map_some, ← isHome] at apart
    rw [documentAt_of_touches yields.toTouches (apart place rfl), documentAt_of_grows grownLater]
  · rintro _ ⟨⟩
  · rintro _ ⟨⟩
    refine ⟨stands, ?_⟩
    rintro _ ⟨⟩
    exact ready

/-- Sinks that are not named are open. -/
theorem opened_none (now : Instant) (files : Files) : Opened none none now files files where
  spares := .of_grows (.refl files)
  documents _ _ := rfl
  log _ none_ := nomatch none_
  ledger _ none_ := nomatch none_

/-- A ledger that is set up is there still when folders were added, if its place is sound. -/
theorem tended_of_grows (grown : Files.Grows files later)
    (tended : Store.Tended path files (some content))
    (sound : ∀ place, later.locate path = .ok place → Store.Sound later path place) :
    Store.Tended path later (some content) := by
  obtain ⟨⟨file, place, located, opens, rfl, _⟩, ready⟩ := tended
  have found := Store.get?_of_ledgerAt_ne (ready _ rfl).ne_empty
  have locatedLater := Files.locate_of_keepsFolders grown.keepsFolders located
  exact ⟨⟨file, place, locatedLater, Or.inr (Or.inr ⟨_, grown.get?_eq_some found⟩),
    Store.ledgerAt_of_keepsLedgers (.of_grows grown) place, sound place locatedLater⟩, ready⟩

/-- Sets up a ledger, if one is named. -/
def setUpNamed : Option FilePath → Job Unit
  | none => pure ()
  | some path => Store.setUp path

/-- **Where there is room, the sinks are opened**: first the ledger is set up, then the log is
opened. -/
theorem exists_opened (room : Room before.files config log ledger) :
    ∃ ready opened : Files,
      setUpNamed ledger before = .ok () { before with files := ready } ∧
      ScanLog.start log { before with files := ready } = .ok ⟨log⟩ { before with files := opened } ∧
      Spares (ledger.map before.files.spelled) before.files ready ∧
      Store.Apart (ledger.map before.files.spelled) (before.files.spelled config) ∧
      Opened log ledger before.now before.files opened := by
  obtain ⟨made, grown, logRoom, ledgerRoom⟩ := room
  -- the ledger first; what it leaves is still within the stage that has room for both
  obtain ⟨ready, ran, isOpened, within, noPages⟩ : ∃ ready : Files,
      setUpNamed ledger before = .ok () { before with files := ready } ∧
      Opened none ledger before.now before.files ready ∧ Files.Within ready made ∧
      ∀ path ∈ ledger, ready.bytesAt (Store.pagesOf (before.files.spelled path)) = [] := by
    cases ledger with
    | none =>
      exact ⟨before.files, rfl, opened_none before.now before.files, grown.within,
        fun _ none_ => by cases none_⟩
    | some path =>
      obtain ⟨place, room, _⟩ := ledgerRoom path rfl
      obtain ⟨ready, ran, isOpened, within, noPages⟩ := setUp_within grown room
      refine ⟨ready, ran, isOpened, within, ?_⟩
      rintro _ ⟨⟩
      exact noPages
  have settings : Store.Apart (ledger.map before.files.spelled) (before.files.spelled config) := by
    intro own isOwn
    obtain ⟨path, named, rfl⟩ := Option.mem_map.mp isOwn
    obtain ⟨place, room, apart, _⟩ := ledgerRoom path named
    rw [← Files.spelled_of_here grown.here, ← Files.eq_spelled room.located]
    exact apart
  cases log with
  | none => exact ⟨ready, ready, ran, rfl, isOpened.spares, settings, isOpened⟩
  | some path =>
    obtain ⟨few, place, located, notFolder⟩ := logRoom path rfl
    have fewReady := Nat.le_trans (Files.missing_parent_le grown.within isOpened.spares.folders
      located (Files.names_ne_nil located notFolder)) few
    obtain ⟨opened, folders, withinOpened, locatedOpened⟩ :=
      Files.ensureFolders_parent_within within fewReady located notFolder
    have grownOpened := Files.ensureFolders_grows folders
    refine ⟨ready, opened, ran, ScanLog.start_of_ensured folders, isOpened.spares, settings,
      isOpened.spares.trans (.of_grows grownOpened), ?_, ?_, ?_⟩
    · intro other apart
      rw [documentAt_of_grows grownOpened, isOpened.documents other apart]
    · rintro _ ⟨⟩
      refine ⟨place, locatedOpened, fun folder => notFolder (withinOpened.folders place folder), ?_⟩
      intro own isOwn
      obtain ⟨other, named, rfl⟩ := Option.mem_map.mp isOwn
      obtain ⟨home, room, _, apart⟩ := ledgerRoom other named
      have isHome := Files.eq_spelled room.located
      have isPlace := Files.eq_spelled located
      rw [Files.spelled_of_here grown.here] at isHome isPlace
      rw [← isHome, isPlace]
      exact apart path rfl
    · intro other named
      obtain ⟨home, room, _⟩ := ledgerRoom other named
      refine tended_of_grows grownOpened (isOpened.ledger other named) ?_
      intro there locatedThere
      have same : there = home := by
        rw [Files.eq_spelled locatedThere, Files.eq_spelled room.located,
          Files.spelled_of_here withinOpened.here]
      subst same
      -- no pages are left, whatever is in the place of their index
      refine room.sound.of_folders withinOpened.here.symm
        (fun other _ folder => withinOpened.folders other folder) fun _ => Or.inr ?_
      have isHome := Files.eq_spelled room.located
      rw [Files.spelled_of_here grown.here] at isHome
      rw [isHome]
      exact Store.bytesAt_of_grows grownOpened (noPages other named)

/-! ## Settings are still read -/

/-- An empty document is no settings document. -/
theorem readJson_nil (source : Settings.Source) :
    Settings.readJson source [] =
      Settings.refuse source (.notJson (Json.Problem.expectingValue.message [] 0)) := rfl

/-- A ledger is no settings document. -/
theorem readJson_ledgerMark (source : Settings.Source) :
    ∃ failure, Settings.readJson source Files.ledgerMark = .error failure := ⟨_, rfl⟩

/-- Settings that were loaded are loaded still, as the document that they stand in is spared. -/
theorem load_of_spares {wanted : Option Text} {document : Settings.Document}
    (spares : Spares home files made) (apart : Store.Apart home (files.spelled config))
    (loaded : Settings.load files (.file config) wanted = .ok document) :
    Settings.load made (.file config) wanted = .ok document := by
  rcases Settings.bind_eq_ok.mp loaded with ⟨value, read, built⟩
  refine Settings.bind_eq_ok.mpr ⟨value, ?_, built⟩
  rcases Settings.readSource_eq_ok.mp read with ⟨bytes, found, parsed⟩
  refine Settings.readSource_eq_ok.mpr ⟨bytes, ?_, parsed⟩
  unfold Files.read at found ⊢
  cases located : files.locate config with
  | error fault => rw [located] at found; cases found
  | ok place =>
    rw [← Files.eq_spelled located] at apart
    rw [located] at found
    rw [Files.locate_of_keepsFolders spares.folders located]
    dsimp only at found ⊢
    cases stands : files.get? place with
    | none => rw [stands] at found; cases found
    | some entry =>
      rw [stands] at found
      cases entry with
      | folder => cases found
      | ledger content =>
        cases found
        obtain ⟨failure, unread⟩ := readJson_ledgerMark (.file config)
        cases unread.symm.trans parsed
      | document others =>
        cases found
        have some_ : bytes ≠ [] := by
          rintro rfl
          rw [readJson_nil] at parsed
          cases parsed
        rw [spares.documents place bytes apart some_ stands]

/-! ## Runs on opened sinks -/

/-- The report of a scan. -/
def reportOf (target : CodePoint) (text : Text) (wording : Wording) : Report :=
  ⟨[target], ⟨text ++ [terminator]⟩, (seen text).count target, wording⟩

/-- The sentence that tells a scan. -/
def sentence (target : CodePoint) (text : Text) (wording : Wording) : Text :=
  Numeral.decimal ((seen text).count target) ++ wording.beforeTarget ++ [target] ++
    wording.afterTarget ++ seen text

/-- What a log and a ledger gain by a scan. The log gains the line of its event, unless its path
leads to a ledger, which takes no notice; the ledger gains its row and a line of the audit trail. -/
structure Gains (target : CodePoint) (text : Text) (wording : Wording) (profile : Option Text)
    (log ledger : Option FilePath) (before after : Workspace) : Prop where
  logged : ∀ path ∈ log, ∃ place, after.files.locate path = .ok place ∧
    ((∃ content, after.files.get? place = some (.ledger content)) ∨
      after.files.get? place = some (.document (documentAt before.files place ++ Utf8.encode
        ((ScanLog.event target (reportOf target text wording) profile before.now).render ++ "\n"))))
  recorded : ∀ path ∈ ledger, ∃ place content, after.files.locate path = .ok place ∧
    after.files.get? place = some (.ledger content) ∧
    Records target text profile before.now (Store.ledgerAt before.files place) content

theorem text_reportOf (target : CodePoint) (text : Text) (wording : Wording) :
    (reportOf target text wording).text = seen text := Tape.text_concat text

theorem scanning_concat (target : CodePoint) (text : Text) :
    scanning [target] ⟨text ++ [terminator]⟩ = (seen text).count target := by
  rw [scanning, Tape.count_singleton, Tape.text_concat]
  rfl

/-- Records the scan of a report in a ledger, if one is named. -/
def recordNamed (report : Report) (profile : Option Text) : Option FilePath → Job Unit
  | none => pure ()
  | some path => discard (Store.record path report profile (some auditAction))

/-- A scan of an ASCII text goes to the sinks as its report. -/
theorem count_of_isAscii (ascii : text.isAscii = true) (sinks : Sinks) :
    count [target] text wording sinks = (do
      sinks.log.emit (reportOf target text wording) sinks.profile
      recordNamed (reportOf target text wording) sinks.profile sinks.ledger
      sinks.reporter.emit (reportOf target text wording)
      return reportOf target text wording : Job Report) := by
  rcases sinks with ⟨reporter, log, ledger, profile⟩
  unfold count
  rw [Tape.ofText?_of_isAscii ascii]
  dsimp only
  rw [scanning_concat]
  cases ledger <;> rfl

/-- The numbers of a scan are short, unless its text is huge. -/
theorem fits_reportOf (ascii : text.isAscii = true) (small : ¬ IsHuge text) (target : CodePoint)
    (wording : Wording) :
    Ledger.fits (reportOf target text wording).count = true ∧
      ScanLog.isWritable (reportOf target text wording) = true := by
  rcases fits_of_not_isHuge target (Tape.ofText?_of_isAscii ascii) small with ⟨narrow, length⟩
  rw [scanning_concat] at narrow
  refine ⟨narrow, ?_⟩
  rw [ScanLog.isWritable, Bool.and_eq_true]
  exact ⟨isShort_of_fits narrow, isShort_of_fits length⟩

theorem line?_reportOf (ascii : text.isAscii = true) (small : ¬ IsHuge text) :
    (reportOf target text wording).line? = some (sentence target text wording) := by
  rw [line?_of_isWritable (fits_reportOf ascii small target wording).2, Report.predicate,
    text_reportOf, sentence]
  simp only [List.append_assoc]
  rfl

/-- A reporter takes every report whose sentence can be written, if its stream takes the line. -/
theorem emit_of_line {reporter : Reporter} {report : Report} {line : Text}
    (written : report.line? = some line)
    (heard : reporter = .print → before.stream.Takes before.printed line) :
    ∃ after, reporter.emit report before = .ok () after ∧ after.stream = before.stream := by
  cases reporter with
  | keep => exact ⟨_, rfl, rfl⟩
  | print =>
    unfold Reporter.emit
    generalize report.line? = found at written ⊢
    cases written
    exact ⟨_, Job.print_eq_ok.mpr ⟨heard rfl, rfl⟩, rfl⟩

/-- A log takes the line of a scan wherever lines can be added to it. -/
theorem emit_of_located {report : Report} (one : report.target = [target])
    (writable : ScanLog.isWritable report = true) (located : before.files.locate path = .ok place)
    (notFolder : before.files.get? place ≠ some .folder) :
    ∃ files, ScanLog.emit ⟨some path⟩ report profile before = .ok () { before with files } ∧
      Files.KeepsLedgers before.files files ∧
      (∀ home, place ≠ Store.pagesOf home → LeavesBeside home before.files files) ∧
      ((∃ content, files.get? place = some (.ledger content)) ∨
        files.get? place = some (.document (documentAt before.files place ++
          ScanLog.bytesOf [ScanLog.event target report profile before.now]))) := by
  rcases Files.append_of_locate located notFolder
    (ScanLog.bytesOf [ScanLog.event target report profile before.now]) with ⟨files, added⟩
  refine ⟨files, ScanLog.emit_of_added one writable added, .append added, fun home apart => ?_, ?_⟩
  · rw [Files.eq_spelled located] at apart
    exact .append added apart
  have notStart := Files.isStart_eq_false notFolder
  rcases Files.append_eq_ok added with ⟨there, locatedThere, outcome⟩
  cases located.symm.trans locatedThere
  rcases outcome with ⟨absent, rfl⟩ | ⟨bytes, present, rfl⟩ | ⟨content, present, rfl⟩
  · apply Or.inr
    rw [documentAt, absent, List.nil_append]
    exact Files.get?_set_self before.files _ notStart
  · apply Or.inr
    rw [documentAt, present]
    exact Files.get?_set_self before.files _ notStart
  · exact Or.inl ⟨content, present⟩

/-- What a scan puts into a row has bytes: its target, and the name of its profile. -/
def Bindable (target : CodePoint) (profile : Option Text) : Prop :=
  target.isHalf = false ∧ ∀ name ∈ profile, name.isWhole = true

/-- A scan of an ASCII text that is not huge can be put into a row, if it is bindable. -/
theorem bound_reportOf (ascii : text.isAscii = true) (small : ¬ IsHuge text)
    (bindable : Bindable target profile) (wording : Wording) (now : Instant) :
    Ledger.scanFault? (Store.scanOf (reportOf target text wording) profile now) = none := by
  have whole : Text.isWhole [target] = true := by
    rw [Text.isWhole_cons, bindable.1]
    rfl
  have seenWhole : (reportOf target text wording).text.isWhole = true :=
    Tape.isWhole_of_ofText? (Tape.ofText?_of_isAscii ascii)
  exact Ledger.scanFault?_eq_none.mpr
    ⟨whole, seenWhole, (fits_reportOf ascii small target wording).1, bindable.2⟩

/-- A ledger that is set up takes a scan. -/
theorem record_of_tended (ascii : text.isAscii = true) (small : ¬ IsHuge text)
    (bindable : Bindable target profile) (wording : Wording)
    (tended : Store.Tended path before.files (some (content.migrate before.now))) :
    ∃ files left,
      recordNamed (reportOf target text wording) profile (some path) before =
        .ok () { before with files } ∧
      Store.Touches (before.files.spelled path) before.files files ∧
      files.locate path = .ok (before.files.spelled path) ∧
      files.get? (before.files.spelled path) = some (.ledger left) ∧
      Records target text profile before.now content left := by
  obtain ⟨held, heldReady, _, whole⟩ := Store.record_of_tended tended
    (reportOf target text wording) profile (some auditAction)
  obtain ⟨id, first, row⟩ : ∃ id left, Ledger.record
      (Store.scanOf (reportOf target text wording) profile before.now) (some auditAction) held =
        .ok id left := by
    refine Ledger.record_of_ready heldReady (bound_reportOf ascii small bindable wording before.now)
      ⟨Target.describe target, rfl⟩ ?_
    rintro _ ⟨⟩
    decide
  rw [row] at whole
  obtain ⟨files, recorded, _⟩ := whole
  -- the row that is told is found by taking the record apart again
  obtain ⟨made, place, left, later, folders, _, located, opens, gained, yields, _, isLater⟩ :=
    Store.record_ok recorded
  cases congrArg Workspace.files isLater
  obtain ⟨⟨_, there, locatedThere, opensThere, prior, _⟩, ready⟩ := tended
  have unmade := Files.ensureFolders_parent_of_locate locatedThere opensThere.not_folder
  cases unmade.symm.trans folders
  cases locatedThere.symm.trans located
  have isHome := Files.eq_spelled located
  rw [prior, Ledger.migrate_of_ready before.now (ready _ rfl)] at gained
  rw [isHome] at yields located
  refine ⟨files, left, ?_, yields.toTouches,
    Files.locate_of_keepsFolders yields.keepsFolders located,
    yields.found (Ledger.ne_empty_of_record gained), ?_⟩
  · rw [recordNamed]
    exact map_eq_ok.mpr ⟨id, recorded, rfl⟩
  · exact records_of_record rfl (text_reportOf target text wording) rfl gained

/-- A log that was opened, if one is named, gains the line of a scan. -/
theorem exists_logged {report : Report} (one : report.target = [target])
    (writable : ScanLog.isWritable report = true)
    (isOpened : Opened log ledger before.now before.files opened) (profile : Option Text) :
    ∃ logged, ScanLog.emit ⟨log⟩ report profile { before with files := opened } =
        .ok () { before with files := logged } ∧
      Files.KeepsLedgers opened logged ∧
      (∀ own ∈ ledger.map before.files.spelled, LeavesBeside own opened logged) ∧
      ∀ path ∈ log, ∃ place, logged.locate path = .ok place ∧
        Store.Apart (ledger.map before.files.spelled) place ∧
        ((∃ content, logged.get? place = some (.ledger content)) ∨
          logged.get? place = some (.document (documentAt before.files place ++ ScanLog.bytesOf
            [ScanLog.event target report profile before.now]))) := by
  cases log with
  | none =>
    refine ⟨opened, rfl, .refl opened, fun _ _ => .of_grows (.refl opened) (fun _ _ => id), ?_⟩
    intro path none_
    cases none_
  | some path =>
    rcases isOpened.log path rfl with ⟨place, located, notFolder, apart⟩
    have atOpened : ({ before with files := opened } : Workspace).files.locate path = .ok place :=
      located
    rcases emit_of_located one writable atOpened notFolder with
      ⟨logged, ran, keeps, leaves, outcome⟩
    refine ⟨logged, ran, keeps,
      fun own isOwn => leaves own fun same => apart own isOwn (Or.inr (Or.inl same)), ?_⟩
    rintro _ ⟨⟩
    refine ⟨place, Files.locate_of_keepsFolders keeps.folders located, apart, ?_⟩
    rw [← isOpened.documents place apart]
    exact outcome

/-- A ledger that was set up, if one is named, gains the row of a scan. -/
theorem exists_recorded {logged : Files} (ascii : text.isAscii = true) (small : ¬ IsHuge text)
    (bindable : ∀ path ∈ ledger, Bindable target profile) (wording : Wording)
    (isOpened : Opened log ledger before.now before.files opened)
    (keeps : Files.KeepsLedgers opened logged)
    (leaves : ∀ own ∈ ledger.map before.files.spelled, LeavesBeside own opened logged) :
    ∃ recorded,
      recordNamed (reportOf target text wording) profile ledger { before with files := logged } =
        .ok () { before with files := recorded } ∧
      Spares (ledger.map before.files.spelled) logged recorded ∧
      (∀ place content, Store.Apart (ledger.map before.files.spelled) place →
        logged.get? place = some (.ledger content) →
        ∃ content, recorded.get? place = some (.ledger content)) ∧
      ∀ path ∈ ledger, ∃ place content, recorded.locate path = .ok place ∧
        recorded.get? place = some (.ledger content) ∧
        Records target text profile before.now (Store.ledgerAt before.files place) content := by
  cases ledger with
  | none =>
    refine ⟨logged, rfl, .of_grows (.refl logged), fun _ content _ found => ⟨content, found⟩, ?_⟩
    intro path none_
    cases none_
  | some path =>
    have leavesOpened : LeavesBeside (opened.spelled path) opened logged := by
      rw [Files.spelled_of_here isOpened.spares.folders.here path]
      exact leaves _ rfl
    have tended : Store.Tended path ({ before with files := logged } : Workspace).files _ :=
      tended_of_keepsLedgers keeps leavesOpened (isOpened.ledger path rfl)
    have here : logged.spelled path = before.files.spelled path :=
      (Files.spelled_of_here keeps.folders.here path).trans
        (Files.spelled_of_here isOpened.spares.folders.here path)
    obtain ⟨recorded, left, ran, touches, located, found, gained⟩ :=
      record_of_tended ascii small (bindable path rfl) wording tended
    dsimp only at touches located found
    rw [here] at touches located found
    refine ⟨recorded, ran, .of_touches touches, ?_, ?_⟩
    · intro other content apart foundOther
      rcases eq_or_ne other (before.files.spelled path) with rfl | differs
      · exact ⟨left, found⟩
      · rcases touches.others other differs with same | ⟨isBeside, _⟩
        · exact ⟨content, same.trans foundOther⟩
        · exact absurd isBeside (apart _ rfl)
    · rintro _ ⟨⟩
      exact ⟨_, left, located, found, gained⟩

/-- **Runs on opened sinks succeed.** Where a ledger was set up and a log was opened, the scan of
one character in an ASCII text that is not huge succeeds, if what goes into a row has bytes and the
stream takes the line that is printed; and the log, the ledger and the reporter receive it. -/
theorem count_of_opened (ascii : text.isAscii = true) (small : ¬ IsHuge text)
    (bindable : ∀ path ∈ ledger, Bindable target profile)
    (isOpened : Opened log ledger before.now before.files opened) {reporter : Reporter}
    (heard : reporter = .print →
      before.stream.Takes before.printed (sentence target text wording)) :
    ∃ after,
      count [target] text wording ⟨reporter, ⟨log⟩, ledger, profile⟩ scanning
        { before with files := opened } = .ok (reportOf target text wording) after ∧
      Gains target text wording profile log ledger before after ∧
      Receives reporter (reportOf target text wording) (sentence target text wording) before
        after ∧
      after.stream = before.stream := by
  have writable := (fits_reportOf ascii small target wording).2
  rcases exists_logged rfl writable isOpened profile with ⟨logged, ranLog, keeps, leaves, logPlace⟩
  rcases exists_recorded ascii small bindable wording isOpened keeps leaves with
    ⟨recorded, ranLedger, spares, stillLedgers, ledgerPlace⟩
  have line : (reportOf target text wording).line? = some (sentence target text wording) :=
    line?_reportOf ascii small
  have heardThen : reporter = .print →
      ({ before with files := recorded } : Workspace).stream.Takes
        ({ before with files := recorded } : Workspace).printed (sentence target text wording) :=
    heard
  rcases emit_of_line line heardThen with ⟨after, ranReporter, stream⟩
  rcases receives_of_emit line ranReporter with ⟨sameFiles, receives⟩
  refine ⟨after, ?_, ⟨?_, ?_⟩, receives, stream⟩
  · rw [count_of_isAscii ascii, bind_of_ok ranLog, bind_of_ok ranLedger, bind_of_ok ranReporter]
    rfl
  · -- recording spares the line that the log gained
    intro path isLog
    rcases logPlace path isLog with ⟨place, located, apart, outcome⟩
    rw [sameFiles]
    refine ⟨place, Files.locate_of_keepsFolders spares.folders located, ?_⟩
    rcases outcome with ⟨content, found⟩ | found
    · exact Or.inl (stillLedgers place content apart found)
    · apply Or.inr
      rw [ScanLog.bytesOf_singleton] at found
      refine spares.documents place _ apart ?_ found
      exact List.append_ne_nil_of_right_ne_nil _ (ScanLog.bytesOf_singleton _ ▸ bytesOf_ne_nil _)
  · intro path isLedger
    rw [sameFiles]
    exact ledgerPlace path isLedger

end CharTally.Run
