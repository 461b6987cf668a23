import CharTally.Proofs.Run
import CharTally.Proofs.Run.Kept

/-!
# How far the log runs ahead of the ledger

Calls that share a log and a ledger write to the log first and to the ledger second,
and what was written to the log is not taken back. `Effect` lists what can become of
a call: both gain its scan, whether or not the reporter can tell it, neither gains
anything, or the log alone gains an event, because the ledger refused the scan. `Holds`
says what the two files hold, and a session carries it along from call to call
(`holds_next`). So the rows follow the events and none is without its event
(`rows_follow_events`), but a call can leave the log ahead (`log_runs_ahead`).

The log must not be one of the files that the store keeps beside the ledger. It may be
below one of them: then a folder is there before the first event is written, and the
ledger takes no row.
-/

namespace CharTally.Run

/-! ## Calls on one log and one ledger -/

/-- What is done with the log and the ledger: a log is opened, or a scan is asked for. -/
inductive Deed where
  | openLog
  | count (target text : Text) (wording : Wording) (reporter : Reporter) (profile : Option Text)
    (counter : Counter)

namespace Deed

/-- The job of a deed, which answers with the report that it makes, if it makes one. -/
def job (log ledger : FilePath) : Deed → Job (Option Report)
  | .openLog => (fun _ => none) <$> ScanLog.start (some log)
  | .count target text wording reporter profile counter =>
    some <$> Run.count target text wording ⟨reporter, ⟨some log⟩, some ledger, profile⟩ counter

/-- The report that a deed is to make, and its profile. -/
def report? : Deed → Option (Report × Option Text)
  | .openLog => none
  | .count target text wording _ profile counter =>
    (Tape.ofText? text).map fun tape => (⟨target, tape, counter target tape, wording⟩, profile)

/-- Where the report of a deed goes. -/
def reporter : Deed → Reporter
  | .openLog => .keep
  | .count _ _ _ reporter _ _ => reporter

end Deed

/-! ## What is read back -/

/-- The events that are read from a log; none if it cannot be read. -/
def eventsIn (log : FilePath) (files : Files) : List Json :=
  match ScanLog.readEvents files log with
  | .ok events => events
  | .error _ => []

/-- The scans that are read from a ledger, the oldest first; none if it cannot be read. -/
def scansIn (ledger : FilePath) (workspace : Workspace) : List Scan :=
  match Store.scans ledger none workspace with
  | .ok rows _ => (rows.map (·.2)).reverse
  | .error _ _ => []

/-- An event and a scan tell the same. -/
def Matches (event : Json) (scan : Scan) : Prop :=
  ∃ members, event = .object members ∧
    Json.find? "target" members = some (.text scan.target) ∧
    Json.find? "text" members = some (.text scan.text) ∧
    Json.find? "count" members = some (.integer scan.count) ∧
    Json.find? "profile" members = some (scan.profile.elim .null .text)

/-- What becomes of the events and of the scans by a deed. Both gain the scan that was asked for,
and its report is returned, or the deed fails because the stream of the reporter refuses the line;
or the deed fails because the ledger refuses the scan when its event is already written, in which
halves of a pair are read as one character; or they stay as they are, and no report is returned. -/
inductive Effect (log ledger : FilePath) (moment : Timed Deed) (before : Workspace)
    (events : List Json) (scans : List Scan) : List Json → List Scan → Prop
  | both {report : Report} {profile : Option Text} {event : Json} {after : Workspace}
      (asked : moment.deed.report? = some (report, profile))
      (returned : Session.outcome (Deed.job log ledger) moment before = .ok (some report) after)
      (told : Matches event (Store.scanOf report profile moment.now)) :
      Effect log ledger moment before events scans (events ++ [event])
        (scans ++ [(Store.scanOf report profile moment.now).stored])
  | unheard {report : Report} {profile : Option Text} {event : Json} {crash : Crash}
      {after : Workspace} (asked : moment.deed.report? = some (report, profile))
      (failed : Session.outcome (Deed.job log ledger) moment before = .error (.crash crash) after)
      (refused : Unheard moment.deed.reporter report before crash)
      (told : Matches event (Store.scanOf report profile moment.now)) :
      Effect log ledger moment before events scans (events ++ [event])
        (scans ++ [(Store.scanOf report profile moment.now).stored])
  | ahead {report : Report} {profile : Option Text} {event : Json} {failure : Failure}
      {logged after : Workspace} (asked : moment.deed.report? = some (report, profile))
      (failed : Session.outcome (Deed.job log ledger) moment before = .error failure after)
      (written : ScanLog.emit ⟨some log⟩ report profile { before with now := moment.now } =
        .ok () logged)
      (refused : Store.record ledger report profile (some auditAction) logged =
        .error failure after)
      (told : Matches event
        (Store.scanOf report (profile.map Json.joinHalves) moment.now)) :
      Effect log ledger moment before events scans (events ++ [event]) scans
  | neither
      (quiet : ∀ report after,
        Session.outcome (Deed.job log ledger) moment before ≠ .ok (some report) after) :
      Effect log ledger moment before events scans events scans

/-- A deed fails and leaves an event in the log, but no scan in the ledger. -/
def Ahead (log ledger : FilePath) (moment : Timed Deed) (before : Workspace) : Prop :=
  ∃ failure after, Session.outcome (Deed.job log ledger) moment before = .error failure after ∧
    eventsIn log after.files ≠ eventsIn log before.files ∧
    scansIn ledger after = scansIn ledger before

/-! ## What stays -/

variable {log ledger path : FilePath} {files made later : Files} {place : Place}
  {home : Option Place}
  {before after : Workspace} {events readings more news : List Json} {scans : List Scan}
  {content : Ledger} {now : Instant}

/-- Nothing stands at a path, or a folder. -/
def NoFile (path : FilePath) (files : Files) : Prop :=
  files.get? (files.spelled path) = none ∨ files.get? (files.spelled path) = some .folder

theorem NoFile.of_grows (grown : Files.Grows files later) (noFile : NoFile path files) :
    NoFile path later := by
  rw [NoFile, Files.spelled_of_here grown.here]
  rcases grown.places (files.spelled path) with same | ⟨_, folder⟩
  · rw [same]
    exact noFile
  · exact Or.inr folder

/-- Folders and documents with something in them stay, except beside the ledger at the home place,
if one is named. -/
structure Spares (home : Option Place) (files later : Files) : Prop where
  folders : Files.KeepsFolders files later
  documents : ∀ place bytes, Store.Apart home place → bytes ≠ [] →
    files.get? place = some (.document bytes) → later.get? place = some (.document bytes)

theorem Spares.trans (first : Spares home files made) (second : Spares home made later) :
    Spares home files later where
  folders := first.folders.trans second.folders
  documents place bytes apart some_ found :=
    second.documents place bytes apart some_ (first.documents place bytes apart some_ found)

theorem Spares.of_grows (grown : Files.Grows files later) : Spares home files later where
  folders := grown.keepsFolders
  documents _ _ _ _ found := grown.get?_eq_some found

/-- A ledger is put only where no document with something in it stands. -/
theorem Spares.of_touches (touches : Store.Touches place files later) :
    Spares (some place) files later where
  folders := touches.keepsFolders
  documents other bytes apart some_ found := by
    by_cases own : other = place
    · subst own
      rcases touches.own with same | ⟨opens, _⟩
      · exact same.trans found
      · exact absurd rfl (ne_of_opens (.refl files) found some_ opens)
    · rcases touches.others other own with same | ⟨isBeside, _⟩
      · exact same.trans found
      · exact absurd isBeside (apart place rfl)

/-- A job on a ledger spares the documents, whether or not it succeeds. -/
theorem spares_of_setUp (path : FilePath) (before : Workspace) :
    Spares (some (before.files.spelled path)) before.files
      (leftBy (Store.setUp path) before).files := by
  have grown := Files.leftBy_ensureFolders_grows path.parent before.files
  rw [Store.setUp, leftBy_bind, Job.onFiles]
  cases worked : Files.ensureFolders path.parent before.files with
  | error fault left =>
    rw [leftBy_of_error worked] at grown
    exact .of_grows grown
  | ok _ made =>
    rw [leftBy_of_ok worked] at grown
    obtain ⟨files, left, touches⟩ := Store.leftBy_onLedger path .setUp
      (modify (Ledger.migrate before.now)) { before with files := made }
    rw [Files.spelled_of_here grown.here] at touches
    have spares : Spares (some (before.files.spelled path)) before.files files :=
      (Spares.of_grows grown).trans (.of_touches touches)
    change Spares _ _ (leftBy (Store.onLedger path .setUp (modify (Ledger.migrate before.now)))
      { before with files := made }).files
    rw [left]
    exact spares

/-! ## The log -/

/-- In a log stand the lines of events. -/
def Written (log : FilePath) (files : Files) (events : List Json) : Prop :=
  ∃ place, files.locate log = .ok place ∧
    files.get? place = some (.document (ScanLog.bytesOf events))

/-- A log holds what is read from it, or it is not there. -/
def LogHolds (log : FilePath) (files : Files) (readings : List Json) : Prop :=
  readings = [] ∧ NoFile log files ∨
    ∃ events, Written log files events ∧ List.Forall₂ ScanLog.ReadAs events readings

/-- Where lines were written, opening the log again changes nothing. -/
theorem Written.openLog (written : Written log before.files events) :
    leftBy (ScanLog.start (some log)) before = before := by
  obtain ⟨place, located, found⟩ := written
  have ensured := Files.ensureFolders_parent_of_locate located (by simp [found])
  unfold ScanLog.start
  rw [leftBy_bind, Job.onFiles, ensured]
  rfl

/-- Lines that are added stand behind those that were there. -/
theorem LogHolds.append (holds : LogHolds log files readings)
    (added : files.append log (ScanLog.bytesOf more) = .ok later)
    (reads : List.Forall₂ ScanLog.ReadAs more news) :
    ∃ events, Written log later (events ++ more) ∧
      List.Forall₂ ScanLog.ReadAs (events ++ more) (readings ++ news) := by
  obtain ⟨place, located, outcome⟩ := Files.append_eq_ok added
  have spells := Files.eq_spelled located
  have put (bytes : List UInt8) (notFolder : files.get? place ≠ some .folder) :
      (files.set place (.document bytes)).locate log = .ok place ∧
        (files.set place (.document bytes)).get? place = some (.document bytes) :=
    ⟨Files.locate_set _ notFolder located,
      Files.get?_set_self files _ (Files.isStart_eq_false notFolder)⟩
  rcases holds with ⟨rfl, noFile⟩ | ⟨events, ⟨here, located', found⟩, reads'⟩
  · rw [NoFile, ← spells] at noFile
    refine ⟨[], ?_, reads⟩
    rcases outcome with ⟨absent, rfl⟩ | ⟨bytes, present, _⟩ | ⟨content, present, _⟩
    · exact ⟨place, put _ (by simp [absent])⟩
    · rcases noFile with absent | folder <;> simp_all
    · rcases noFile with absent | folder <;> simp_all
  · cases located.symm.trans located'
    refine ⟨events, ?_, List.rel_append reads' reads⟩
    rcases outcome with ⟨absent, _⟩ | ⟨bytes, present, rfl⟩ | ⟨content, present, _⟩
    · rw [found] at absent
      cases absent
    · cases found.symm.trans present
      rw [← ScanLog.bytesOf_append]
      exact ⟨place, put _ (by simp [found])⟩
    · rw [found] at present
      cases present

/-- What a log holds is what is read, and it is read unless no file is there. -/
theorem LogHolds.eventsIn_eq (holds : LogHolds log files readings) :
    eventsIn log files = readings ∧
      (NoFile log files ∨ ∃ events, ScanLog.readEvents files log = .ok events) := by
  rcases holds with ⟨rfl, noFile⟩ | ⟨events, ⟨place, located, found⟩, reads⟩
  · refine ⟨?_, Or.inl noFile⟩
    have unread : ∀ events, ScanLog.readEvents files log = .ok events → events = [] := by
      intro events read
      unfold ScanLog.readEvents Files.read Files.contains at read
      cases located : files.locate log with
      | error fault =>
        rw [located] at read
        rcases fault with ⟨path, what⟩ | _
        · cases what <;> cases read <;> rfl
        · cases read
          rfl
      | ok place =>
        rw [NoFile, ← Files.eq_spelled located] at noFile
        rw [located] at read
        rcases noFile with absent | folder
        · simp only [absent] at read
          cases read
          rfl
        · simp only [folder] at read
          cases read
    rw [eventsIn]
    split
    case h_1 events read => exact unread events read
    case h_2 => rfl
  · have read := ScanLog.readEvents_of_document located found reads
    refine ⟨?_, Or.inr ⟨readings, read⟩⟩
    rw [eventsIn, read]

/-! ## The two files -/

/-- A log and a ledger hold what is read from them. Nothing is put into the ledger before the log is
written, and the log is none of the files that the store keeps beside the ledger. -/
structure Holds (log ledger : FilePath) (files : Files) (readings : List Json)
    (scans : List Scan) : Prop where
  apart : ¬ Store.Beside (files.spelled ledger) (files.spelled log)
  events : LogHolds log files readings
  rows : ∃ held, Kept ledger files held ∧ held.rows.1.map (·.2) = scans ∧
    (held = {} ∨ ∃ events, Written log files events)

/-- A log with a line in it stays where its document is spared. -/
theorem Written.of_spares (apart : Store.Apart home (files.spelled log))
    (spares : Spares home files later) (written : Written log files events)
    (some_ : ScanLog.bytesOf events ≠ []) : Written log later events := by
  obtain ⟨place, located, found⟩ := written
  rw [← Files.eq_spelled located] at apart
  exact ⟨place, Files.locate_of_keepsFolders spares.folders located,
    spares.documents place _ apart some_ found⟩

theorem apart_of_beside {own : Place} (apart : ¬ Store.Beside own place) :
    Store.Apart (some own) place := by
  rintro _ ⟨⟩
  exact apart

/-- What is apart stays apart. -/
theorem apart_of_here (same : later.here = files.here)
    (apart : ¬ Store.Beside (files.spelled ledger) (files.spelled log)) :
    ¬ Store.Beside (later.spelled ledger) (later.spelled log) := by
  rw [Files.spelled_of_here same, Files.spelled_of_here same]
  exact apart

/-- A log that is opened leaves folders at most. Where the ledger holds something, its log was
written, and the folders are there. -/
theorem Holds.openLog (holds : Holds log ledger before.files readings scans) :
    Holds log ledger (leftBy (ScanLog.start (some log)) before).files readings scans := by
  obtain ⟨apart, events, held, kept, told, begun⟩ := holds
  rcases events with ⟨none_, noFile⟩ | ⟨lines, written, reads⟩
  · rcases begun with rfl | ⟨lines, written⟩
    · -- no ledger is touched, whatever the folders are
      obtain ⟨opened, left, ⟨grown, _⟩⟩ := ScanLog.leftBy_start (some log) before
      rw [left]
      refine ⟨apart_of_here grown.here apart, Or.inl ⟨none_, noFile.of_grows grown⟩,
        {}, ⟨?_, Or.inl rfl⟩, told, Or.inl rfl⟩
      rw [Files.spelled_of_here grown.here, Store.ledgerAt_of_keepsLedgers (.of_grows grown)]
      exact kept.1
    · rw [written.openLog]
      exact ⟨apart, Or.inl ⟨none_, noFile⟩, held, kept, told, Or.inr ⟨lines, written⟩⟩
  · rw [written.openLog]
    exact ⟨apart, Or.inr ⟨lines, written, reads⟩, held, kept, told, begun⟩

/-- Lines that are added to the log stand behind those that were there, and do nothing to the
ledger. -/
theorem Holds.append (holds : Holds log ledger files readings scans)
    (added : files.append log (ScanLog.bytesOf more) = .ok later)
    (reads : List.Forall₂ ScanLog.ReadAs more news) :
    Holds log ledger later (readings ++ news) scans ∧
      ∃ events, Written log later (events ++ more) ∧
        List.Forall₂ ScanLog.ReadAs (events ++ more) (readings ++ news) := by
  obtain ⟨apart, events, held, kept, told, _⟩ := holds
  obtain ⟨lines, written, allRead⟩ := events.append added reads
  have keeps := Files.KeepsLedgers.append added
  exact ⟨⟨apart_of_here keeps.folders.here apart, Or.inr ⟨_, written, allRead⟩, held,
    kept.append added fun same => apart (Or.inr (Or.inl same)), told, Or.inr ⟨_, written⟩⟩, lines,
    written, allRead⟩

variable {report : Report} {profile action : Option Text} {failure : Failure}

/-- A scan that is refused leaves the events and the scans. -/
theorem Holds.refused (holds : Holds log ledger before.files readings scans)
    (written : Written log before.files events)
    (reads : List.Forall₂ ScanLog.ReadAs events readings) (some_ : ScanLog.bytesOf events ≠ [])
    (refused : Store.record ledger report profile action before = .error failure after) :
    Holds log ledger after.files readings scans := by
  obtain ⟨apart, _, held, kept, told, _⟩ := holds
  obtain ⟨held', kept', same⟩ := kept_of_refused kept refused
  have spares : Spares (some (before.files.spelled ledger)) before.files after.files := by
    have left := spares_of_setUp ledger before
    rcases Store.setUp_of_refused refused with ran | ⟨unready, stopped⟩
    · rwa [leftBy_of_ok ran] at left
    · rwa [leftBy_of_error stopped] at left
  have stays := written.of_spares (apart_of_beside apart) spares some_
  rw [← rows_of_same same] at told
  exact ⟨apart_of_here spares.folders.here apart, Or.inr ⟨_, stays, reads⟩, held', kept', told,
    Or.inr ⟨_, stays⟩⟩

/-- A scan that is recorded comes behind the others. -/
theorem Holds.recorded {id : Nat} (holds : Holds log ledger before.files readings scans)
    (written : Written log before.files events)
    (reads : List.Forall₂ ScanLog.ReadAs events readings) (some_ : ScanLog.bytesOf events ≠ [])
    (recorded : Store.record ledger report profile action before = .ok id after) :
    Holds log ledger after.files readings
      (scans ++ [(Store.scanOf report profile before.now).stored]) := by
  obtain ⟨apart, _, held, kept, told, _⟩ := holds
  obtain ⟨left, kept', _, row⟩ := kept_of_recorded kept recorded
  obtain ⟨made, place, _, later, worked, _, located, _, _, yields, _, rfl⟩ :=
    Store.record_ok recorded
  have grown := Files.ensureFolders_grows worked
  have isHome : place = before.files.spelled ledger :=
    (Files.eq_spelled located).trans (Files.spelled_of_here grown.here ledger)
  rw [isHome] at yields
  have spares : Spares (some (before.files.spelled ledger)) before.files later :=
    (Spares.of_grows grown).trans (.of_touches yields.toTouches)
  have stays := written.of_spares (apart_of_beside apart) spares some_
  refine ⟨apart_of_here spares.folders.here apart, Or.inr ⟨_, stays, reads⟩, left, kept', ?_,
    Or.inr ⟨_, stays⟩⟩
  obtain ⟨_, gained, _⟩ := Ledger.rows_of_record row
  rw [gained, Ledger.rows_migrate, List.map_append, told]
  rfl

/-- The scans that a ledger holds are what is read, and they are read unless it is empty. -/
theorem Holds.scansIn_eq (holds : Holds log ledger before.files readings scans) :
    scansIn ledger before = scans ∧
      (Store.ledgerAt before.files (before.files.spelled ledger) = {} ∨
        ∃ rows left, Store.scans ledger none before = .ok rows left) := by
  obtain ⟨_, _, held, kept, told, _⟩ := holds
  have rowsAt : (Store.rowsAt before.files (before.files.spelled ledger)).1.map (·.2) = scans := by
    rw [Store.rowsAt, kept.1, told]
  have read : held = {} ∨ ∃ rows left, Store.scans ledger none before = .ok rows left := by
    refine kept.2.imp_right fun tended => ?_
    exact ⟨_, Store.scans_of_tended tended (rfl : (none : Option Int).all _ = true)⟩
  refine ⟨?_, kept.1 ▸ read⟩
  rw [scansIn]
  cases ran : Store.scans ledger none before with
  | ok rows left =>
    dsimp only
    rw [Store.scans_eq_ok ran, Ledger.limited, List.map_reverse, List.reverse_reverse, rowsAt]
  | error failure left =>
    rcases read with rfl | ⟨rows, left, ran'⟩
    · rw [← told]
      rfl
    · cases ran.symm.trans ran'

/-! ## One call -/

/-- An event that was written is read, and tells the scan. Halves of a pair in the name of its
profile are read as one character. -/
theorem exists_reading {target : CodePoint} (one : report.target = [target])
    (whole : report.text.isWhole = true) (profile : Option Text) (now : Instant)
    (writable : ScanLog.isWritable report = true) :
    ∃ reading, ScanLog.ReadAs (ScanLog.event target report profile now) reading ∧
      Matches reading (Store.scanOf report (profile.map Json.joinHalves) now) := by
  obtain ⟨time, read⟩ := ScanLog.read_event target profile now writable
  have joinedTarget : Json.joinHalves report.target = report.target := by rw [one]; rfl
  have joinedText := Json.joinHalves_of_isWhole whole
  refine ⟨_, ⟨⟨_, rfl⟩, read⟩, _, rfl, ?_, ?_, rfl, ?_⟩
  · exact congrArg (fun t => some (Json.text t)) joinedTarget
  · exact congrArg (fun t => some (Json.text t)) joinedText
  · cases profile <;> rfl

/-- A log that does not take a scan has its document begun at most. -/
theorem Holds.unlogged (holds : Holds log ledger before.files readings scans)
    (unlogged : ScanLog.emit ⟨some log⟩ report profile before = .error failure after) :
    Holds log ledger after.files readings scans := by
  rcases ScanLog.emit_error unlogged with rfl | ⟨files, began, rfl⟩
  · exact holds
  · have left := (holds.append began .nil).1
    rw [List.append_nil] at left
    exact left

/-- A log that takes a scan gains an event that tells it. -/
theorem Holds.logged (holds : Holds log ledger before.files readings scans)
    (whole : report.text.isWhole = true)
    (logged : ScanLog.emit ⟨some log⟩ report profile before = .ok () after) :
    ∃ reading, Matches reading (Store.scanOf report (profile.map Json.joinHalves) before.now) ∧
      after.now = before.now ∧ after.stream = before.stream ∧ after.printed = before.printed ∧
      Holds log ledger after.files (readings ++ [reading]) scans ∧
      ∃ lines, Written log after.files lines ∧
        List.Forall₂ ScanLog.ReadAs lines (readings ++ [reading]) ∧
        ScanLog.bytesOf lines ≠ [] := by
  obtain ⟨target, files, one, writable, added, rfl⟩ := ScanLog.emit_eq_ok logged
  obtain ⟨reading, reads, told⟩ := exists_reading one whole profile before.now writable
  obtain ⟨holds', events, written, allRead⟩ := holds.append added (.cons reads .nil)
  refine ⟨reading, told, rfl, rfl, rfl, holds', _, written, allRead, ?_⟩
  rw [ScanLog.bytesOf_append]
  exact List.append_ne_nil_of_right_ne_nil _ (bytesOf_ne_nil _)

/-- Behind a deed, the two files hold what its effect says. -/
def Next (log ledger : FilePath) (moment : Timed Deed) (before : Workspace)
    (readings : List Json) (scans : List Scan) : Prop :=
  ∃ readings' scans',
    Holds log ledger (Session.next (Deed.job log ledger) before moment).files readings' scans' ∧
      Effect log ledger moment before readings scans readings' scans'

theorem next_openLog (holds : Holds log ledger before.files readings scans) :
    Next log ledger ⟨now, .openLog⟩ before readings scans := by
  have atNow : Holds log ledger ({ before with now } : Workspace).files readings scans := holds
  refine ⟨readings, scans, ?_, .neither ?_⟩
  · rw [Session.next, Deed.job, leftBy_map]
    exact atNow.openLog
  · intro report after ran
    obtain ⟨_, _, answer⟩ := map_eq_ok.mp ran
    cases answer

/-- A run that fails before the log gains its event has no effect. -/
theorem next_of_error {target text : Text} {wording : Wording} {reporter : Reporter}
    {counter : Counter}
    (failed : count target text wording ⟨reporter, ⟨some log⟩, some ledger, profile⟩ counter
      { before with now } = .error failure after)
    (holds : Holds log ledger after.files readings scans) :
    Next log ledger ⟨now, .count target text wording reporter profile counter⟩ before readings
      scans := by
  refine ⟨readings, scans, ?_, .neither ?_⟩
  · rw [Session.next, Deed.job, leftBy_map, leftBy_of_error failed]
    exact holds
  · intro report left returned
    obtain ⟨_, returned, _⟩ := map_eq_ok.mp returned
    cases failed.symm.trans returned

/-- The name of a profile that was put into a row is read back from the log as it is. -/
theorem joined_of_recorded {id : Nat}
    (recorded : Store.record ledger report profile action before = .ok id after) :
    profile.map Json.joinHalves = profile := by
  obtain ⟨_, _, _, _, _, _, _, _, row, _⟩ := Store.record_ok recorded
  obtain ⟨_, _, bound, _⟩ := Ledger.record_ok row
  obtain ⟨_, _, _, whole⟩ := Ledger.scanFault?_eq_none.mp bound
  cases profile with
  | none => rfl
  | some name => rw [Option.map_some, Json.joinHalves_of_isWhole (whole name rfl)]

theorem next_count {target text : Text} {wording : Wording} {reporter : Reporter}
    {counter : Counter} (holds : Holds log ledger before.files readings scans) :
    Next log ledger ⟨now, .count target text wording reporter profile counter⟩ before readings
      scans := by
  have atNow : Holds log ledger ({ before with now } : Workspace).files readings scans := holds
  cases taped : Tape.ofText? text with
  | none => exact next_of_error (count_of_untaped target wording _ counter _ taped) atNow
  | some tape =>
    have asked : (Deed.count target text wording reporter profile counter).report? =
        some (⟨target, tape, counter target tape, wording⟩, profile) := by
      rw [Deed.report?, taped]
      rfl
    have whole : (⟨target, tape, counter target tape, wording⟩ : Report).text.isWhole = true :=
      Tape.isWhole_of_ofText? taped
    generalize made : (⟨target, tape, counter target tape, wording⟩ : Report) = report
      at asked whole
    rcases count_cases reporter ⟨some log⟩ ledger profile { before with now } taped made.symm with
      ⟨failure, logged, unlogged, ran⟩ | ⟨logged, ranLog, outcome⟩
    · exact next_of_error ran (atNow.unlogged unlogged)
    · -- the log gains the event, and then the ledger decides
      obtain ⟨reading, told, sameTime, stream, printed, held, lines, written, reads, some_⟩ :=
        atNow.logged whole ranLog
      rcases outcome with ⟨failure, refused, ranLedger, ran⟩ |
        ⟨id, recorded, after, ranLedger, sameFiles, tells⟩
      · refine ⟨_, scans, ?_, .ahead asked (map_eq_error.mpr ran) ranLog ranLedger told⟩
        rw [Session.next, Deed.job, leftBy_map, leftBy_of_error ran]
        exact held.refused written reads some_ ranLedger
      · -- the scan is recorded, and the reporter tells it or does not
        have kept := held.recorded written reads some_ ranLedger
        rw [sameTime, ← sameFiles] at kept
        rw [joined_of_recorded ranLedger] at told
        obtain ⟨_, _, _, _, _, _, _, _, _, _, _, rest⟩ := Store.record_ok ranLedger
        rcases tells with ran | ⟨crash, left, _, ran, unheard⟩
        · refine ⟨_, _, ?_, .both asked (map_eq_ok.mpr ⟨report, ran, rfl⟩) told⟩
          rw [Session.next, Deed.job, leftBy_map, leftBy_of_ok ran]
          exact kept
        · refine ⟨_, _, ?_, .unheard asked (map_eq_error.mpr ran)
            (unheard_congr unheard (rest ▸ stream) (rest ▸ printed)) told⟩
          rw [Session.next, Deed.job, leftBy_map, leftBy_of_error ran]
          exact kept

/-- **What one call does**, whatever the two files hold. -/
theorem holds_next (moment : Timed Deed) (holds : Holds log ledger before.files readings scans) :
    Next log ledger moment before readings scans := by
  obtain ⟨now, deed⟩ := moment
  cases deed with
  | openLog => exact next_openLog holds
  | count target text wording reporter profile counter => exact next_count holds

/-! ## Sessions -/

/-- The log and the ledger behind a session, and the events that the rows follow. -/
theorem exists_told (holds : Holds log ledger before.files [] []) (session : List (Timed Deed)) :
    ∃ readings scans told,
      Holds log ledger (Session.after (Deed.job log ledger) session before).files readings scans ∧
        told.Sublist readings ∧ List.Forall₂ Matches told scans ∧
        ((∀ earlier moment later, session = earlier ++ moment :: later →
            ¬ Ahead log ledger moment (Session.after (Deed.job log ledger) earlier before)) →
          told = readings) := by
  induction session using List.reverseRecOn with
  | nil => exact ⟨[], [], [], holds, .slnil, .nil, fun _ => rfl⟩
  | append_singleton session moment ih =>
    obtain ⟨readings, scans, told, prior, sub, follow, level⟩ := ih
    obtain ⟨readings', scans', next, effect⟩ := holds_next moment prior
    have before_ {earlier later : List (Timed Deed)} {other : Timed Deed}
        (split : session = earlier ++ other :: later) :
        session ++ [moment] = earlier ++ other :: (later ++ [moment]) := by
      rw [split, List.append_assoc, List.cons_append]
    rw [Session.after_append]
    cases effect with
    | both asked returned matches_ =>
      refine ⟨_, _, told ++ [_], next, sub.append (.refl _),
        List.rel_append follow (.cons matches_ .nil), ?_⟩
      intro never
      rw [level fun earlier other later split => never earlier other _ (before_ split)]
    | unheard asked failed refused matches_ =>
      refine ⟨_, _, told ++ [_], next, sub.append (.refl _),
        List.rel_append follow (.cons matches_ .nil), ?_⟩
      intro never
      rw [level fun earlier other later split => never earlier other _ (before_ split)]
    | ahead asked failed written refused matches_ =>
      refine ⟨_, _, told, next, sub.trans (List.sublist_append_left readings _), follow, ?_⟩
      intro never
      refine absurd ⟨_, _, failed, ?_⟩ (never session moment [] rfl)
      have left : Session.next (Deed.job log ledger)
          (Session.after (Deed.job log ledger) session before) moment = _ := leftBy_of_error failed
      rw [← left, next.events.eventsIn_eq.1, prior.events.eventsIn_eq.1, next.scansIn_eq.1,
        prior.scansIn_eq.1]
      simp
    | neither quiet =>
      exact ⟨_, _, told, next, sub, follow, fun never =>
        level fun earlier other later split => never earlier other _ (before_ split)⟩

/-- **The rows follow the events.** Whatever is done with a log and a ledger, of which neither is
there at first and of which the log is none of the files that the store keeps beside the ledger:
each call adds its scan to both, and returns its report or has it refused by the stream; or it adds
to neither; or it fails when the ledger refuses the scan whose event is already written. So the
scans that are read correspond, one to one and in order, to events that are read, and to all of
them as long as no call has left the log ahead. The log is read unless no file is there, and the
scans are read unless the ledger is empty. -/
theorem rows_follow_events (logFree : NoFile log before.files)
    (ledgerFree : NoFile ledger before.files)
    (apart : ¬ Store.Beside (before.files.spelled ledger) (before.files.spelled log))
    (session : List (Timed Deed)) :
    let at_ := Session.after (Deed.job log ledger) session before
    (∀ moment, let next := Session.next (Deed.job log ledger) at_ moment
      Effect log ledger moment at_ (eventsIn log at_.files) (scansIn ledger at_)
        (eventsIn log next.files) (scansIn ledger next)) ∧
      (∃ told, told.Sublist (eventsIn log at_.files) ∧
        List.Forall₂ Matches told (scansIn ledger at_) ∧
        ((∀ earlier moment later, session = earlier ++ moment :: later →
            ¬ Ahead log ledger moment (Session.after (Deed.job log ledger) earlier before)) →
          told = eventsIn log at_.files)) ∧
      (NoFile log at_.files ∨ ∃ events, ScanLog.readEvents at_.files log = .ok events) ∧
      (Store.ledgerAt at_.files (at_.files.spelled ledger) = {} ∨
        ∃ rows left, Store.scans ledger none at_ = .ok rows left) := by
  intro at_
  have empty : Store.ledgerAt before.files (before.files.spelled ledger) = {} := by
    rw [Store.ledgerAt]
    rcases ledgerFree with absent | folder
    · rw [absent]
    · rw [folder]
  have begins : Holds log ledger before.files [] [] :=
    ⟨apart, Or.inl ⟨rfl, logFree⟩, {}, ⟨empty, Or.inl rfl⟩, rfl, Or.inl rfl⟩
  obtain ⟨readings, scans, told, holds, sub, follow, level⟩ := exists_told begins session
  change Holds log ledger at_.files readings scans at holds
  obtain ⟨events_eq, eventsRead⟩ := holds.events.eventsIn_eq
  obtain ⟨scans_eq, scansRead⟩ := holds.scansIn_eq
  refine ⟨?_, ⟨told, ?_, ?_, ?_⟩, eventsRead, scansRead⟩
  · intro moment next
    obtain ⟨readings', scans', held, effect⟩ := holds_next moment holds
    change Holds log ledger next.files readings' scans' at held
    rw [events_eq, scans_eq, held.events.eventsIn_eq.1, held.scansIn_eq.1]
    exact effect
  · rw [events_eq]
    exact sub
  · rw [scans_eq]
    exact follow
  · rw [events_eq]
    exact level

/-- A call with a way to count that finds more than a row can hold, and one that finds less. -/
def wideThenNarrow : List (Timed Deed) :=
  [⟨.last, .count ['d'] ['d', 'a', 'd'] {} .keep none fun _ _ => 0x8000000000000000⟩,
    ⟨.last, .count ['d'] ['d', 'a', 'd'] {} .keep none scanning⟩]

/-- An empty workspace. -/
def untouched : Workspace := { files := {}, now := .last }

/-- The first of them fails and leaves an event without a row: the ledger is there, and its table of
scans is empty. -/
theorem log_runs_ahead :
    let log : FilePath := ⟨[], [['l']]⟩
    let ledger : FilePath := ⟨[], [['h']]⟩
    let after := Session.after (Deed.job log ledger) (wideThenNarrow.take 1) untouched
    (Session.answers (Deed.job log ledger) (wideThenNarrow.take 1) untouched).length = 0 ∧
      (eventsIn log after.files).length = 1 ∧ (scansIn ledger after).length = 0 ∧
      (Store.ledgerAt after.files [['h']]).scans = some {} := by
  decide +kernel

/-- Behind both, the one row follows one of the two events. -/
theorem rows_follow_events_ahead :
    let log : FilePath := ⟨[], [['l']]⟩
    let ledger : FilePath := ⟨[], [['h']]⟩
    let after := Session.after (Deed.job log ledger) wideThenNarrow untouched
    (eventsIn log after.files).length = 2 ∧ (scansIn ledger after).length = 1 ∧
      ∃ told, told.Sublist (eventsIn log after.files) ∧
        List.Forall₂ Matches told (scansIn ledger after) := by
  intro log ledger after
  have counts : (eventsIn log after.files).length = 2 ∧ (scansIn ledger after).length = 1 := by
    decide +kernel
  have logFree : NoFile log untouched.files := Or.inl rfl
  have ledgerFree : NoFile ledger untouched.files := Or.inl rfl
  have apart : ¬ Store.Beside (untouched.files.spelled ledger) (untouched.files.spelled log) := by
    decide
  obtain ⟨_, ⟨told, sub, follow, _⟩, _⟩ :=
    rows_follow_events logFree ledgerFree apart wideThenNarrow
  exact ⟨counts.1, counts.2, told, sub, follow⟩

end CharTally.Run
