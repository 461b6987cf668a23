import CharTally.Proofs.Ledger.Opening

/-!
# Ledgers in files

A job on a ledger takes its step at the place that the path leads to
(`onLedger_eq_ok`, `onLedger_eq_error`). What setting up leaves is settled, so a job
that sets the ledger up and then takes a step is one step on the ledger that was set
up: `record_ok` says this of a scan that is recorded, and `record_failed_leaves_setUp`
says that a scan that is not recorded leaves the workspace that setting up alone leaves.

`Stands` is the state in which nothing of this fails but the step itself.
-/

namespace CharTally.Store

variable {α : Type} {files made later : Files} {path : FilePath} {action : LedgerAction}
  {place : Place} {content : Ledger} {before after : Workspace} {step : Ledger.Step α} {value : α}
  {failure : Failure}

/-! ## Steps -/

theorem placeOf_eq_ok : placeOf files path action = .ok place ↔
    files.locate path = .ok place ∧ isTooLong files path = false := by
  rw [placeOf]
  cases files.locate path with
  | error fault => cases fault <;> simp
  | ok here => cases isTooLong files path <;> simp

theorem onFiles_eq_ok {ε : Type} {work : EStateM ε Files α} {failure : ε → Failure}
    (ran : Job.onFiles work failure before = .ok value after) :
    ∃ files, work before.files = .ok value files ∧ after = { before with files } := by
  unfold Job.onFiles at ran
  cases worked : work before.files with
  | ok answer files => rw [worked] at ran; cases ran; exact ⟨files, rfl, rfl⟩
  | error fault files => rw [worked] at ran; cases ran

theorem onFiles_eq_error {ε : Type} {work : EStateM ε Files α} {failure : ε → Failure}
    {left : Failure} (failed : Job.onFiles work failure before = .error left after) :
    ∃ fault files, work before.files = .error fault files ∧ left = failure fault ∧
      after = { before with files } := by
  unfold Job.onFiles at failed
  cases worked : work before.files with
  | ok answer files => rw [worked] at failed; cases failed
  | error fault files => rw [worked] at failed; cases failed; exact ⟨fault, files, rfl, rfl, rfl⟩

/-- A step on an empty ledger that is kept nowhere leaves the files. -/
theorem leftBy_stepNowhere (path : FilePath) (action : LedgerAction) (step : Ledger.Step α)
    (files : Files) :
    leftBy (stepNowhere path action step) files = files := by
  rw [leftBy, stepNowhere]
  cases step {} <;> rfl

theorem stepNowhere_eq_ok (ran : stepNowhere path action step files = .ok value later) :
    later = files ∧ ∃ left, step {} = .ok value left := by
  rw [stepNowhere] at ran
  cases stepped : step {} with
  | ok answer left => rw [stepped] at ran; cases ran; exact ⟨rfl, left, rfl⟩
  | error fault left => rw [stepped] at ran; cases ran

/-- A job on a ledger takes its step on an empty one, or at the place of the path. -/
theorem onLedger_eq_ok (ran : onLedger path action step before = .ok value after) :
    (path.toText = noFile ∧ after = before ∧ ∃ left, step {} = .ok value left) ∨
      ∃ place later, path.toText ≠ noFile ∧ before.files.locate path = .ok place ∧
        isTooLong before.files path = false ∧
        stepAt place path action step before.files = .ok value later ∧
        after = { before with files := later } := by
  unfold onLedger at ran
  split at ran
  case isTrue memory =>
    obtain ⟨files, worked, rfl⟩ := onFiles_eq_ok ran
    obtain ⟨rfl, stepped⟩ := stepNowhere_eq_ok worked
    exact Or.inl ⟨memory, rfl, stepped⟩
  case isFalse file =>
    cases found : placeOf before.files path action with
    | error failure => rw [found] at ran; cases ran
    | ok place =>
      rw [found] at ran
      obtain ⟨located, short⟩ := placeOf_eq_ok.mp found
      obtain ⟨later, worked, rfl⟩ := onFiles_eq_ok ran
      exact Or.inr ⟨place, later, file, located, short, worked, rfl⟩

/-- A job on a ledger that fails changes nothing, or fails at the place of the path. -/
theorem onLedger_eq_error (failed : onLedger path action step before = .error failure after) :
    after = before ∨ ∃ place later, before.files.locate path = .ok place ∧
      stepAt place path action step before.files = .error failure later ∧
      after = { before with files := later } := by
  unfold onLedger at failed
  split at failed
  case isTrue =>
    obtain ⟨fault, files, worked, _, rfl⟩ := onFiles_eq_error failed
    have left := leftBy_stepNowhere path action step before.files
    rw [leftBy_of_error worked] at left
    rw [left]
    exact Or.inl rfl
  case isFalse =>
    cases found : placeOf before.files path action with
    | error failure => rw [found] at failed; cases failed; exact Or.inl rfl
    | ok place =>
      rw [found] at failed
      obtain ⟨fault, later, worked, rfl, rfl⟩ := onFiles_eq_error failed
      exact Or.inr ⟨place, later, (placeOf_eq_ok.mp found).1, worked, rfl⟩

/-- Whether or not it fails, a job on a ledger touches the place of its path at most. -/
theorem leftBy_onLedger (path : FilePath) (action : LedgerAction) (step : Ledger.Step α)
    (before : Workspace) :
    ∃ files, leftBy (onLedger path action step) before = { before with files } ∧
      Touches (before.files.spelled path) before.files files := by
  cases ran : onLedger path action step before with
  | ok value after =>
    rw [leftBy_of_ok ran]
    rcases onLedger_eq_ok ran with ⟨_, rfl, _⟩ | ⟨place, later, _, located, _, took, rfl⟩
    · exact ⟨after.files, rfl, .refl _ _⟩
    · obtain ⟨_, _, _, yields, _⟩ := stepAt_eq_ok took
      exact ⟨later, rfl, Files.eq_spelled located ▸ yields.toTouches⟩
  | error failure after =>
    rw [leftBy_of_error ran]
    rcases onLedger_eq_error ran with rfl | ⟨place, later, located, failed, rfl⟩
    · exact ⟨after.files, rfl, .refl _ _⟩
    · obtain ⟨tidies, _⟩ := stepAt_eq_error failed
      exact ⟨later, rfl, Files.eq_spelled located ▸ tidies.toTouches⟩

/-- A ledger behind a job on one is what was opened at its place, or what the step left of it. -/
theorem found_of_onLedger (path : FilePath) (action : LedgerAction) (step : Ledger.Step α)
    (before : Workspace) :
    ∃ files, leftBy (onLedger path action step) before = { before with files } ∧
      ∀ place content, files.get? place = some (.ledger content) →
        content = ledgerAt before.files place ∨
          content = leftBy step (ledgerAt before.files place) := by
  cases ran : onLedger path action step before with
  | ok value after =>
    rw [leftBy_of_ok ran]
    rcases onLedger_eq_ok ran with ⟨_, rfl, _⟩ | ⟨home, later, _, _, _, took, rfl⟩
    · exact ⟨after.files, rfl, fun place content found => Or.inl (ledgerAt_of_found found).symm⟩
    · obtain ⟨latter, _, stepped, yields, _⟩ := stepAt_eq_ok took
      refine ⟨later, rfl, fun place content found => ?_⟩
      by_cases own : place = home
      · subst own
        rw [leftBy_of_ok stepped, ← yields.content, ledgerAt_of_found found]
        exact Or.inr rfl
      · exact Or.inl (yields.found_elsewhere own found)
  | error failure after =>
    rw [leftBy_of_error ran]
    rcases onLedger_eq_error ran with rfl | ⟨home, later, _, failed, rfl⟩
    · exact ⟨after.files, rfl, fun place content found => Or.inl (ledgerAt_of_found found).symm⟩
    · obtain ⟨tidies, _⟩ := stepAt_eq_error failed
      refine ⟨later, rfl, fun place content found => Or.inl ?_⟩
      by_cases own : place = home
      · subst own
        rw [← tidies.same, ledgerAt_of_found found]
      · exact tidies.found_elsewhere own found

theorem onLedger_of_located (file : path.toText ≠ noFile)
    (located : before.files.locate path = .ok place) (short : isTooLong before.files path = false) :
    onLedger path action step before =
      Job.onFiles (stepAt place path action step) id before := by
  rw [onLedger, if_neg file, placeOf_eq_ok.mpr ⟨located, short⟩]

/-! ## Elsewhere -/

/-- What becomes of a place where the ledger does not stand by a job on it: it is as it was, a
folder was made there, or it is beside the ledger and what stood there is gone. -/
def Elsewhere (home : Place) (files later : Files) (place : Place) : Prop :=
  later.get? place = files.get? place ∨
    files.get? place = none ∧ later.get? place = some .folder ∨
    Beside home place ∧ files.get? place ≠ some .folder ∧ later.get? place = none

theorem Elsewhere.of_grows {home place : Place} {files made later : Files}
    (grown : Files.Grows files made) (stays : Stays home made later place) :
    Elsewhere home files later place := by
  rcases grown.places place with same | ⟨absent, folder⟩
  · rcases stays with still | ⟨isBeside, notFolder, gone⟩
    · exact Or.inl (still.trans same)
    · exact Or.inr (Or.inr ⟨isBeside, same ▸ notFolder, gone⟩)
  · rcases stays with still | ⟨isBeside, notFolder, gone⟩
    · exact Or.inr (Or.inl ⟨absent, still.trans folder⟩)
    · exact Or.inl (gone.trans absent.symm)

/-! ## Setting up -/

/-- Setting up yields the ledger with the tables that it lacked, and what it leaves is settled. If
it lacked any, its place can be written. -/
structure Readied (path : FilePath) (now : Instant) (place : Place) (made later : Files) :
    Prop where
  file : path.toText ≠ noFile
  located : made.locate path = .ok place
  short : isTooLong made path = false
  opens : Opens made place
  yields : Yields place ((ledgerAt made place).migrate now) made later
  settled : Settled place later
  writable : (ledgerAt made place).migrate now ≠ ledgerAt made place →
    isWritable later place = true

theorem Readied.locatedThen {now : Instant} (readied : Readied path now place made later) :
    later.locate path = .ok place :=
  Files.locate_of_keepsFolders readied.yields.keepsFolders readied.located

theorem Readied.shortThen {now : Instant} (readied : Readied path now place made later) :
    isTooLong later path = false :=
  (isTooLong_of_here readied.yields.here path).trans readied.short

/-- Setting up makes the folders above the ledger and then the tables that it lacks. -/
theorem setUp_eq_ok (ran : setUp path before = .ok () after) :
    ∃ made, Files.ensureFolders path.parent before.files = .ok () made ∧
      (path.toText = noFile ∧ after = { before with files := made } ∨
        ∃ place later, Readied path before.now place made later ∧
          after = { before with files := later }) := by
  obtain ⟨_, grown, folders, rest⟩ := bind_eq_ok.mp ran
  obtain ⟨made, worked, rfl⟩ := onFiles_eq_ok folders
  obtain ⟨now, _, read, migrated⟩ := bind_eq_ok.mp rest
  cases read
  refine ⟨made, worked, ?_⟩
  rcases onLedger_eq_ok migrated with
    ⟨memory, rfl, _⟩ | ⟨place, later, file, located, short, stepped, rfl⟩
  · exact Or.inl ⟨memory, rfl⟩
  · obtain ⟨latter, opens, ranStep, yields, settled, writable⟩ := stepAt_eq_ok stepped
    cases ranStep
    exact Or.inr ⟨place, later, ⟨file, located, short, opens, yields, settled, writable⟩, rfl⟩

/-- Behind setting up, a step that fails changes nothing. -/
theorem onLedger_eq_error_of_setUp (ran : setUp path before = .ok () after) {left : Workspace}
    (failed : onLedger path action step after = .error failure left) : left = after := by
  rcases onLedger_eq_error failed with same | ⟨place, later, located, stepped, rfl⟩
  · exact same
  · obtain ⟨made, _, ⟨memory, rfl⟩ | ⟨there, files, readied, rfl⟩⟩ := setUp_eq_ok ran
    · -- no step is taken at a place
      unfold onLedger at failed
      rw [if_pos memory] at failed
      obtain ⟨_, _, worked, _, same⟩ := onFiles_eq_error failed
      have stays := leftBy_stepNowhere path action step made
      rw [leftBy_of_error worked] at stays
      rw [same, stays]
    · cases readied.locatedThen.symm.trans located
      rw [stepAt_eq_error_of_settled readied.settled readied.yields.opens stepped]

/-! ## Recording -/

variable {report : Report} {profile audited : Option Text} {id : Nat}

/-- The scan of a report at a time. -/
def scanOf (report : Report) (profile : Option Text) (now : Instant) : Scan :=
  ⟨report.target, report.text, report.count, profile, now⟩

/-- A scan that is refused leaves what setting up leaves, whether or not that fails as well. -/
theorem setUp_of_refused
    (refused : record path report profile audited before = .error failure after) :
    setUp path before = .ok () after ∨ ∃ unready, setUp path before = .error unready after := by
  rcases bind_eq_error.mp refused with unready | ⟨_, ready, ran, rest⟩
  · exact Or.inr ⟨failure, unready⟩
  · rcases bind_eq_error.mp rest with unread | ⟨now, _, read, recorded⟩
    · cases unread
    · cases read
      rw [onLedger_eq_error_of_setUp ran recorded]
      exact Or.inl ran

/-- **A scan is recorded whole or not at all.** Whatever stands at the path and however recording a
scan fails, it leaves the workspace that setting up alone leaves: the same rows in every table, the
same last number of every table, the same files. -/
theorem record_failed_leaves_setUp {failure : Failure}
    (failed : record path report profile audited before = .error failure after) :
    after = leftBy (setUp path) before := by
  rcases setUp_of_refused failed with ran | ⟨unready, stopped⟩
  · exact (leftBy_of_ok ran).symm
  · exact (leftBy_of_error stopped).symm

/-- A ledger with one recorded scan, whose audit trail was dropped. -/
def withoutTrail : Workspace where
  files := { entries := [([['h']], .ledger ⟨some [⟨1, .last⟩],
    some ⟨3, [(2, ⟨['a'], ['a'], 1, none, .last⟩)]⟩, none⟩)] }
  now := .last

/-- The scan is inserted, its line has no table to go to, and the scan is taken back. -/
theorem record_failed_leaves_setUp_without_trail :
    record ⟨[], [['h']]⟩ ⟨['d'], ⟨['d', '\x00', 'd']⟩, 1, {}⟩ none (some ['c']) withoutTrail =
        .error (refusal ⟨[], [['h']]⟩ .recordScan (.noTable .auditLog)) withoutTrail ∧
      withoutTrail = leftBy (setUp ⟨[], [['h']]⟩) withoutTrail := by
  have failed : record ⟨[], [['h']]⟩ ⟨['d'], ⟨['d', '\x00', 'd']⟩, 1, {}⟩ none (some ['c'])
      withoutTrail =
        .error (refusal ⟨[], [['h']]⟩ .recordScan (.noTable .auditLog)) withoutTrail := by
    rfl
  exact ⟨failed, record_failed_leaves_setUp failed⟩

/-- A settled ledger that can be written is one on which every step can be taken. -/
theorem sound_of_writable (short : isTooLong files path = false) (settled : Settled place files)
    (writable : isWritable files place = true) : Sound files path place :=
  ⟨short, writable, settled.pages.1, fun _ => Or.inr settled.pages.2⟩

/-- A recorded scan is one more row of the ledger that setting up leaves at the place of the path;
nothing else changes. -/
theorem record_ok (recorded : record path report profile audited before = .ok id after) :
    ∃ made place left later, Files.ensureFolders path.parent before.files = .ok () made ∧
      path.toText ≠ noFile ∧ made.locate path = .ok place ∧ Opens made place ∧
      Ledger.record (scanOf report profile before.now) audited
        ((ledgerAt made place).migrate before.now) = .ok id left ∧
      Yields place left made later ∧ Sound later path place ∧
      after = { before with files := later } := by
  obtain ⟨_, ready, ran, rest⟩ := bind_eq_ok.mp recorded
  obtain ⟨now, _, read, stepped⟩ := bind_eq_ok.mp rest
  cases read
  obtain ⟨made, worked, ⟨memory, rfl⟩ | ⟨place, middle, readied, rfl⟩⟩ := setUp_eq_ok ran
  · -- what is opened at no file is empty each time, and has no table for the row
    rcases onLedger_eq_ok stepped with ⟨_, _, left, row⟩ | ⟨_, _, file, _⟩
    · obtain ⟨table, missing, _⟩ := Ledger.record_ok row
      cases missing
    · exact absurd memory file
  · rcases onLedger_eq_ok stepped with
      ⟨memory, _⟩ | ⟨there, later, file, located, short, tookStep, rfl⟩
    · exact absurd memory readied.file
    · cases readied.locatedThen.symm.trans located
      obtain ⟨left, _, row, yields, settled, writable⟩ := stepAt_eq_ok tookStep
      rw [readied.yields.content] at row writable
      have shortThen := (isTooLong_of_here yields.here path).trans short
      exact ⟨made, place, left, later, worked, file, readied.located, readied.opens, row,
        readied.yields.trans yields,
        sound_of_writable shortThen settled (writable (Ledger.ne_of_record row)), rfl⟩

/-! ## What stands at a path -/

/-- At a path for a ledger file stands the ledger, or nothing and there is room for one. Its place
is sound, so every step can be taken there. -/
def Stands (path : FilePath) (files : Files) : Option Ledger → Prop
  | none =>
    path.toText ≠ noFile ∧ ∃ made place, Files.ensureFolders path.parent files = .ok () made ∧
      made.locate path = .ok place ∧ made.get? place = none ∧ Sound made path place
  | some content =>
    path.toText ≠ noFile ∧ ∃ place, files.locate path = .ok place ∧ Opens files place ∧
      ledgerAt files place = content ∧ Sound files path place

/-- Where nothing stands, the path is vacant. -/
theorem Stands.vacant (stands : Stands path files none) : Files.Vacant path files := by
  obtain ⟨_, made, place, ran, located, absent, _⟩ := stands
  exact ⟨made, place, ran, located, absent⟩

theorem Stands.of_found (file : path.toText ≠ noFile) (located : files.locate path = .ok place)
    (found : files.get? place = some (.ledger content)) (sound : Sound files path place) :
    Stands path files (some content) :=
  ⟨file, place, located, Or.inr (Or.inr ⟨content, found⟩), ledgerAt_of_found found, sound⟩

theorem Stands.of_yields {latter : Ledger} (file : path.toText ≠ noFile)
    (located : files.locate path = .ok place) (sound : Sound files path place)
    (yields : Yields place latter files later) (settled : Settled place later) :
    Stands path later (some latter) :=
  ⟨file, place, Files.locate_of_keepsFolders yields.keepsFolders located, yields.opens,
    yields.content, sound.of_settled yields.toTouches settled⟩

/-- A step on a ledger that stands at a path leaves there what it leaves of the ledger, or the
ledger as it was if it fails. -/
theorem onLedger_of_stands (action : LedgerAction)
    (stands : Stands path before.files (some content)) (step : Ledger.Step α) :
    match step content with
    | .ok value latter =>
      ∃ files, onLedger path action step before = .ok value { before with files } ∧
        Stands path files (some latter)
    | .error fault _ =>
      ∃ files, onLedger path action step before =
          .error (ofFault path action fault) { before with files } ∧
        Stands path files (some content) := by
  obtain ⟨file, place, located, opens, rfl, sound⟩ := stands
  have onward := stepAt_of_sound action sound opens step
  rw [onLedger_of_located file located sound.short]
  cases stepped : step (ledgerAt before.files place) with
  | ok value latter =>
    rw [stepped] at onward
    obtain ⟨files, took, yields, settled⟩ := onward
    refine ⟨files, ?_, .of_yields file located sound yields settled⟩
    rw [Job.onFiles, took]
  | error fault latter =>
    rw [stepped] at onward
    obtain ⟨files, took, yields, settled⟩ := onward
    refine ⟨files, ?_, .of_yields file located sound yields settled⟩
    rw [Job.onFiles, took]
    rfl

/-- Setting up succeeds at a sound place where something can be opened. -/
theorem setUp_of_sound (file : path.toText ≠ noFile)
    (folders : Files.ensureFolders path.parent before.files = .ok () made)
    (located : made.locate path = .ok place) (opens : Opens made place)
    (sound : Sound made path place) :
    ∃ files, setUp path before = .ok () { before with files } ∧
      Yields place ((ledgerAt made place).migrate before.now) made files ∧
      Settled place files := by
  have worked : Job.onFiles (Files.ensureFolders path.parent) (ofFolderFault path) before =
      .ok () { before with files := made } := by
    rw [Job.onFiles, folders]
  obtain ⟨files, took, yields, settled⟩ :=
    stepAt_of_sound .setUp sound opens (modify (Ledger.migrate before.now) : Ledger.Step Unit)
  refine ⟨files, ?_, yields, settled⟩
  rw [setUp, bind_of_ok worked]
  have migrated : onLedger path .setUp (modify (Ledger.migrate before.now))
      { before with files := made } = .ok () { before with files } := by
    rw [onLedger_of_located file located sound.short, Job.onFiles, took]
  exact migrated

/-- Setting up succeeds and leaves the ledger set up. -/
theorem setUp_of_stands {held : Option Ledger} (stands : Stands path before.files held) :
    ∃ files, setUp path before = .ok () { before with files } ∧
      Stands path files (some ((held.getD {}).migrate before.now)) := by
  obtain ⟨file, made, place, folders, located, opens, content, sound⟩ :
      path.toText ≠ noFile ∧ ∃ made place,
        Files.ensureFolders path.parent before.files = .ok () made ∧
        made.locate path = .ok place ∧ Opens made place ∧
        ledgerAt made place = held.getD {} ∧ Sound made path place := by
    cases held with
    | none =>
      obtain ⟨file, made, place, worked, located, absent, sound⟩ := stands
      refine ⟨file, made, place, worked, located, Or.inl absent, ?_, sound⟩
      rw [ledgerAt, absent]
      rfl
    | some content =>
      obtain ⟨file, place, located, opens, stands, sound⟩ := stands
      exact ⟨file, before.files, place,
        Files.ensureFolders_parent_of_locate located opens.not_folder, located, opens, stands,
        sound⟩
  obtain ⟨files, ran, yields, settled⟩ := setUp_of_sound file folders located opens sound
  rw [content] at yields
  exact ⟨files, ran, .of_yields file located sound yields settled⟩

end CharTally.Store
