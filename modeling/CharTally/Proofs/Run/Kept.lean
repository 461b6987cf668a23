import CharTally.Proofs.Ledger.History
import CharTally.Proofs.Run.Failure

/-!
# What runs keep at the path of a ledger

At a path where no ledger stands at first, runs leave a ledger that is set up, or still
none: `Kept` says which ledger there is, and counts none as an empty one. A log that is
opened or written apart from it keeps it (`Kept.of_start`, `Kept.of_emit`), and so does
a scan that is refused, except that the ledger may be set up by then (`kept_of_refused`).
A scan that is recorded is one step on the ledger that setting up makes of the one that
was kept (`kept_of_recorded`).

What is written beside a ledger can be in its way: a folder there, or a document where
its pages would be. `LeavesBeside` says that nothing of this kind comes, and `LogApart`
that a log is not of this kind.
-/

namespace CharTally.Run

variable {path : FilePath} {files made later : Files} {place : Place} {before after : Workspace}
  {held content : Ledger} {report : Report} {profile action : Option Text} {failure : Failure}

/-! ## Ledgers that are kept -/

/-- At a path stands a ledger that is set up, or none, which counts as an empty one. -/
def Kept (path : FilePath) (files : Files) (held : Ledger) : Prop :=
  Store.ledgerAt files (files.spelled path) = held ∧
    (held = {} ∨ Store.Tended path files (some held))

/-- What is kept is ready once it is set up. -/
theorem Kept.ready_migrate (kept : Kept path files held) (now : Instant) :
    Ledger.Ready (held.migrate now) := by
  rcases kept.2 with rfl | ⟨_, ready⟩
  · exact Ledger.ready_migrate_empty now
  · rw [Ledger.migrate_of_ready now (ready held rfl)]
    exact ready held rfl

/-- No folder comes beside a place, and no pages come there. -/
structure LeavesBeside (place : Place) (files later : Files) : Prop where
  folder : ∀ other, Store.Beside place other → later.get? other = some .folder →
    files.get? other = some .folder
  pages : files.bytesAt (Store.pagesOf place) = [] → later.bytesAt (Store.pagesOf place) = []

theorem LeavesBeside.refl (place : Place) (files : Files) : LeavesBeside place files files :=
  ⟨fun _ _ folder => folder, fun none_ => none_⟩

/-- A document that is written elsewhere leaves alone what is beside a place. -/
theorem LeavesBeside.append {log : FilePath} {more : List UInt8}
    (added : files.append log more = .ok later) (apart : files.spelled log ≠ Store.pagesOf place) :
    LeavesBeside place files later where
  folder _ _ := Files.folder_of_append added
  pages none_ := by
    rw [← none_]
    refine Store.bytesAt_of_get?_eq ?_
    obtain ⟨there, located, outcome⟩ := Files.append_eq_ok added
    rw [← Files.eq_spelled located] at apart
    rcases outcome with ⟨absent, rfl⟩ | ⟨bytes, present, rfl⟩ | ⟨content, _, rfl⟩
    · exact Files.get?_set_of_ne files _ (Files.isStart_eq_false (by simp [absent])) apart.symm
    · exact Files.get?_set_of_ne files _ (Files.isStart_eq_false (by simp [present])) apart.symm
    · rfl

/-- Folders that are added elsewhere leave it alone too. -/
theorem LeavesBeside.of_grows (grown : Files.Grows files later)
    (folder : ∀ other, Store.Beside place other → later.get? other = some .folder →
      files.get? other = some .folder) : LeavesBeside place files later where
  folder := folder
  pages := Store.bytesAt_of_grows grown

/-- A log, if one is named, is not in a folder beside the ledger at a path, nor in the place of its
pages. -/
structure LogApart (files : Files) (path : FilePath) (log : Option FilePath) : Prop where
  folders : ∀ file ∈ log, ∀ other, Store.Beside (files.spelled path) other →
    ¬ Files.OnWay files file.parent other
  pages : ∀ file ∈ log, files.spelled file ≠ Store.pagesOf (files.spelled path)

instance (files : Files) (path : FilePath) (log : Option FilePath) :
    Decidable (LogApart files path log) :=
  decidable_of_iff
    ((∀ file ∈ log, ∀ other ∈ [Store.journalOf (files.spelled path),
        Store.pagesOf (files.spelled path), Store.indexOf (files.spelled path)],
      ¬ Files.OnWay files file.parent other) ∧
      ∀ file ∈ log, files.spelled file ≠ Store.pagesOf (files.spelled path))
    ⟨fun ⟨folders, pages⟩ => ⟨by simpa [Store.Beside] using folders, pages⟩,
      fun ⟨folders, pages⟩ => ⟨by simpa [Store.Beside] using folders, pages⟩⟩

theorem LogApart.of_here {log : Option FilePath} (same : later.here = files.here)
    (apart : LogApart files path log) : LogApart later path log where
  folders file named other isBeside := by
    rw [Files.spelled_of_here same] at isBeside
    rw [Files.onWay_of_here same]
    exact apart.folders file named other isBeside
  pages file named := by
    rw [Files.spelled_of_here same, Files.spelled_of_here same]
    exact apart.pages file named

/-- A log that is opened apart from the ledger leaves alone what is beside it. -/
theorem LogApart.leavesBeside {log : Option FilePath} (apart : LogApart files path log)
    (grown : Files.GrowsOn log files later) : LeavesBeside (files.spelled path) files later := by
  refine .of_grows grown.toGrows fun other isBeside folder => ?_
  rwa [grown.off other fun file named => apart.folders file named other isBeside] at folder

/-- A ledger that is tended stays so where ledgers are left alone, and what is beside it. -/
theorem tended_of_keepsLedgers (keeps : Files.KeepsLedgers files later)
    (leaves : LeavesBeside (files.spelled path) files later)
    (tended : Store.Tended path files (some held)) : Store.Tended path later (some held) := by
  obtain ⟨⟨file, place, located, opens, rfl, sound⟩, ready⟩ := tended
  have found := Store.get?_of_ledgerAt_ne (ready _ rfl).ne_empty
  rw [← Files.eq_spelled located] at leaves
  refine ⟨⟨file, place, Files.locate_of_keepsFolders keeps.folders located,
    Or.inr (Or.inr ⟨_, (keeps.ledgers place _).mpr found⟩),
    Store.ledgerAt_of_keepsLedgers keeps place,
    sound.of_folders keeps.folders.here leaves.folder fun folder => Or.inr (leaves.pages ?_)⟩,
    ready⟩
  -- the ledger itself is not empty, so there were no pages
  refine (sound.index (leaves.folder _ (Or.inr (Or.inr rfl)) folder)).resolve_left ?_
  rw [Files.bytesAt, found]
  exact List.cons_ne_nil _ _

theorem Kept.of_keepsLedgers (keeps : Files.KeepsLedgers files later)
    (leaves : LeavesBeside (files.spelled path) files later)
    (kept : Kept path files held) : Kept path later held := by
  obtain ⟨rfl, none_ | tended⟩ := kept
  · refine ⟨?_, Or.inl none_⟩
    rw [Files.spelled_of_here keeps.folders.here, Store.ledgerAt_of_keepsLedgers keeps]
  · refine ⟨?_, Or.inr (tended_of_keepsLedgers keeps leaves tended)⟩
    rw [Files.spelled_of_here keeps.folders.here, Store.ledgerAt_of_keepsLedgers keeps]

/-- Writing to a document does nothing to a ledger, unless it stands where its pages would. -/
theorem Kept.append {log : FilePath} {more : List UInt8} (kept : Kept path files held)
    (added : files.append log more = .ok later)
    (apart : files.spelled log ≠ Store.pagesOf (files.spelled path)) : Kept path later held :=
  kept.of_keepsLedgers (.append added) (.append added apart)

/-- A log that is opened apart from it may make folders. -/
theorem Kept.of_start {log : Option FilePath} (kept : Kept path before.files held)
    (apart : LogApart before.files path log) :
    Kept path (leftBy (ScanLog.start log) before).files held := by
  obtain ⟨opened, left, grown⟩ := ScanLog.leftBy_start log before
  rw [left]
  exact kept.of_keepsLedgers (.of_grows grown.toGrows) (apart.leavesBeside grown)

/-- A log that is apart from the ledger leaves it, and what is beside it, when it is written. -/
theorem LogApart.leftBy_emit {log : ScanLog} (apart : LogApart before.files path log.path)
    (report : Report) (profile : Option Text) :
    ∃ files, leftBy (log.emit report profile) before = { before with files } ∧
      Files.KeepsLedgers before.files files ∧
      LeavesBeside (before.files.spelled path) before.files files := by
  obtain ⟨files, left, rfl | ⟨file, more, named, added⟩⟩ :=
    ScanLog.leftBy_emit_appends log report profile before
  · exact ⟨before.files, left, .refl _, .refl _ _⟩
  · exact ⟨files, left, .append added, .append added (apart.pages file named)⟩

/-- A log that is apart from it may be written or not. -/
theorem Kept.of_emit {log : ScanLog} (kept : Kept path before.files held)
    (apart : LogApart before.files path log.path) (report : Report) (profile : Option Text) :
    Kept path (leftBy (log.emit report profile) before).files held := by
  obtain ⟨files, left, keeps, leaves⟩ := apart.leftBy_emit report profile
  rw [left]
  exact kept.of_keepsLedgers keeps leaves

/-! ## Jobs on the ledger -/

/-- The folders above the ledger are there, or none of it is. -/
theorem Kept.of_folders (kept : Kept path files held) :
    Kept path (leftBy (Files.ensureFolders path.parent) files) held := by
  have grown := Files.leftBy_ensureFolders_grows path.parent files
  obtain ⟨rfl, none_ | tended⟩ := kept
  · refine ⟨?_, Or.inl none_⟩
    rw [Files.spelled_of_here grown.here, Store.ledgerAt_of_keepsLedgers (.of_grows grown)]
  · obtain ⟨_, place, located, opens, _⟩ := tended.1
    rw [leftBy_of_ok (Files.ensureFolders_parent_of_locate located opens.not_folder)]
    exact ⟨rfl, Or.inr tended⟩

/-- What work at the place of a ledger yields is tended there, if its place can be written. -/
theorem tended_of_yields (file : path.toText ≠ Store.noFile)
    (located : files.locate path = .ok place)
    (yields : Store.Yields place content files later) (sound : Store.Sound later path place)
    (ready : Ledger.Ready content) : Kept path later content := by
  have locatedThen := Files.locate_of_keepsFolders yields.keepsFolders located
  refine ⟨?_, Or.inr ⟨⟨file, place, locatedThen, yields.opens, yields.content, sound⟩, ?_⟩⟩
  · rw [← Files.eq_spelled locatedThen, yields.content]
  · rintro _ ⟨⟩
    exact ready

/-- The place of a ledger that is kept can be written once it is set up. -/
theorem Kept.sound_of_readied (kept : Kept path made held)
    (readied : Store.Readied path before.now place made later) : Store.Sound later path place := by
  obtain ⟨rfl, none_ | tended⟩ := kept
  · rw [← Files.eq_spelled readied.located] at none_
    have changed := Ledger.migrate_ne_empty before.now (Store.ledgerAt made place)
    exact Store.sound_of_writable readied.shortThen readied.settled
      (readied.writable fun same => changed (same.trans none_))
  · obtain ⟨_, there, located, _, _, sound⟩ := tended.1
    cases readied.located.symm.trans located
    exact sound.of_settled readied.yields.toTouches readied.settled

/-- Setting up leaves the ledger as it was, or set up. -/
theorem kept_of_setUp (kept : Kept path before.files held)
    (ran : Store.setUp path before = .ok () after) :
    ∃ held', Kept path after.files held' ∧ (held' = held ∨ held' = held.migrate before.now) := by
  obtain ⟨made, worked, outcome⟩ := Store.setUp_eq_ok ran
  have keptMade := kept.of_folders
  rw [leftBy_of_ok worked] at keptMade
  rcases outcome with ⟨_, rfl⟩ | ⟨place, later, readied, rfl⟩
  · exact ⟨held, keptMade, Or.inl rfl⟩
  · have sound := keptMade.sound_of_readied readied
    have yields := readied.yields
    rw [Files.eq_spelled readied.located, keptMade.1] at yields
    rw [Files.eq_spelled readied.located] at sound
    refine ⟨_, tended_of_yields readied.file ?_ yields sound (keptMade.ready_migrate before.now),
      Or.inr rfl⟩
    rw [← Files.eq_spelled readied.located]
    exact readied.located

/-- Setting up that fails leaves the ledger as it was. -/
theorem kept_of_unready (kept : Kept path before.files held)
    (failed : Store.setUp path before = .error failure after) : Kept path after.files held := by
  have keptMade := kept.of_folders
  rcases kept.2 with none_ | tended
  · rcases bind_eq_error.mp failed with unmade | ⟨_, middle, folders, rest⟩
    · obtain ⟨fault, left, worked, _, rfl⟩ := Store.onFiles_eq_error unmade
      rw [leftBy_of_error worked] at keptMade
      exact keptMade
    · obtain ⟨made, worked, rfl⟩ := Store.onFiles_eq_ok folders
      rw [leftBy_of_ok worked] at keptMade
      rcases bind_eq_error.mp rest with unread | ⟨_, _, read, unopened⟩
      · cases unread
      · cases read
        rcases Store.onLedger_eq_error unopened with rfl | ⟨place, later, located, refused, rfl⟩
        · exact keptMade
        · obtain ⟨tidies, _⟩ := Store.stepAt_eq_error refused
          refine ⟨?_, Or.inl none_⟩
          rw [← keptMade.1, Files.spelled_of_here tidies.here, ← Files.eq_spelled located]
          exact tidies.same
  · -- it does not fail where a ledger stands
    obtain ⟨_, ran, _⟩ := Store.setUp_of_stands tended.1
    cases ran.symm.trans failed

/-- Setting up adds no rows. -/
theorem rows_of_same {held' : Ledger} {now : Instant}
    (same : held' = held ∨ held' = held.migrate now) : held'.rows = held.rows := by
  rcases same with rfl | rfl
  · rfl
  · exact Ledger.rows_migrate now held

/-- A scan that is refused leaves the ledger as it was, or set up. -/
theorem kept_of_refused (kept : Kept path before.files held)
    (refused : Store.record path report profile action before = .error failure after) :
    ∃ held', Kept path after.files held' ∧ (held' = held ∨ held' = held.migrate before.now) := by
  rcases Store.setUp_of_refused refused with ran | ⟨unready, stopped⟩
  · exact kept_of_setUp kept ran
  · exact ⟨held, kept_of_unready kept stopped, Or.inl rfl⟩

/-- A scan that is recorded is a step on the ledger that was kept, which is set up first. -/
theorem kept_of_recorded {id : Nat} (kept : Kept path before.files held)
    (recorded : Store.record path report profile action before = .ok id after) :
    ∃ left, Kept path after.files left ∧ left ≠ {} ∧
      Ledger.record (Store.scanOf report profile before.now) action (held.migrate before.now) =
        .ok id left := by
  obtain ⟨made, place, left, later, worked, file, located, opens, row, yields, sound, rfl⟩ :=
    Store.record_ok recorded
  have keptMade := kept.of_folders
  rw [leftBy_of_ok worked] at keptMade
  have prior : Store.ledgerAt made place = held := by
    rw [Files.eq_spelled located, keptMade.1]
  rw [prior] at row
  have ready := (keptMade.ready_migrate before.now).record row
  exact ⟨left, tended_of_yields file located yields sound ready, ready.ne_empty, row⟩

end CharTally.Run
