import CharTally.Proofs.Ledger.Rows
import Mathlib.Data.List.Nodup

/-!
# Setting a ledger up

Every job on a ledger sets it up first, so setting up meets ledgers with any of their
tables missing and any rows in the others. `SetUp` is what it makes of them: tables that
are there stay as they are, with their rows and their last numbers, the current version
is recorded once, and where it was not recorded before no table is missing afterwards.
Setting up again does nothing more (`migrate_migrate`, `setUp_again`).

A job that only reads leaves what setting up alone leaves (`leftBy_read`), so it takes
part in all this.
-/

namespace CharTally

namespace Ledger

variable {ledger : Ledger} {recorded : List Migration} {now : Instant}

/-! ## The record of migrations -/

/-- The migrations that a ledger records; without their table, none. -/
def applied (ledger : Ledger) : List Migration := ledger.migrations.getD []

/-- A migration to the current version. -/
def isCurrent (migration : Migration) : Bool := migration.version = currentVersion

/-- No version is recorded twice, as it is the key of its table. -/
def Keyed (ledger : Ledger) : Prop := (ledger.applied.map (·.version)).Nodup

/-- What setting up at a time makes of a ledger. -/
structure SetUp (now : Instant) (before after : Ledger) : Prop where
  scans : ∀ table, before.scans = some table → after.scans = some table
  audit : ∀ table, before.audit = some table → after.audit = some table
  empty : (before.scans = none → (after.scans.getD {}) = {}) ∧
    (before.audit = none → (after.audit.getD {}) = {})
  migrations : ∃ added, after.migrations = some (before.applied ++ added)
  current : after.applied.filter isCurrent =
    [(before.applied.find? isCurrent).getD ⟨currentVersion, now.stored⟩]
  tables : (∀ migration ∈ before.applied, migration.version ≠ currentVersion) →
    ∀ name, after.hasTable name = true

/-- A ledger at the current version at most gains the table of its migrations. -/
theorem migrate_of_current (now : Instant) (current : ledger.applied.any isCurrent = true) :
    ledger.migrate now = { ledger with migrations := some ledger.applied } :=
  if_pos current

/-- A ledger that is behind gains the tables that it lacks, and a record of it. -/
theorem migrate_of_behind (now : Instant) (behind : ledger.applied.any isCurrent = false) :
    ledger.migrate now =
      { migrations := some (ledger.applied ++ [Migration.mk currentVersion now.stored])
        scans := some (ledger.scans.getD {})
        audit := some (ledger.audit.getD {}) } :=
  if_neg (ne_true_of_eq_false behind)

theorem any_isCurrent_concat (recorded : List Migration) (appliedAt : Instant) :
    (recorded ++ [Migration.mk currentVersion appliedAt]).any isCurrent = true := by
  rw [List.any_append, Bool.or_eq_true]
  exact Or.inr rfl

/-- Behind setting up, the current version is recorded, so there is nothing left to do. -/
theorem migrate_migrate (first second : Instant) (ledger : Ledger) :
    (ledger.migrate first).migrate second = ledger.migrate first := by
  cases current : ledger.applied.any isCurrent with
  | true =>
    rw [migrate_of_current first current]
    exact migrate_of_current second current
  | false =>
    rw [migrate_of_behind first current]
    exact migrate_of_current second (any_isCurrent_concat ledger.applied first.stored)

/-- Of the migrations with distinct versions, one at most is to the current version. -/
theorem filter_isCurrent (keyed : (recorded.map (·.version)).Nodup) :
    recorded.filter isCurrent = (recorded.find? isCurrent).toList := by
  induction recorded with
  | nil => rfl
  | cons migration rest ih =>
    obtain ⟨others, keyedRest⟩ := List.nodup_cons.mp keyed
    cases current : isCurrent migration with
    | false =>
      rw [List.filter_cons_of_neg (ne_true_of_eq_false current),
        List.find?_cons_of_neg (ne_true_of_eq_false current), ih keyedRest]
    | true =>
      rw [List.filter_cons_of_pos current, List.find?_cons_of_pos current]
      have none_ : rest.filter isCurrent = [] := by
        rw [List.filter_eq_nil_iff]
        intro other member also
        have same : other.version = migration.version :=
          (of_decide_eq_true also).trans (of_decide_eq_true current).symm
        exact others (List.mem_map.mpr ⟨other, member, same⟩)
      rw [none_]
      rfl

/-- The current version is recorded once behind setting up: as it was before, or now. -/
theorem filter_applied_migrate (keyed : ledger.Keyed) (now : Instant) :
    (ledger.migrate now).applied.filter isCurrent =
      [(ledger.applied.find? isCurrent).getD ⟨currentVersion, now.stored⟩] := by
  cases current : ledger.applied.any isCurrent with
  | true =>
    rw [migrate_of_current now current]
    change ledger.applied.filter isCurrent = _
    obtain ⟨migration, found⟩ := Option.isSome_iff_exists.mp
      ((List.find?_isSome).mpr (List.any_eq_true.mp current))
    rw [filter_isCurrent keyed, found]
    rfl
  | false =>
    rw [migrate_of_behind now current]
    have none_ : ledger.applied.find? isCurrent = none := by
      rw [List.find?_eq_none]
      exact List.any_eq_false.mp current
    change (ledger.applied ++ [Migration.mk currentVersion now.stored]).filter isCurrent = _
    rw [List.filter_append, filter_isCurrent keyed, none_]
    rfl

theorem Keyed.migrate (keyed : ledger.Keyed) (now : Instant) : (ledger.migrate now).Keyed := by
  cases current : ledger.applied.any isCurrent with
  | true =>
    rw [migrate_of_current now current]
    exact keyed
  | false =>
    rw [migrate_of_behind now current]
    change ((ledger.applied ++ [Migration.mk currentVersion now.stored]).map (·.version)).Nodup
    rw [List.map_append]
    refine List.nodup_append.mpr ⟨keyed, List.nodup_singleton _, ?_⟩
    intro version known other isNew same
    obtain ⟨migration, member, rfl⟩ := List.mem_map.mp known
    have behind := List.any_eq_false.mp current migration member
    rw [List.map_singleton, List.mem_singleton] at isNew
    exact behind (decide_eq_true (same.trans isNew))

theorem setUp_migrate (keyed : ledger.Keyed) (now : Instant) :
    SetUp now ledger (ledger.migrate now) := by
  have current_ := filter_applied_migrate keyed now
  obtain ⟨added, recorded⟩ := migrations_of_migrate now ledger
  cases current : ledger.applied.any isCurrent with
  | true =>
    obtain ⟨migration, member, isCurrent_⟩ := List.any_eq_true.mp current
    rw [migrate_of_current now current] at recorded current_ ⊢
    refine ⟨fun _ present => present, fun _ present => present, ?_, ⟨added, recorded⟩, current_, ?_⟩
    · exact ⟨fun absent => congrArg (·.getD {}) absent, fun absent => congrArg (·.getD {}) absent⟩
    · intro behind
      exact absurd (of_decide_eq_true isCurrent_) (behind migration member)
  | false =>
    rw [migrate_of_behind now current] at recorded current_ ⊢
    refine ⟨?_, ?_, ⟨?_, ?_⟩, ⟨added, recorded⟩, current_, ?_⟩
    · intro table present
      rw [present]
      rfl
    · intro table present
      rw [present]
      rfl
    · intro absent
      rw [absent]
      rfl
    · intro absent
      rw [absent]
      rfl
    · intro _ name
      cases name <;> rfl

end Ledger

namespace Store

variable {α : Type} {path : FilePath} {before after : Workspace}

/-! ## Ledgers in files -/

/-- Setting up again changes nothing, whatever the clock reads by then. -/
theorem setUp_again (ran : setUp path before = .ok () after) (now : Instant) :
    setUp path { after with now } = .ok () { after with now } := by
  obtain ⟨made, worked, ⟨memory, rfl⟩ | ⟨place, later, readied, rfl⟩⟩ := setUp_eq_ok ran
  · -- no file is kept, and the folders are there
    have folders : Job.onFiles (Files.ensureFolders path.parent) (ofFolderFault path)
        { before with files := made, now } = .ok () { before with files := made, now } := by
      rw [Job.onFiles, Files.ensureFolders_again worked]
    change setUp path { before with files := made, now } = _
    rw [setUp, bind_of_ok folders]
    change onLedger path .setUp (modify (Ledger.migrate now)) { before with files := made, now } = _
    rw [onLedger, if_pos memory]
    rfl
  · have opens := readied.yields.opens
    have folders : Job.onFiles (Files.ensureFolders path.parent) (ofFolderFault path)
        { before with files := later, now } = .ok () { before with files := later, now } := by
      rw [Job.onFiles, Files.ensureFolders_parent_of_locate readied.locatedThen opens.not_folder]
    have migrated : (modify (Ledger.migrate now) : Ledger.Step Unit) (ledgerAt later place) =
        .ok () (ledgerAt later place) := by
      change EStateM.Result.ok () ((ledgerAt later place).migrate now) = _
      rw [readied.yields.content, Ledger.migrate_migrate]
    change setUp path { before with files := later, now } = _
    rw [setUp, bind_of_ok folders]
    change onLedger path .setUp (modify (Ledger.migrate now))
      { before with files := later, now } = _
    rw [onLedger_of_located readied.file readied.locatedThen readied.shortThen, Job.onFiles,
      stepAt_of_settled readied.settled opens migrated]

/-- A job that only reads a ledger leaves what setting up alone leaves, even if it fails. -/
theorem leftBy_read {action : LedgerAction} {step : Ledger.Step α}
    (reads : ∀ content, leftBy step content = content) (before : Workspace) :
    leftBy (do setUp path; onLedger path action step : Job α) before =
      leftBy (setUp path) before := by
  rw [leftBy_bind]
  cases ran : setUp path before with
  | error failure left => rw [leftBy_of_error ran]
  | ok _ ready =>
    rw [leftBy_of_ok ran]
    dsimp only
    cases read : onLedger path action step ready with
    | error failure left => rw [leftBy_of_error read, onLedger_eq_error_of_setUp ran read]
    | ok value left =>
      rw [leftBy_of_ok read]
      rcases onLedger_eq_ok read with ⟨_, same, _⟩ | ⟨place, files, file, located, _, took, rfl⟩
      · exact same
      · obtain ⟨made, _, ⟨memory, _⟩ | ⟨there, later, readied, rfl⟩⟩ := setUp_eq_ok ran
        · exact absurd memory file
        · cases readied.locatedThen.symm.trans located
          obtain ⟨latter, _, stepped, _⟩ := stepAt_eq_ok took
          have same := reads (ledgerAt later place)
          rw [leftBy_of_ok stepped] at same
          rw [same] at stepped
          cases (stepAt_of_settled readied.settled readied.yields.opens stepped).symm.trans took
          rfl

theorem leftBy_scans (path : FilePath) (limit : Option Int) (before : Workspace) :
    leftBy (scans path limit) before = leftBy (setUp path) before :=
  leftBy_read (Ledger.leftBy_newestScans limit) before

theorem leftBy_auditTrail (path : FilePath) (before : Workspace) :
    leftBy (auditTrail path) before = leftBy (setUp path) before :=
  leftBy_read Ledger.leftBy_auditTrail before

/-- What setting up leaves of a ledger file, and of everything else. -/
theorem ledger_of_setUp (file : path.toText ≠ noFile) (ran : setUp path before = .ok () after) :
    after.files.locate path = .ok (before.files.spelled path) ∧
      after.files.get? (before.files.spelled path) = some (.ledger
        ((ledgerAt before.files (before.files.spelled path)).migrate before.now)) ∧
      ∀ place, place ≠ before.files.spelled path →
        Elsewhere (before.files.spelled path) before.files after.files place := by
  obtain ⟨made, worked, ⟨memory, _⟩ | ⟨place, later, readied, rfl⟩⟩ := setUp_eq_ok ran
  · exact absurd memory file
  · have grown := Files.ensureFolders_grows worked
    have prior : ledgerAt made place = ledgerAt before.files place :=
      ledgerAt_of_get?_eq (grown.get?_of_not_folder readied.opens.not_folder)
    have isPlace : before.files.spelled path = place :=
      (Files.spelled_of_here grown.here path).symm.trans (Files.eq_spelled readied.located).symm
    rw [isPlace, ← prior]
    refine ⟨readied.locatedThen, readied.yields.found (Ledger.migrate_ne_empty _ _), ?_⟩
    intro other differs
    exact .of_grows grown (readied.yields.others other differs)

/-- **Setting up loses nothing.** Whichever tables of a ledger are missing and whatever rows the
others have, when it is set up the tables that were there are as they were, with their rows and
their last numbers, and so is the record of migrations, but for the current version, which is in it
exactly once: with its earlier time if it was there, and else with the time of the clock. If it was
not there, no table is missing now. Elsewhere at most folders were added, and files beside the
ledger that are the store's own are gone. Setting up once more, at any time, succeeds and changes
nothing at all. So whoever reads scans or the audit trail, from whatever stands at the path, and
whether or not it succeeds, leaves what setting up alone leaves, and with it every row of the ledger
and of every other that is not beside it. -/
theorem setUp_loses_nothing
    (keyed : (ledgerAt before.files (before.files.spelled path)).Keyed)
    (ran : setUp path before = .ok () after) :
    (path.toText ≠ noFile →
      (∃ left, after.files.locate path = .ok (before.files.spelled path) ∧
        after.files.get? (before.files.spelled path) = some (.ledger left) ∧ left.Keyed ∧
        Ledger.SetUp before.now (ledgerAt before.files (before.files.spelled path)) left) ∧
      ∀ place, place ≠ before.files.spelled path →
        Elsewhere (before.files.spelled path) before.files after.files place) ∧
    (∀ now, setUp path { after with now } = .ok () { after with now }) ∧
    ∀ (start : Workspace) (limit : Option Int),
      leftBy (scans path limit) start = leftBy (setUp path) start ∧
      leftBy (auditTrail path) start = leftBy (setUp path) start ∧
      KeepsRows (some (start.files.spelled path)) start.files
        (leftBy (setUp path) start).files := by
  refine ⟨?_, setUp_again ran, ?_⟩
  · intro file
    obtain ⟨located, found, others⟩ := ledger_of_setUp file ran
    exact ⟨⟨_, located, found, keyed.migrate before.now, Ledger.setUp_migrate keyed before.now⟩,
      others⟩
  · intro start limit
    obtain ⟨files, left, rows⟩ := leftBy_setUp path start
    refine ⟨leftBy_scans path limit start, leftBy_auditTrail path start, ?_⟩
    rw [left]
    exact rows

/-- A ledger of a later version, with scans and without an audit trail. -/
def behind : Workspace where
  files := { entries := [([['h']], .ledger ⟨some [⟨2, .last⟩],
    some ⟨3, [(2, ⟨['a'], ['a'], 1, none, .last⟩)]⟩, none⟩)] }
  now := .last

/-- Its row and its last number stay, the current version is recorded, and the trail is made. -/
theorem setUp_loses_nothing_behind :
    (ledgerAt behind.files [['h']]).Keyed ∧
      ∃ files, setUp ⟨[], [['h']]⟩ behind = .ok () { behind with files } ∧
        ∃ left, files.get? [['h']] = some (.ledger left) ∧
          left.scans = some ⟨3, [(2, ⟨['a'], ['a'], 1, none, .last⟩)]⟩ ∧
          left.applied.filter Ledger.isCurrent = [⟨1, Instant.last.stored⟩] ∧
          left.hasTable .auditLog = true := by
  have keyed : (ledgerAt behind.files [['h']]).Keyed :=
    List.nodup_singleton 2
  obtain ⟨files, ran⟩ : ∃ files, setUp ⟨[], [['h']]⟩ behind = .ok () { behind with files } :=
    ⟨_, rfl⟩
  obtain ⟨⟨⟨left, _, found, _, made⟩, _⟩, _⟩ :=
    (setUp_loses_nothing keyed ran).imp_left fun atFile => atFile (by decide)
  exact ⟨keyed, files, ran, left, found, made.scans _ rfl, made.current,
    made.tables (by decide) .auditLog⟩

end Store

end CharTally
