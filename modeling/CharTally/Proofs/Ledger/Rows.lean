import CharTally.Proofs.Ledger.Store
import CharTally.Proofs.ScanLog

/-!
# Rows that stay

`Ledger.rows` is what a ledger tells its readers: the numbered scans and the lines of
the audit trail. `KeepsRows` says that files may have changed, but that the rows stand
where they stood, except beside a ledger that was worked on. Making folders keeps all
rows, and so do setting a ledger up (`leftBy_setUp`) and writing to a scan log
(`leftBy_emit`), whether or not they succeed.
-/

namespace CharTally

/-- The rows of a ledger, its scans and its audit trail. A table that is missing has none. -/
def Ledger.rows (ledger : Ledger) : List (Nat × Scan) × List (Nat × AuditEntry) :=
  ((ledger.scans.getD {}).rows, (ledger.audit.getD {}).rows)

/-- Setting up adds tables, but no rows to them. -/
theorem Ledger.rows_migrate (now : Instant) (ledger : Ledger) :
    (ledger.migrate now).rows = ledger.rows := by
  rw [migrate]
  split
  · rfl
  · rfl

/-- Setting up keeps the table of scans, and makes an empty one where none is. -/
theorem Ledger.scans_migrate (now : Instant) (ledger : Ledger) :
    (ledger.migrate now).scans.getD {} = ledger.scans.getD {} := by
  rw [migrate]
  split
  · rfl
  · rfl

/-- A recorded scan is one more row, and its line, if it has one, is one more line. -/
theorem Ledger.rows_of_record {ledger after : Ledger} {scan : Scan} {action : Option Text}
    {id : Nat} (recorded : Ledger.record scan action ledger = .ok id after) :
    id = (ledger.scans.getD {}).nextId ∧ after.rows.1 = ledger.rows.1 ++ [(id, scan.stored)] ∧
      (after.scans.getD {}).lastId = id ∧ AuditGains scan action id ledger after := by
  obtain ⟨table, present, _, rfl, gained, _, audited⟩ := Ledger.record_ok recorded
  refine ⟨?_, ?_, ?_, audited⟩
  · rw [present, Option.getD_some]
  · rw [Ledger.rows, Ledger.rows, present, gained]
    rfl
  · rw [gained]
    rfl

namespace Store

variable {files made later : Files} {path : FilePath} {place : Place} {content : Ledger}
  {home : Option Place}

/-- The rows of the ledger at a place. -/
def rowsAt (files : Files) (place : Place) : List (Nat × Scan) × List (Nat × AuditEntry) :=
  (ledgerAt files place).rows

/-- A place is not beside the ledger at the home place, if one is named. -/
def Apart (home : Option Place) (place : Place) : Prop := ∀ own ∈ home, ¬ Beside own place

/-- At every place stand the rows that stood there, except beside the ledger at the home place, if
one is named. Relative paths start where they started. -/
structure KeepsRows (home : Option Place) (files later : Files) : Prop where
  here : later.here = files.here
  rows : ∀ place, Apart home place → rowsAt later place = rowsAt files place

theorem KeepsRows.refl (home : Option Place) (files : Files) : KeepsRows home files files :=
  ⟨rfl, fun _ _ => rfl⟩

theorem KeepsRows.trans (first : KeepsRows home files made) (second : KeepsRows home made later) :
    KeepsRows home files later where
  here := second.here.trans first.here
  rows place apart := (second.rows place apart).trans (first.rows place apart)

/-- Rows that are kept everywhere are kept wherever the home is. -/
theorem KeepsRows.of_none (keeps : KeepsRows none files later) (home : Option Place) :
    KeepsRows home files later where
  here := keeps.here
  rows place _ := keeps.rows place fun _ none_ => nomatch none_

/-- The rows at home are kept. -/
theorem KeepsRows.own (keeps : KeepsRows (some place) files later) :
    rowsAt later place = rowsAt files place := by
  refine keeps.rows place ?_
  rintro _ ⟨⟩ isBeside
  exact isBeside.ne rfl

theorem rowsAt_of_get?_eq (same : later.get? place = files.get? place) :
    rowsAt later place = rowsAt files place :=
  congrArg Ledger.rows (ledgerAt_of_get?_eq same)

/-- Ledgers that are left alone have their rows. -/
theorem KeepsRows.of_keepsLedgers (keeps : Files.KeepsLedgers files later) :
    KeepsRows none files later :=
  ⟨keeps.folders.here, fun place _ => congrArg Ledger.rows (ledgerAt_of_keepsLedgers keeps place)⟩

theorem KeepsRows.of_grows (grown : Files.Grows files later) : KeepsRows none files later :=
  .of_keepsLedgers (.of_grows grown)

/-- Work at a place that keeps the rows there keeps them. -/
theorem Touches.keepsRows (touches : Touches place files later)
    (rows : rowsAt later place = rowsAt files place) : KeepsRows (some place) files later := by
  refine ⟨touches.here, fun other apart => ?_⟩
  by_cases same : other = place
  · rw [same, rows]
  · rcases touches.others other same with still | ⟨isBeside, _⟩
    · exact rowsAt_of_get?_eq still
    · exact absurd isBeside (apart place rfl)

/-- A step that keeps the rows of the ledger that it is taken on, whether or not it fails, changes
nothing but files, and no row in them. -/
theorem leftBy_onLedger_of_rows {α : Type} (path : FilePath) (action : LedgerAction)
    {step : Ledger.Step α} (keeps : ∀ content, (leftBy step content).rows = content.rows)
    (before : Workspace) :
    ∃ files, leftBy (onLedger path action step) before = { before with files } ∧
      KeepsRows (some (before.files.spelled path)) before.files files := by
  cases ran : onLedger path action step before with
  | ok value after =>
    rw [leftBy_of_ok ran]
    rcases onLedger_eq_ok ran with ⟨_, rfl, _⟩ | ⟨place, later, _, located, _, took, rfl⟩
    · exact ⟨after.files, rfl, .refl _ _⟩
    · obtain ⟨latter, _, stepped, yields, _⟩ := stepAt_eq_ok took
      refine ⟨later, rfl, ?_⟩
      rw [← Files.eq_spelled located]
      refine yields.keepsRows ?_
      have same := keeps (ledgerAt before.files place)
      rw [leftBy_of_ok stepped] at same
      rw [rowsAt, yields.content, same, rowsAt]
  | error failure after =>
    rw [leftBy_of_error ran]
    rcases onLedger_eq_error ran with rfl | ⟨place, later, located, failed, rfl⟩
    · exact ⟨after.files, rfl, .refl _ _⟩
    · obtain ⟨tidies, _⟩ := stepAt_eq_error failed
      refine ⟨later, rfl, ?_⟩
      rw [← Files.eq_spelled located]
      exact tidies.keepsRows (congrArg Ledger.rows tidies.same)

/-- Setting a ledger up changes nothing but files, and no row in them, even if it fails. -/
theorem leftBy_setUp (path : FilePath) (before : Workspace) :
    ∃ files, leftBy (setUp path) before = { before with files } ∧
      KeepsRows (some (before.files.spelled path)) before.files files := by
  have grown := Files.leftBy_ensureFolders_grows path.parent before.files
  rw [setUp, leftBy_bind, Job.onFiles]
  cases worked : Files.ensureFolders path.parent before.files with
  | error fault left =>
    rw [leftBy_of_error worked] at grown
    exact ⟨left, rfl, (KeepsRows.of_grows grown).of_none _⟩
  | ok _ made =>
    rw [leftBy_of_ok worked] at grown
    have migrates (content : Ledger) :
        (leftBy (modify (Ledger.migrate before.now) : Ledger.Step Unit) content).rows =
          content.rows :=
      Ledger.rows_migrate before.now content
    obtain ⟨files, left, stays⟩ :=
      leftBy_onLedger_of_rows path .setUp migrates { before with files := made }
    rw [Files.spelled_of_here grown.here] at stays
    exact ⟨files, left, ((KeepsRows.of_grows grown).of_none _).trans stays⟩

/-- A scan that is not recorded changes nothing but files, and no row in them. -/
theorem keepsRows_of_record_failed {report : Report} {profile action : Option Text}
    {before after : Workspace} {failure : Failure}
    (failed : record path report profile action before = .error failure after) :
    ∃ files, after = { before with files } ∧
      KeepsRows (some (before.files.spelled path)) before.files files := by
  obtain ⟨files, left, stays⟩ := leftBy_setUp path before
  rcases setUp_of_refused failed with ran | ⟨unready, stopped⟩
  · rw [leftBy_of_ok ran] at left
    exact ⟨files, left, stays⟩
  · rw [leftBy_of_error stopped] at left
    exact ⟨files, left, stays⟩

/-! ## Reading -/

/-- What is read behind setting up is read from an empty ledger, or from one with the rows at the
path. -/
theorem step_of_read {α : Type} {action : LedgerAction} {step : Ledger.Step α} {value : α}
    {before after : Workspace}
    (ran : (do setUp path; onLedger path action step : Job α) before = .ok value after) :
    ∃ content left, step content = .ok value left ∧
      (content = {} ∨ content.rows = rowsAt before.files (before.files.spelled path)) := by
  obtain ⟨_, ready, readied, read⟩ := bind_eq_ok.mp ran
  obtain ⟨files, left, stays⟩ := leftBy_setUp path before
  rw [leftBy_of_ok readied] at left
  rcases onLedger_eq_ok read with ⟨_, _, left', stepped⟩ | ⟨place, _, _, located, _, took, _⟩
  · exact ⟨{}, left', stepped, Or.inl rfl⟩
  · obtain ⟨latter, _, stepped, _⟩ := stepAt_eq_ok took
    refine ⟨_, latter, stepped, Or.inr ?_⟩
    subst left
    have isHome : place = before.files.spelled path :=
      (Files.eq_spelled located).trans (Files.spelled_of_here stays.here path)
    rw [isHome]
    exact stays.own

/-- The scans that are read are the rows at the path, the newest first. -/
theorem scans_eq_ok {limit : Option Int} {rows : List (Nat × Scan)} {before after : Workspace}
    (ran : scans path limit before = .ok rows after) :
    rows = Ledger.limited limit (rowsAt before.files (before.files.spelled path)).1.reverse := by
  obtain ⟨content, left, stepped, same⟩ := step_of_read ran
  rw [Ledger.newestScans_eq] at stepped
  rcases same with rfl | same
  · cases stepped
  · rw [← same, Ledger.rows]
    cases present : content.scans with
    | none => rw [present] at stepped; cases stepped
    | some table =>
      rw [present] at stepped
      dsimp only at stepped
      split at stepped
      case isTrue => cases stepped; rfl
      case isFalse => cases stepped

/-- The audit trail that is read is the lines at the path. -/
theorem auditTrail_eq_ok {entries : List AuditEntry} {before after : Workspace}
    (ran : auditTrail path before = .ok entries after) :
    entries = (rowsAt before.files (before.files.spelled path)).2.map (·.2) := by
  obtain ⟨content, left, stepped, same⟩ := step_of_read ran
  rw [Ledger.auditTrail_eq] at stepped
  rcases same with rfl | same
  · cases stepped
  · rw [← same, Ledger.rows]
    cases present : content.audit with
    | none => rw [present] at stepped; cases stepped
    | some table =>
      rw [present] at stepped
      cases stepped
      rfl

/-! ## The scan log -/

/-- Writing to a scan log changes nothing but files, and no row in them, even if it fails. -/
theorem leftBy_emit (log : ScanLog) (report : Report) (profile : Option Text)
    (before : Workspace) :
    ∃ files, leftBy (log.emit report profile) before = { before with files } ∧
      KeepsRows none before.files files := by
  obtain ⟨files, left, keeps⟩ := ScanLog.leftBy_emit_keeps log report profile before
  exact ⟨files, left, .of_keepsLedgers keeps⟩

end Store

end CharTally
