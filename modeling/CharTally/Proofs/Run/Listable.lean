import CharTally.Proofs.Run.Failure
import CharTally.Proofs.Stamp

/-!
# Ledgers that can be listed

A listing shows a scan if it is of one character, at a time that has a stamp. Every job that is done
at such a time records such scans only: `Workspace.Listable` is the property of workspaces that
carries this, and every command keeps it at every place.
-/

namespace CharTally

variable {α : Type}

/-! ## Ledgers -/

/-- A scan that a listing shows: of one character, at a time that has a stamp. -/
structure Scan.Listable (scan : Scan) : Prop where
  one : ∃ target, scan.target = [target]
  stamped : ∃ stamp, Stamp.text scan.createdAt = .ok stamp

theorem Scan.Listable.stored {scan : Scan} (listable : scan.Listable) : scan.stored.Listable := by
  obtain ⟨one, stamp, stamped⟩ := listable
  exact ⟨one, stamp, (Stamp.text_stored scan.createdAt).trans stamped⟩

namespace Ledger

variable {ledger : Ledger} {scan : Scan}

/-- A ledger that is empty or set up, with scans that a listing shows. -/
structure Listable (ledger : Ledger) : Prop where
  ready : ledger = {} ∨ Ready ledger
  scans : ∀ row ∈ ledger.rows.1, row.2.Listable

theorem listable_empty : Listable {} where
  ready := Or.inl rfl
  scans _ member := nomatch member

theorem Listable.migrate (listable : Listable ledger) (now : Instant) :
    Listable (ledger.migrate now) := by
  refine ⟨Or.inr ?_, ?_⟩
  · rcases listable.ready with rfl | ready
    · exact ready_migrate_empty now
    · rw [migrate_of_ready now ready]
      exact ready
  · rw [rows_migrate]
    exact listable.scans

/-- A scan that is refused changes nothing, and one that is recorded is one more row. -/
theorem Listable.record (listable : Listable ledger) (new : scan.Listable) (action : Option Text) :
    Listable (leftBy (Ledger.record scan action) ledger) := by
  cases ran : Ledger.record scan action ledger with
  | error fault left =>
    rw [leftBy_of_error ran, record_error ran]
    exact listable
  | ok id left =>
    rw [leftBy_of_ok ran]
    obtain ⟨_, rows, _⟩ := rows_of_record ran
    refine ⟨Or.inr ?_, ?_⟩
    · rcases listable.ready with rfl | ready
      · obtain ⟨table, missing, _⟩ := record_ok ran
        cases missing
      · exact ready.record ran
    · rw [rows]
      refine List.forall_mem_append.mpr ⟨listable.scans, ?_⟩
      intro row member
      rw [List.mem_singleton.mp member]
      exact new.stored

end Ledger

/-! ## Workspaces -/

/-- The clock shows a time that has a stamp, and a ledger that stands at a place can be listed. -/
structure Workspace.Listable (place : Place) (workspace : Workspace) : Prop where
  dated : Stamp.Dated workspace.now
  ledgers : ∀ content, workspace.files.get? place = some (.ledger content) → content.Listable

variable {place : Place} {before : Workspace} {path : FilePath} {action : LedgerAction}

theorem Workspace.Listable.of_keepsLedgers {files : Files} (listable : before.Listable place)
    (keeps : Files.KeepsLedgers before.files files) :
    Workspace.Listable place { before with files } where
  dated := listable.dated
  ledgers content found := listable.ledgers content ((keeps.ledgers place content).mp found)

/-- What is opened at the place can be listed. -/
theorem Workspace.Listable.ledgerAt (listable : before.Listable place) :
    (Store.ledgerAt before.files place).Listable := by
  unfold Store.ledgerAt
  split
  case h_1 content found => exact listable.ledgers content found
  case h_2 => exact Ledger.listable_empty

/-- A step that keeps ledgers listable may be taken on any ledger. -/
theorem keeps_onLedger {step : Ledger.Step α}
    (steps : ∀ content : Ledger, content.Listable → (leftBy step content).Listable) :
    Job.Keeps (Workspace.Listable place) (Store.onLedger path action step) := by
  intro before listable
  obtain ⟨files, left, found⟩ := Store.found_of_onLedger path action step before
  rw [left]
  refine ⟨listable.dated, fun content stands => ?_⟩
  rcases found place content stands with rfl | rfl
  · exact listable.ledgerAt
  · exact steps _ listable.ledgerAt

/-- Making folders keeps ledgers. -/
theorem keeps_onFolders (folders : FilePath) (failure : FileFault → Failure) :
    Job.Keeps (Workspace.Listable place) (Job.onFiles (Files.ensureFolders folders) failure) := by
  intro before listable
  have grown := Files.leftBy_ensureFolders_grows folders before.files
  have left : leftBy (Job.onFiles (Files.ensureFolders folders) failure) before =
      { before with files := leftBy (Files.ensureFolders folders) before.files } := by
    rw [leftBy, Job.onFiles, leftBy]
    cases Files.ensureFolders folders before.files <;> rfl
  rw [left]
  exact listable.of_keepsLedgers (.of_grows grown)

theorem keeps_setUp (path : FilePath) :
    Job.Keeps (Workspace.Listable place) (Store.setUp path) := by
  refine (keeps_onFolders path.parent _).bind fun _ => .bind_get fun found _ => ?_
  exact keeps_onLedger fun content listable => listable.migrate found.now

theorem keeps_scans (path : FilePath) (limit : Option Int) :
    Job.Keeps (Workspace.Listable place) (Store.scans path limit) := by
  refine (keeps_setUp path).bind fun _ => keeps_onLedger fun content listable => ?_
  rw [Ledger.leftBy_newestScans]
  exact listable

/-- A scan of one character is recorded with the time of the clock. -/
theorem keeps_record {report : Report} {target : CodePoint} (one : report.target = [target])
    (path : FilePath) (profile action : Option Text) :
    Job.Keeps (Workspace.Listable place) (Store.record path report profile action) := by
  refine (keeps_setUp path).bind fun _ => .bind_get fun found listable => ?_
  obtain ⟨stamp, stamped⟩ := Stamp.exists_stamp listable.dated
  exact keeps_onLedger fun content before => before.record ⟨⟨target, one⟩, stamp, stamped⟩ action

theorem keeps_print (line : Text) : Job.Keeps (Workspace.Listable place) (Job.print line) := by
  intro before listable
  obtain ⟨printed, left⟩ := Job.leftBy_print line before
  rw [left]
  exact ⟨listable.dated, listable.ledgers⟩

theorem keeps_emit (log : ScanLog) (report : Report) (profile : Option Text) :
    Job.Keeps (Workspace.Listable place) (log.emit report profile) := by
  intro before listable
  obtain ⟨files, left, keeps⟩ := ScanLog.leftBy_emit_keeps log report profile before
  rw [left]
  exact listable.of_keepsLedgers keeps

theorem Reporter.keeps_emit (reporter : Reporter) (report : Report) :
    Job.Keeps (Workspace.Listable place) (reporter.emit report) := by
  cases reporter with
  | keep => exact .modify fun _ listable => ⟨listable.dated, listable.ledgers⟩
  | print =>
    unfold Reporter.emit
    generalize report.line? = line
    cases line with
    | none => exact .of_idle fun _ => rfl
    | some line => exact keeps_print _

/-! ## Runs -/

namespace Run

/-- A scan for one character keeps ledgers listable, wherever it is recorded. -/
theorem keeps_count (target : CodePoint) (text : Text) (wording : Wording) (sinks : Sinks) :
    Job.Keeps (Workspace.Listable place) (count [target] text wording sinks) := by
  unfold count
  cases Tape.ofText? text with
  | none => exact .of_idle fun _ => rfl
  | some tape =>
    refine (CharTally.keeps_emit _ _ _).bind fun _ => ?_
    have reports (report : Report) : Job.Keeps (Workspace.Listable place) (do
        sinks.reporter.emit report
        return report : Job Report) :=
      (Reporter.keeps_emit sinks.reporter report).bind fun _ => .of_idle fun _ => rfl
    cases sinks.ledger with
    | none => exact reports _
    | some path => exact ((keeps_record rfl path _ _).map _).bind fun _ => reports _

theorem keeps_profile (name : Text) (source : Settings.Source) (sinks : Sinks) :
    Job.Keeps (Workspace.Listable place) (profile name source sinks) := by
  refine .bind_get fun found _ => (Job.Keeps.ofExcept _).bind fun runtime => ?_
  exact keeps_count runtime.profile.target _ _ _

end Run

end CharTally
