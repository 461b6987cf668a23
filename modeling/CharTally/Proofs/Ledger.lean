import CharTally.Ledger
import CharTally.Proofs.Session
import CharTally.Proofs.Text.Utf8

/-!
# Steps on a ledger

What each step does, in full: which tables it needs, what it refuses, and the
ledger it leaves. `record_ok` says what a recorded scan adds, and
`record_error` that a scan that is not recorded adds nothing.

`Ready` is the state in which setting up has nothing left to do
(`migrate_of_ready`), and every step on a ready ledger leaves it ready.
-/

namespace CharTally

/-- A scan as its row gives it back. -/
def Scan.stored (scan : Scan) : Scan := { scan with createdAt := scan.createdAt.stored }

/-- A line of the audit trail as its row gives it back. -/
def AuditEntry.stored (entry : AuditEntry) : AuditEntry :=
  { entry with createdAt := entry.createdAt.stored }

/-! ## Whole texts -/

theorem Numeral.isWhole_decimal (n : Nat) : (Numeral.decimal n).isWhole = true :=
  Text.isWhole_map_scalar _

theorem Numeral.isWhole_ofInt (i : Int) : (Numeral.ofInt i).isWhole = true := by
  cases i with
  | ofNat n => exact isWhole_decimal n
  | negSucc n => exact isWhole_decimal (n + 1)

/-- A description is whole, even of half a surrogate pair. -/
theorem Target.isWhole_of_describe? {target shown : Text}
    (described : Target.describe? target = some shown) : shown.isWhole = true := by
  obtain ⟨c, rfl⟩ : ∃ c, target = [c] := by
    match target, described with
    | [c], _ => exact ⟨c, rfl⟩
  cases described
  rw [Target.describe]
  split
  case isTrue visible =>
    refine Text.isWhole_of_isAscii ?_
    rw [Target.isVisible, Bool.and_eq_true, decide_eq_true_eq, decide_eq_true_eq] at visible
    rw [Text.isAscii_cons, Text.isAscii_nil, Bool.and_true, decide_eq_true_eq]
    omega
  case isFalse =>
    have upper (t : Text) (whole : t.isWhole = true) :
        Text.isWhole (t.map CodePoint.toUpper) = true := by
      rw [Text.isWhole, List.all_map]
      refine Eq.trans (congrArg t.all (funext fun c => ?_)) whole
      cases c <;> rfl
    rw [Text.isWhole_cons]
    refine upper _ ?_
    rw [Numeral.padded, Text.isWhole_append, Numeral.numeral, Text.isWhole_map_scalar,
      Bool.and_true,
      Text.isWhole, List.all_replicate]
    simp [CodePoint.isHalf]

namespace Ledger

variable {α : Type} {ledger after : Ledger} {scan : Scan} {action : Option Text} {id : Nat}

/-! ## Values -/

theorem textFault?_eq_none {t : Text} : textFault? t = none ↔ t.isWhole = true := by
  rw [textFault?, Option.map_eq_none_iff, Utf8.unencodable?_eq_none_iff_isWhole]

theorem integerFault?_eq_none {i : Int} : integerFault? i = none ↔ fits i = true := by
  rw [integerFault?]
  cases fits i <;> simp

/-- A scan is put into a row if its texts are whole and its count is not too wide. -/
theorem scanFault?_eq_none : scanFault? scan = none ↔
    scan.target.isWhole = true ∧ scan.text.isWhole = true ∧ fits scan.count = true ∧
      ∀ profile ∈ scan.profile, profile.isWhole = true := by
  rw [scanFault?]
  simp only [Option.or_eq_none_iff, textFault?_eq_none, integerFault?_eq_none,
    Option.bind_eq_none_iff, Option.mem_def]

theorem auditFault?_eq_none {entry : AuditEntry} : auditFault? entry = none ↔
    entry.entity.isWhole = true ∧ entry.action.isWhole = true ∧ entry.detail.isWhole = true := by
  rw [auditFault?]
  simp only [Option.or_eq_none_iff, textFault?_eq_none]

/-- The detail of a recorded scan is whole, whatever its target is. -/
theorem isWhole_auditDetail {target shown : Text} (described : Target.describe? target = some shown)
    (id : Nat) (count : Int) : (auditDetail id shown count).isWhole = true := by
  simp only [auditDetail, Text.isWhole_append, Target.isWhole_of_describe? described,
    Numeral.isWhole_decimal, Numeral.isWhole_ofInt, Text.isWhole_map_scalar, Bool.and_self]

/-! ## Statements -/

theorem insertScan_eq (scan : Scan) (ledger : Ledger) :
    insertScan scan ledger =
      match ledger.scans with
      | none => .error (.noTable .scans) ledger
      | some table =>
        match scanFault? scan with
        | some fault => .error fault ledger
        | none => .ok table.nextId { ledger with scans := some (table.insert scan.stored) } := by
  rw [insertScan, bind_of_ok (rfl : (get : Step Ledger) ledger = .ok ledger ledger)]
  cases ledger.scans with
  | none => rfl
  | some table => cases scanFault? scan <;> rfl

theorem insertAudit_eq (entry : AuditEntry) (ledger : Ledger) :
    insertAudit entry ledger =
      match ledger.audit with
      | none => .error (.noTable .auditLog) ledger
      | some table =>
        match auditFault? entry with
        | some fault => .error fault ledger
        | none => .ok () { ledger with audit := some (table.insert entry.stored) } := by
  rw [insertAudit, bind_of_ok (rfl : (get : Step Ledger) ledger = .ok ledger ledger)]
  cases ledger.audit with
  | none => rfl
  | some table => cases auditFault? entry <;> rfl

theorem newestScans_eq (limit : Option Int) (ledger : Ledger) :
    newestScans limit ledger =
      match ledger.scans with
      | none => .error (.noTable .scans) ledger
      | some table =>
        if limit.all fits then .ok (limited limit table.newestFirst) ledger
        else .error .integerTooWide ledger := by
  rw [newestScans, bind_of_ok (rfl : (get : Step Ledger) ledger = .ok ledger ledger)]
  cases ledger.scans with
  | none => rfl
  | some table =>
    by_cases narrow : limit.all fits = true
    · simp only [narrow, if_true]
      rfl
    · simp only [narrow]
      rfl

theorem deleteScan_eq (number : Int) (ledger : Ledger) :
    deleteScan number ledger =
      match ledger.scans with
      | none => .error (.noTable .scans) ledger
      | some table =>
        if fits number then .ok () { ledger with scans := some (table.erase number) }
        else .error .integerTooWide ledger := by
  rw [deleteScan, bind_of_ok (rfl : (get : Step Ledger) ledger = .ok ledger ledger)]
  cases ledger.scans with
  | none => rfl
  | some table =>
    by_cases narrow : fits number = true
    · simp only [narrow, if_true]
      rfl
    · simp only [narrow]
      rfl

theorem auditTrail_eq (ledger : Ledger) :
    auditTrail ledger =
      match ledger.audit with
      | none => .error (.noTable .auditLog) ledger
      | some table => .ok (table.rows.map (·.2)) ledger := by
  obtain ⟨migrations, scans, audit⟩ := ledger
  cases audit <;> rfl

/-- Reading the scans leaves the ledger. -/
theorem leftBy_newestScans (limit : Option Int) (ledger : Ledger) :
    leftBy (newestScans limit) ledger = ledger := by
  rw [leftBy, newestScans_eq]
  cases ledger.scans with
  | none => rfl
  | some table => by_cases narrow : limit.all fits = true <;> simp only [narrow] <;> rfl

/-- Reading the audit trail leaves the ledger. -/
theorem leftBy_auditTrail (ledger : Ledger) : leftBy auditTrail ledger = ledger := by
  rw [leftBy, auditTrail_eq]
  cases ledger.audit <;> rfl

/-! ## Transactions -/

theorem transaction_eq_ok {step : Step α} {value : α} :
    transaction step ledger = .ok value after ↔ step ledger = .ok value after := by
  rw [transaction]
  cases step ledger <;> simp

/-- A transaction that fails leaves the ledger as it found it. -/
theorem transaction_error {step : Step α} {fault : Fault}
    (failed : transaction step ledger = .error fault after) : after = ledger := by
  rw [transaction] at failed
  cases ran : step ledger with
  | ok value left => rw [ran] at failed; cases failed
  | error other left => rw [ran] at failed; cases failed; rfl

/-- A scan that is not recorded leaves no row and uses up no number. -/
theorem record_error {fault : Fault} (failed : record scan action ledger = .error fault after) :
    after = ledger :=
  transaction_error failed

/-- What the audit trail gains by a recorded scan: nothing if no action is named, otherwise one
line with the action, the number, the target and the count. -/
def AuditGains (scan : Scan) (action : Option Text) (id : Nat) (before after : Ledger) : Prop :=
  match action with
  | none | some [] => after.audit = before.audit
  | some action =>
    ∃ shown trail, Target.describe? scan.target = some shown ∧ before.audit = some trail ∧
      after.audit = some (trail.insert
        ⟨"scan", action, auditDetail id shown scan.count, scan.createdAt.stored⟩)

/-- A recorded scan is one more row under the next number, with its line of the audit trail. -/
theorem record_ok (recorded : record scan action ledger = .ok id after) :
    ∃ table, ledger.scans = some table ∧ scanFault? scan = none ∧ id = table.nextId ∧
      after.scans = some (table.insert scan.stored) ∧ after.migrations = ledger.migrations ∧
      AuditGains scan action id ledger after := by
  obtain ⟨number, inserted, ran, rest⟩ := bind_eq_ok.mp (transaction_eq_ok.mp recorded)
  rw [insertScan_eq] at ran
  cases present : ledger.scans with
  | none => rw [present] at ran; cases ran
  | some table =>
    rw [present] at ran
    dsimp only at ran
    split at ran
    case h_1 => cases ran
    case h_2 bound =>
      cases ran
      refine ⟨table, rfl, bound, ?_⟩
      rcases action with _ | _ | ⟨first, letters⟩
      · cases rest
        exact ⟨rfl, rfl, rfl, rfl⟩
      · cases rest
        exact ⟨rfl, rfl, rfl, rfl⟩
      · dsimp only at rest
        cases described : Target.describe? scan.target with
        | none =>
          rw [described] at rest
          obtain ⟨_, _, threw, _⟩ := bind_eq_ok.mp rest
          cases threw
        | some shown =>
          rw [described] at rest
          obtain ⟨_, audited, wrote, answered⟩ := bind_eq_ok.mp rest
          rw [insertAudit_eq] at wrote
          cases trail : ledger.audit with
          | none => simp only [trail] at wrote; cases wrote
          | some entries =>
            simp only [trail] at wrote
            split at wrote
            case h_1 => cases wrote
            case h_2 =>
              cases wrote
              cases answered
              exact ⟨rfl, rfl, rfl, shown, entries, described, trail, rfl⟩

/-- The count of a recorded scan fits into a row. -/
theorem fits_of_record (recorded : record scan action ledger = .ok id after) :
    fits scan.count = true := by
  obtain ⟨_, _, bound, _⟩ := record_ok recorded
  exact (scanFault?_eq_none.mp bound).2.2.1

/-- A recorded scan changes its ledger. -/
theorem ne_of_record (recorded : record scan action ledger = .ok id after) : after ≠ ledger := by
  obtain ⟨table, present, _, _, gained, _⟩ := record_ok recorded
  rintro rfl
  rw [present, Option.some.injEq] at gained
  have longer := congrArg (·.rows.length) gained
  simp [Table.insert] at longer

/-- A ledger with a recorded scan is not empty. -/
theorem ne_empty_of_record (recorded : record scan action ledger = .ok id after) : after ≠ {} := by
  obtain ⟨_, _, _, _, gained, _⟩ := record_ok recorded
  rintro rfl
  cases gained

/-! ## Ledgers that are set up -/

/-- All tables are there, and their making is recorded. -/
structure Ready (ledger : Ledger) : Prop where
  migrated : ∃ applied, ledger.migrations = some applied ∧
    applied.any (·.version = currentVersion) = true
  scans : ∃ table, ledger.scans = some table
  audit : ∃ table, ledger.audit = some table

theorem Ready.ne_empty (ready : Ready ledger) : ledger ≠ {} := by
  rintro rfl
  obtain ⟨_, missing, _⟩ := ready.migrated
  cases missing

theorem migrate_of_ready (now : Instant) (ready : Ready ledger) : ledger.migrate now = ledger := by
  obtain ⟨applied, recorded, current⟩ := ready.migrated
  obtain ⟨migrations, scans, audit⟩ := ledger
  cases recorded
  rw [migrate]
  simp only [Option.getD_some]
  rw [if_pos current]

/-- The tables of an empty ledger that is set up are empty. -/
theorem migrate_empty (now : Instant) :
    migrate now {} = ⟨some [⟨currentVersion, now.stored⟩], some {}, some {}⟩ := rfl

theorem ready_migrate_empty (now : Instant) : Ready (migrate now {}) := by
  rw [migrate_empty]
  exact ⟨⟨_, rfl, by simp⟩, ⟨_, rfl⟩, ⟨_, rfl⟩⟩

/-- Where all tables are there, setting up at most records their making. -/
theorem ready_migrate (tables : ∀ name, ledger.hasTable name = true) (now : Instant) :
    Ready (ledger.migrate now) := by
  rcases Option.isSome_iff_exists.mp (tables .schemaMigrations) with ⟨applied, recorded⟩
  rcases Option.isSome_iff_exists.mp (tables .scans) with ⟨scans, rows⟩
  rcases Option.isSome_iff_exists.mp (tables .auditLog) with ⟨audit, trail⟩
  rw [migrate, recorded, rows, trail]
  dsimp only [Option.getD_some]
  split
  case isTrue current => exact ⟨⟨applied, rfl, current⟩, ⟨scans, rfl⟩, ⟨audit, rfl⟩⟩
  case isFalse => exact ⟨⟨_, rfl, by simp⟩, ⟨scans, rfl⟩, ⟨audit, rfl⟩⟩

/-- A ledger that is set up is not empty: it records that it was. -/
theorem migrate_ne_empty (now : Instant) (ledger : Ledger) : ledger.migrate now ≠ {} := by
  intro empty
  have none_ := congrArg (·.migrations) empty
  rw [migrate] at none_
  split at none_ <;> cases none_

/-- Setting up keeps the scans that are there. -/
theorem scans_of_migrate {now : Instant} {table : Table Scan}
    (present : (ledger.migrate now).scans = some table) : table = ledger.scans.getD {} := by
  rw [migrate] at present
  split at present
  · rw [show ledger.scans = some table from present]
    rfl
  · cases present
    rfl

/-- Setting up keeps the audit trail that is there. -/
theorem audit_of_migrate {now : Instant} {table : Table AuditEntry}
    (present : (ledger.migrate now).audit = some table) : table = ledger.audit.getD {} := by
  rw [migrate] at present
  split at present
  · rw [show ledger.audit = some table from present]
    rfl
  · cases present
    rfl

/-- Setting up adds to the record of migrations at most. -/
theorem migrations_of_migrate (now : Instant) (ledger : Ledger) :
    ∃ added, (ledger.migrate now).migrations = some (ledger.migrations.getD [] ++ added) := by
  rw [migrate]
  split
  · exact ⟨[], by rw [List.append_nil]⟩
  · exact ⟨_, rfl⟩

/-- A scan of one character is recorded if it can be put into a row. -/
theorem record_of_ready (ready : Ready ledger) (bound : scanFault? scan = none)
    (described : ∃ shown, Target.describe? scan.target = some shown)
    (whole : ∀ text ∈ action, text.isWhole = true) :
    ∃ id after, Ledger.record scan action ledger = .ok id after := by
  rcases ready.scans with ⟨table, present⟩
  rcases ready.audit with ⟨trail, kept⟩
  rcases described with ⟨shown, described⟩
  have inserted : insertScan scan ledger =
      .ok table.nextId { ledger with scans := some (table.insert scan.stored) } := by
    rw [insertScan_eq, present]
    dsimp only
    rw [bound]
  rcases action with _ | _ | ⟨first, letters⟩
  · exact ⟨_, _, transaction_eq_ok.mpr (bind_eq_ok.mpr ⟨_, _, inserted, rfl⟩)⟩
  · exact ⟨_, _, transaction_eq_ok.mpr (bind_eq_ok.mpr ⟨_, _, inserted, rfl⟩)⟩
  · obtain ⟨after, audited⟩ : ∃ after, insertAudit
        ⟨"scan", first :: letters, auditDetail table.nextId shown scan.count, scan.createdAt⟩
        { ledger with scans := some (table.insert scan.stored) } = .ok () after := by
      have fits : auditFault? ⟨"scan", first :: letters, auditDetail table.nextId shown scan.count,
          scan.createdAt⟩ = none :=
        auditFault?_eq_none.mpr ⟨rfl, whole _ rfl, isWhole_auditDetail described _ _⟩
      rw [insertAudit_eq]
      dsimp only
      rw [kept]
      dsimp only
      rw [fits]
      exact ⟨_, rfl⟩
    refine ⟨table.nextId, after,
      transaction_eq_ok.mpr (bind_eq_ok.mpr ⟨_, _, inserted, ?_⟩)⟩
    dsimp only
    rw [described]
    exact bind_eq_ok.mpr ⟨(), _, audited, rfl⟩

theorem Ready.record (ready : Ready ledger)
    (recorded : Ledger.record scan action ledger = .ok id after) : Ready after := by
  obtain ⟨table, _, _, _, scans, migrations, audit⟩ := record_ok recorded
  refine ⟨by rw [migrations]; exact ready.migrated, ⟨_, scans⟩, ?_⟩
  rcases action with _ | _ | ⟨first, letters⟩
  · rw [show after.audit = ledger.audit from audit]; exact ready.audit
  · rw [show after.audit = ledger.audit from audit]; exact ready.audit
  · obtain ⟨_, _, _, _, gained⟩ := audit
    exact ⟨_, gained⟩

end Ledger

end CharTally
