import CharTally.Files
import CharTally.Json.Reader
import CharTally.Json.Writer
import CharTally.Text.Utf8

/-!
Images: the bytes that a ledger leaves on a disk.

An image is the mark that every ledger file begins with, and behind it the tables
as JSON. Bytes that are no image are a document like any other.
-/

namespace CharTally.Ledger.Image

/-! ## Writing -/

/-- A text that may be missing. -/
def ofText? : Option Text → Json
  | none => .null
  | some t => .text t

/-- A row of the scans. -/
def ofScan (id : Nat) (scan : Scan) : Json :=
  .array [.integer id, .text scan.target, .text scan.text, .integer scan.count,
    ofText? scan.profile, .real scan.createdAt.value]

/-- A row of the audit trail. -/
def ofAudit (id : Nat) (entry : AuditEntry) : Json :=
  .array [.integer id, .text entry.entity, .text entry.action, .text entry.detail,
    .real entry.createdAt.value]

/-- A row of the migrations. -/
def ofMigration (migration : Migration) : Json :=
  .array [.integer migration.version, .real migration.appliedAt.value]

/-- A table: the last number that it gave, and its rows. -/
def ofTable {α : Type} (ofRow : Nat → α → Json) (table : Table α) : Json :=
  .array [.integer table.lastId, .array (table.rows.map fun (id, row) => ofRow id row)]

/-- A ledger. -/
def ofLedger (ledger : Ledger) : Json :=
  .array
    [ledger.migrations.elim .null fun applied => .array (applied.map ofMigration),
     ledger.scans.elim .null (ofTable ofScan),
     ledger.audit.elim .null (ofTable ofAudit)]

/-- The image of a ledger. -/
def write (ledger : Ledger) : List UInt8 :=
  Files.ledgerMark ++ Utf8.encode (ofLedger ledger).render

/-! ## Reading -/

/-- Reads a text that may be missing. -/
def toText? : Json → Option (Option Text)
  | .null => some none
  | .text t => some (some t)
  | _ => none

/-- Reads a row of the scans. -/
def toScan? : Json → Option (Nat × Scan)
  | .array [.integer id, .text target, .text text, .integer count, profile, .real createdAt] => do
    return (id.toNat, ⟨target, text, count, ← toText? profile, ← Instant.of? createdAt⟩)
  | _ => none

/-- Reads a row of the audit trail. -/
def toAudit? : Json → Option (Nat × AuditEntry)
  | .array [.integer id, .text entity, .text action, .text detail, .real createdAt] => do
    return (id.toNat, ⟨entity, action, detail, ← Instant.of? createdAt⟩)
  | _ => none

/-- Reads a row of the migrations. -/
def toMigration? : Json → Option Migration
  | .array [.integer version, .real appliedAt] => do
    return ⟨version.toNat, ← Instant.of? appliedAt⟩
  | _ => none

/-- Reads a table. -/
def toTable? {α : Type} (toRow? : Json → Option (Nat × α)) : Json → Option (Option (Table α))
  | .null => some none
  | .array [.integer lastId, .array rows] => do
    return some ⟨lastId.toNat, ← rows.mapM toRow?⟩
  | _ => none

/-- Reads the migrations. -/
def toMigrations? : Json → Option (Option (List Migration))
  | .null => some none
  | .array applied => do return some (← applied.mapM toMigration?)
  | _ => none

/-- Reads a ledger. -/
def toLedger? : Json → Option Ledger
  | .array [applied, scans, audit] => do
    return ⟨← toMigrations? applied, ← toTable? toScan? scans, ← toTable? toAudit? audit⟩
  | _ => none

/-- The ledger of an image. -/
def read? (bytes : List UInt8) : Option Ledger := do
  if Files.ledgerMark.isPrefixOf bytes then
    match Utf8.decode (bytes.drop Files.ledgerMark.length) with
    | .error _ => none
    | .ok text =>
      match Json.read text with
      | .error _ => none
      | .ok json => toLedger? json
  else none

end CharTally.Ledger.Image
