import CharTally.Instant
import CharTally.Target
import CharTally.Text.Utf8

/-!
The ledger: a small store of finished scans and of what was done with them.

A ledger has three tables, any of which may be missing. A table of numbered rows
remembers the last number it gave, so a number is never given twice, even after
its row is gone. Work on a ledger is a `Ledger.Step`, which may fail and leaves a
ledger either way; `transaction` is the step that undoes what a failing one did.
-/

namespace CharTally

/-! ## Rows -/

/-- A finished scan as it is kept. -/
structure Scan where
  target : Text
  text : Text
  count : Int
  profile : Option Text
  createdAt : Instant
deriving DecidableEq, Repr

/-- A line of the audit trail. -/
structure AuditEntry where
  entity : Text
  action : Text
  detail : Text
  createdAt : Instant
deriving DecidableEq, Repr

/-- A change to the set of tables that was carried out. -/
structure Migration where
  version : Nat
  appliedAt : Instant
deriving DecidableEq, Repr

/-! ## Tables -/

/-- Numbered rows, in the order in which they came, and the last number given. -/
structure Table (α : Type) where
  lastId : Nat := 0
  rows : List (Nat × α) := []
deriving DecidableEq, Repr

namespace Table

/-- The number of the next row. -/
def nextId {α : Type} (table : Table α) : Nat := table.lastId + 1

/-- Adds a row under the next number. -/
def insert {α : Type} (row : α) (table : Table α) : Table α :=
  ⟨table.nextId, table.rows ++ [(table.nextId, row)]⟩

/-- Removes the row of a number, if there is one. The number stays used. -/
def erase {α : Type} (id : Int) (table : Table α) : Table α :=
  { table with rows := table.rows.filter fun (known, _) => (known : Int) ≠ id }

/-- The rows, the last one first. -/
def newestFirst {α : Type} (table : Table α) : List (Nat × α) := table.rows.reverse

end Table

/-- The names of the tables. -/
inductive TableName where
  | auditLog
  | scans
  | schemaMigrations
deriving DecidableEq, Repr

/-- The spelling of a table's name. -/
def TableName.text : TableName → Text
  | .auditLog => "audit_log"
  | .scans => "scans"
  | .schemaMigrations => "schema_migrations"

/-! ## Ledgers -/

/-- A ledger; a table that is missing is `none`. -/
structure Ledger where
  migrations : Option (List Migration) := none
  scans : Option (Table Scan) := none
  audit : Option (Table AuditEntry) := none
deriving DecidableEq, Repr

namespace Ledger

/-- Why a step on a ledger fails. -/
inductive Fault where
  | noTable (name : TableName)
  | integerTooWide
  | unencodable (fault : Utf8.Unencodable)
  | notOneCharacter (length : Nat)
deriving DecidableEq, Repr

/-- Work on a ledger. -/
abbrev Step (α : Type) := EStateM Fault Ledger α

/-- A step whose effect is undone if it fails. -/
def transaction {α : Type} (step : Step α) : Step α := fun before =>
  match step before with
  | .ok value after => .ok value after
  | .error fault _ => .error fault before

/-- The integers that a column holds: those of 64 bits. -/
def fits (i : Int) : Bool := -0x8000000000000000 ≤ i && i < 0x8000000000000000

/-! ### Setting up -/

/-- The version of the set of tables. -/
def currentVersion : Nat := 1

/-- Creates what is missing of the tables, unless the ledger records that they were created. -/
def migrate (now : Instant) (ledger : Ledger) : Ledger :=
  let applied := ledger.migrations.getD []
  if applied.any (·.version = currentVersion) then { ledger with migrations := some applied }
  else
    { migrations := some (applied ++ [⟨currentVersion, now.stored⟩])
      scans := some (ledger.scans.getD {})
      audit := some (ledger.audit.getD {}) }

/-! ### Statements -/

/-- Why a text cannot be put into a column: it has no bytes. -/
def textFault? (t : Text) : Option Fault := (Utf8.unencodable? t).map .unencodable

/-- Why an integer cannot be put into a column. -/
def integerFault? (i : Int) : Option Fault := if fits i then none else some .integerTooWide

/-- Why a scan cannot be put into a row. Its values are looked at in the order of the columns. -/
def scanFault? (scan : Scan) : Option Fault :=
  (textFault? scan.target).or ((textFault? scan.text).or ((integerFault? scan.count).or
    (scan.profile.bind textFault?)))

/-- Adds a scan and answers with its number. -/
def insertScan (scan : Scan) : Step Nat := do
  match (← get).scans with
  | none => throw (.noTable .scans)
  | some table =>
    match scanFault? scan with
    | some fault => throw fault
    | none =>
      modify fun ledger =>
        { ledger with
          scans := some (table.insert { scan with createdAt := scan.createdAt.stored }) }
      return table.nextId

/-- Why a line of the audit trail cannot be put into a row. -/
def auditFault? (entry : AuditEntry) : Option Fault :=
  (textFault? entry.entity).or ((textFault? entry.action).or (textFault? entry.detail))

/-- Adds a line to the audit trail. -/
def insertAudit (entry : AuditEntry) : Step Unit := do
  match (← get).audit with
  | none => throw (.noTable .auditLog)
  | some table =>
    match auditFault? entry with
    | some fault => throw fault
    | none =>
      modify fun ledger =>
        { ledger with
          audit := some (table.insert { entry with createdAt := entry.createdAt.stored }) }

/-- The audit detail of a recorded scan. -/
def auditDetail (id : Nat) (shown : Text) (count : Int) : Text :=
  "id=" ++ Numeral.decimal id ++ " target=" ++ shown ++ " count=" ++ Numeral.ofInt count

/-- Records a scan and, if an action is named, its line of the audit trail; either both are kept or
neither. Answers with the number of the scan. -/
def record (scan : Scan) (action : Option Text) : Step Nat := transaction do
  let id ← insertScan scan
  match action with
  | none | some [] => pure ()
  | some action =>
    match Target.describe? scan.target with
    | none => throw (.notOneCharacter scan.target.length)
    | some shown =>
      insertAudit ⟨"scan", action, auditDetail id shown scan.count, scan.createdAt⟩
  return id

/-- The part of a list that a limit lets through; a negative limit is none. -/
def limited {α : Type} (limit : Option Int) (rows : List α) : List α :=
  match limit with
  | none => rows
  | some limit => if limit < 0 then rows else rows.take limit.toNat

/-- The newest scans, at most `limit` of them. -/
def newestScans (limit : Option Int) : Step (List (Nat × Scan)) := do
  match (← get).scans with
  | none => throw (.noTable .scans)
  | some table =>
    if limit.all fits then return limited limit table.newestFirst
    else throw .integerTooWide

/-- The audit trail, oldest line first. -/
def auditTrail : Step (List AuditEntry) := do
  match (← get).audit with
  | none => throw (.noTable .auditLog)
  | some table => return table.rows.map (·.2)

/-! ### Upkeep -/

/-- Removes the scan of a number, if there is one. -/
def deleteScan (id : Int) : Step Unit := do
  match (← get).scans with
  | none => throw (.noTable .scans)
  | some table =>
    if fits id then modify fun ledger => { ledger with scans := some (table.erase id) }
    else throw .integerTooWide

/-- Whether a table is there. -/
def hasTable (ledger : Ledger) : TableName → Bool
  | .auditLog => ledger.audit.isSome
  | .scans => ledger.scans.isSome
  | .schemaMigrations => ledger.migrations.isSome

/-- Removes a table with its rows and its numbering. -/
def dropTable (name : TableName) : Step Unit := do
  if (← get).hasTable name then
    modify fun ledger =>
      match name with
      | .auditLog => { ledger with audit := none }
      | .scans => { ledger with scans := none }
      | .schemaMigrations => { ledger with migrations := none }
  else throw (.noTable name)

/-- The tables that are there, in the order of their names. -/
def tableNames (ledger : Ledger) : List TableName :=
  [.auditLog, .scans, .schemaMigrations].filter ledger.hasTable

/-- The migrations that are recorded, in order. -/
def appliedMigrations : Step (List Migration) := do
  match (← get).migrations with
  | none => throw (.noTable .schemaMigrations)
  | some applied => return applied

end Ledger

end CharTally
