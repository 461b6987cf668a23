import CharTally.Proofs.Ledger.Store
import Mathlib.Data.List.Induction

/-!
# The history of a ledger

Sessions of deeds on the ledger at one path, which starts where no file stands.
`step_change` is all that a deed can do to the table of scans: a recorded scan adds
a row under the next number, a deletion takes a row away, and everything else,
failures included, leaves the table alone. `Chronicle` is what the table then knows
of the session: the last number is the count of the scans recorded so far, and the
rows are the recorded scans that were not deleted since. It is carried along the
session from its end (`exists_chronicle`), and `scans_of_session` reads it off at any
moment.
-/

namespace CharTally.Store

/-! ## Deeds -/

/-- Deletes the scan of a number by hand, from a ledger that is there. -/
def erase (path : FilePath) (number : Int) : Job Unit := fun workspace =>
  match workspace.files.locate path with
  | .error _ => .ok () workspace
  | .ok place =>
    match workspace.files.get? place with
    | some (.ledger _) =>
      let left := leftBy (stepAt place path .recordScan (Ledger.deleteScan number)) workspace.files
      .ok () { workspace with files := left }
    | _ => .ok () workspace

/-- What is done with a ledger. -/
inductive Deed where
  | setUp
  | record (report : Report) (profile action : Option Text)
  | scans (limit : Option Int)
  | auditTrail
  | erase (number : Int)

namespace Deed

/-- The job of a deed, which answers with the number that it gives, if it gives one. -/
def job (path : FilePath) : Deed → Job (Option Nat)
  | .setUp => (fun _ => none) <$> Store.setUp path
  | .record report profile action => some <$> Store.record path report profile action
  | .scans limit => (fun _ => none) <$> Store.scans path limit
  | .auditTrail => (fun _ => none) <$> Store.auditTrail path
  | .erase number => (fun _ => none) <$> Store.erase path number

/-- The deed deletes the scan of a number. A number beyond 64 bits deletes nothing. -/
def Erases (number : Nat) (deed : Deed) : Prop :=
  deed = .erase number ∧ Ledger.fits number = true

end Deed

/-- The numbers that the recorded scans of a session were given, in order. -/
def numbers (path : FilePath) (session : List (Timed Deed)) (start : Workspace) : List Nat :=
  (Session.answers (Deed.job path) session start).filterMap (·.2)

/-- The workspace behind a session, at a later time. -/
def workspaceAt (path : FilePath) (session : List (Timed Deed)) (start : Workspace)
    (now : Instant) : Workspace :=
  { Session.after (Deed.job path) session start with now }

/-- In a session, a scan was recorded under a number, and was not deleted since. -/
def Survives (path : FilePath) (session : List (Timed Deed)) (start : Workspace) (number : Nat)
    (scan : Scan) : Prop :=
  ∃ earlier now report profile action later left,
    session = earlier ++ ⟨now, .record report profile action⟩ :: later ∧
      record path report profile action (workspaceAt path earlier start now) = .ok number left ∧
      scan = (scanOf report profile now).stored ∧
      ∀ moment ∈ later, ¬ moment.deed.Erases number

/-! ## What one deed does -/

variable {path : FilePath} {before after start : Workspace} {held : Option Ledger}
  {content : Ledger} {files : Files}

/-- The table of scans of what stands at a path. -/
def scansOf (held : Option Ledger) : Table Scan := (held.bind (·.scans)).getD {}

/-- What stands at a path is nothing or a ledger that is set up. -/
def Tended (path : FilePath) (files : Files) (held : Option Ledger) : Prop :=
  Stands path files held ∧ ∀ content ∈ held, Ledger.Ready content

/-- Where there is room for a ledger, there is nothing to set up yet. -/
theorem Stands.tended (stands : Stands path files none) : Tended path files none := by
  refine ⟨stands, ?_⟩
  intro content none_
  cases none_

/-- What setting up makes of what stands at a path. -/
theorem setUp_of_tended (tended : Tended path before.files held) :
    ∃ files content, setUp path before = .ok () { before with files } ∧
      Tended path files (some content) ∧ scansOf (some content) = scansOf held := by
  obtain ⟨stands, ready⟩ := tended
  obtain ⟨files, ran, stood⟩ := setUp_of_stands stands
  cases held with
  | none =>
    refine ⟨files, _, ran, ⟨stood, ?_⟩, rfl⟩
    intro content same
    cases same
    exact Ledger.ready_migrate_empty before.now
  | some content =>
    have isReady := ready content rfl
    rw [Option.getD_some, Ledger.migrate_of_ready before.now isReady] at stood
    refine ⟨files, content, ran, ⟨stood, ?_⟩, rfl⟩
    intro other same
    cases same
    exact isReady

/-- A step that only reads a ledger leaves it, whether or not it fails. -/
theorem leftBy_onLedger_of_read {α : Type} {action : LedgerAction} {step : Ledger.Step α}
    (stands : Stands path before.files (some content)) (reads : leftBy step content = content) :
    Stands path (leftBy (onLedger path action step) before).files (some content) := by
  have onward := onLedger_of_stands action stands step
  cases stepped : step content with
  | ok value left =>
    rw [stepped] at onward
    obtain ⟨files, ran, stood⟩ := onward
    rw [leftBy_of_ok stepped] at reads
    rw [leftBy_of_ok ran, ← reads]
    exact stood
  | error fault left =>
    rw [stepped] at onward
    obtain ⟨files, ran, stood⟩ := onward
    rw [leftBy_of_error ran]
    exact stood

theorem numbers_singleton (moment : Timed Deed) (workspace : Workspace) :
    numbers path [moment] workspace =
      match Session.outcome (Deed.job path) moment workspace with
      | .ok (some number) _ => [number]
      | _ => [] := by
  rw [numbers, Session.answers_singleton]
  cases Session.outcome (Deed.job path) moment workspace with
  | ok answer left => cases answer <;> rfl
  | error failure left => rfl

/-- A deed that answers with no number gives none. -/
theorem numbers_of_quiet {α : Type} {moment : Timed Deed} {job : Job α}
    (quiet : moment.deed.job path = (fun _ => none) <$> job) :
    numbers path [moment] before = [] := by
  rw [numbers_singleton, Session.outcome, quiet]
  cases ran : ((fun _ => none) <$> job : Job (Option Nat)) { before with now := moment.now } with
  | error failure left => rfl
  | ok answer left =>
    obtain ⟨_, _, rfl⟩ := map_eq_ok.mp ran
    rfl

/-- What a deed can do to the table of scans at the path: add the scan that it records, take one
away, or leave the table as it is and give no number. -/
inductive Change (path : FilePath) (before : Workspace) (moment : Timed Deed) (table : Table Scan) :
    Table Scan → Prop
  | added {report : Report} {profile action : Option Text} {left : Workspace}
      (deed : moment.deed = .record report profile action)
      (ran : record path report profile action { before with now := moment.now } =
        .ok table.nextId left) :
      Change path before moment table (table.insert (scanOf report profile moment.now).stored)
  | removed {number : Int} (deed : moment.deed = .erase number)
      (narrow : Ledger.fits number = true) (quiet : numbers path [moment] before = []) :
      Change path before moment table (table.erase number)
  | kept (keeps : ∀ number, ¬ moment.deed.Erases number)
      (quiet : numbers path [moment] before = []) : Change path before moment table table

/-- What a deed leaves at the path, and how the scans there differ from what they were. -/
def Steps (path : FilePath) (before : Workspace) (moment : Timed Deed) (held : Option Ledger) :
    Prop :=
  ∃ held', Tended path (Session.next (Deed.job path) before moment).files held' ∧
    Change path before moment (scansOf held) (scansOf held')

theorem steps_setUp {now : Instant} (tended : Tended path before.files held) :
    Steps path before ⟨now, .setUp⟩ held := by
  have atNow : Tended path ({ before with now } : Workspace).files held := tended
  obtain ⟨files, content, ran, ready, same⟩ := setUp_of_tended atNow
  refine ⟨some content, ?_, ?_⟩
  · rw [Session.next, Deed.job, leftBy_map, leftBy_of_ok ran]
    exact ready
  · rw [same]
    refine .kept ?_ (numbers_of_quiet rfl)
    rintro number ⟨erases, _⟩
    cases erases

/-- Setting up and then reading leaves the scans. -/
theorem steps_read {α : Type} {now : Instant} {deed : Deed} {action : LedgerAction}
    {step : Ledger.Step α} (tended : Tended path before.files held)
    (reads : ∀ content, leftBy step content = content)
    (isJob : deed.job path =
      (fun _ => none) <$> (do setUp path; onLedger path action step : Job α))
    (keeps : ∀ number, ¬ deed.Erases number) :
    Steps path before ⟨now, deed⟩ held := by
  have atNow : Tended path ({ before with now } : Workspace).files held := tended
  obtain ⟨files, content, ran, ⟨stands, ready⟩, same⟩ := setUp_of_tended atNow
  have readied : Stands path ({ before with files, now } : Workspace).files (some content) := stands
  refine ⟨some content, ⟨?_, ready⟩, ?_⟩
  · rw [Session.next, isJob, leftBy_map, leftBy, bind_of_ok ran]
    exact leftBy_onLedger_of_read readied (reads content)
  · rw [same]
    exact .kept keeps (numbers_of_quiet isJob)

/-- Recording a scan is one step on the ledger that setting up makes of what stands at a path. -/
theorem record_of_tended (tended : Tended path before.files held) (report : Report)
    (profile action : Option Text) :
    ∃ content, Ledger.Ready content ∧ scansOf (some content) = scansOf held ∧
      match Ledger.record (scanOf report profile before.now) action content with
      | .ok id left =>
        ∃ files, record path report profile action before = .ok id { before with files } ∧
          Stands path files (some left)
      | .error fault _ =>
        ∃ files, record path report profile action before =
            .error (ofFault path .recordScan fault) { before with files } ∧
          Stands path files (some content) := by
  obtain ⟨files, content, ran, ⟨stands, ready⟩, same⟩ := setUp_of_tended tended
  have readied : Stands path ({ before with files } : Workspace).files (some content) := stands
  have onward := onLedger_of_stands .recordScan readied
    (Ledger.record (scanOf report profile before.now) action)
  refine ⟨content, ready content rfl, same, ?_⟩
  have whole : record path report profile action before =
      onLedger path .recordScan (Ledger.record (scanOf report profile before.now) action)
        { before with files } := by
    rw [record, bind_of_ok ran]
    rfl
  rw [whole]
  cases recorded : Ledger.record (scanOf report profile before.now) action content with
  | ok id left => rw [recorded] at onward; exact onward
  | error fault left => rw [recorded] at onward; exact onward

/-- A scan is recorded under the next number, or nothing is left of it. -/
theorem steps_record {now : Instant} {report : Report} {profile action : Option Text}
    (tended : Tended path before.files held) :
    Steps path before ⟨now, .record report profile action⟩ held := by
  have atNow : Tended path ({ before with now } : Workspace).files held := tended
  obtain ⟨content, isReady, same, onward⟩ := record_of_tended atNow report profile action
  cases recorded : Ledger.record (scanOf report profile now) action content with
  | ok number left =>
    rw [recorded] at onward
    obtain ⟨files, whole, stood⟩ := onward
    obtain ⟨table, present, _, rfl, gained, _⟩ := Ledger.record_ok recorded
    refine ⟨some left, ⟨?_, ?_⟩, ?_⟩
    · rw [Session.next, Deed.job, leftBy_map, leftBy_of_ok whole]
      exact stood
    · rintro _ ⟨⟩
      exact isReady.record recorded
    · have former : scansOf held = table := by
        rw [← same]
        simp [scansOf, present]
      have latter : scansOf (some left) = table.insert (scanOf report profile now).stored := by
        simp [scansOf, gained]
      rw [former, latter]
      exact .added rfl whole
  | error fault left =>
    rw [recorded] at onward
    obtain ⟨files, whole, stood⟩ := onward
    refine ⟨some content, ⟨?_, ?_⟩, ?_⟩
    · rw [Session.next, Deed.job, leftBy_map, leftBy_of_error whole]
      exact stood
    · rintro _ ⟨⟩
      exact isReady
    · rw [same]
      refine .kept ?_ ?_
      · rintro number ⟨erases, _⟩
        cases erases
      · rw [numbers_singleton, Session.outcome, Deed.job]
        cases ran : ((some <$> record path report profile action) : Job (Option Nat))
            { before with now } with
        | error failure left => rfl
        | ok answer left =>
          obtain ⟨number, answered, _⟩ := map_eq_ok.mp ran
          rw [whole] at answered
          cases answered

/-- There is nothing to delete where nothing stands. -/
theorem erase_of_vacant {number : Int} (vacant : Files.Vacant path before.files) :
    erase path number before = .ok () before := by
  unfold erase
  cases located : before.files.locate path with
  | error fault => rfl
  | ok place =>
    dsimp only
    rw [vacant.get?_eq_none located]

/-- A deletion takes the row of its number away, if it has one. -/
theorem steps_erase {now : Instant} {number : Int} (tended : Tended path before.files held) :
    Steps path before ⟨now, .erase number⟩ held := by
  have quiet : numbers path [⟨now, .erase number⟩] before = [] := numbers_of_quiet rfl
  have keeps (wide : ¬ Ledger.fits number = true) (other : Nat) :
      ¬ (Deed.erase number).Erases other := by
    rintro ⟨same, narrow⟩
    cases same
    exact wide narrow
  cases held with
  | none =>
    have vacant : Files.Vacant path ({ before with now } : Workspace).files := tended.1.vacant
    refine ⟨none, ?_, ?_⟩
    · rw [Session.next, Deed.job, leftBy_map, leftBy_of_ok (erase_of_vacant vacant)]
      exact tended
    · by_cases narrow : Ledger.fits number = true
      · exact .removed rfl narrow quiet
      · exact .kept (keeps narrow) quiet
  | some content =>
    obtain ⟨⟨file, place, located, opens, rfl, sound⟩, ready⟩ := tended
    have isReady := ready _ rfl
    obtain ⟨table, present⟩ := isReady.scans
    have found := get?_of_ledgerAt_ne isReady.ne_empty
    have left : leftBy (Deed.job path (.erase number)) { before with now } =
        { before with
          now
          files := leftBy (stepAt place path .recordScan (Ledger.deleteScan number))
            before.files } := by
      rw [Deed.job, leftBy_map, leftBy, erase]
      simp only [located, found]
    have onward := stepAt_of_sound .recordScan sound opens (Ledger.deleteScan number)
    rw [Ledger.deleteScan_eq, present] at onward
    by_cases narrow : Ledger.fits number = true
    · simp only [narrow, if_true] at onward
      obtain ⟨files, took, yields, settled⟩ := onward
      refine ⟨some { ledgerAt before.files place with scans := some (table.erase number) },
        ⟨?_, ?_⟩, ?_⟩
      · rw [Session.next, left, leftBy_of_ok took]
        exact .of_yields file located sound yields settled
      · rintro _ ⟨⟩
        exact ⟨isReady.migrated, ⟨_, rfl⟩, isReady.audit⟩
      · have former : scansOf (some (ledgerAt before.files place)) = table := by
          simp [scansOf, present]
        rw [former]
        exact .removed rfl narrow quiet
    · simp only [narrow] at onward
      obtain ⟨files, took, yields, settled⟩ := onward
      refine ⟨some (ledgerAt before.files place), ⟨?_, ready⟩, .kept (keeps narrow) quiet⟩
      rw [Session.next, left, leftBy_of_error took]
      exact .of_yields file located sound yields settled

/-- **What a deed does to a ledger that is set up**: one of the three changes, and the ledger is
set up behind it. -/
theorem step_change (moment : Timed Deed) (tended : Tended path before.files held) :
    Steps path before moment held := by
  obtain ⟨now, deed⟩ := moment
  cases deed with
  | setUp => exact steps_setUp tended
  | record report profile action => exact steps_record tended
  | scans limit =>
    refine steps_read tended (Ledger.leftBy_newestScans limit) rfl ?_
    rintro number ⟨erases, _⟩
    cases erases
  | auditTrail =>
    refine steps_read tended Ledger.leftBy_auditTrail rfl ?_
    rintro number ⟨erases, _⟩
    cases erases
  | erase number => exact steps_erase tended

/-! ## What a session does -/

variable {session : List (Timed Deed)} {moment : Timed Deed} {table table' : Table Scan}

theorem numbers_concat (session : List (Timed Deed)) (moment : Timed Deed) (start : Workspace) :
    numbers path (session ++ [moment]) start = numbers path session start ++
      numbers path [moment] (Session.after (Deed.job path) session start) := by
  rw [numbers, Session.answers_append, List.filterMap_append]
  rfl

/-- Behind one more deed, a scan survives that survived so far and is not deleted now, or that is
recorded now. -/
theorem survives_concat {number : Nat} {scan : Scan} :
    Survives path (session ++ [moment]) start number scan ↔
      Survives path session start number scan ∧ ¬ moment.deed.Erases number ∨
        ∃ report profile action left, moment.deed = .record report profile action ∧
          record path report profile action (workspaceAt path session start moment.now) =
            .ok number left ∧
          scan = (scanOf report profile moment.now).stored := by
  constructor
  · rintro ⟨earlier, now, report, profile, action, later, left, split, ran, same, spared⟩
    rcases List.eq_nil_or_concat later with rfl | ⟨between, last, rfl⟩
    · obtain ⟨rfl, only⟩ := List.append_inj' split rfl
      cases only
      exact Or.inr ⟨report, profile, action, left, rfl, ran, same⟩
    · rw [List.concat_eq_append, ← List.cons_append, ← List.append_assoc] at split
      rw [List.concat_eq_append] at spared
      obtain ⟨rfl, only⟩ := List.append_inj' split rfl
      cases only
      have spared' := List.forall_mem_append.mp spared
      exact Or.inl ⟨⟨earlier, now, report, profile, action, between, left, rfl, ran, same,
        spared'.1⟩, spared'.2 moment (List.mem_singleton_self moment)⟩
  · rintro (⟨⟨earlier, now, report, profile, action, later, left, rfl, ran, same, spared⟩, spares⟩ |
      ⟨report, profile, action, left, isRecord, ran, same⟩)
    · refine ⟨earlier, now, report, profile, action, later ++ [moment], left, ?_, ran, same, ?_⟩
      · rw [List.append_assoc, List.cons_append]
      · refine List.forall_mem_append.mpr ⟨spared, ?_⟩
        intro last member
        rw [List.mem_singleton.mp member]
        exact spares
    · obtain ⟨now, deed⟩ := moment
      cases isRecord
      exact ⟨session, now, report, profile, action, [], left, rfl, ran, same,
        fun _ member => nomatch member⟩

/-- What a table of scans knows of the session behind it. -/
structure Chronicle (path : FilePath) (session : List (Timed Deed)) (start : Workspace)
    (table : Table Scan) : Prop where
  counted : numbers path session start = List.range' 1 table.lastId
  ordered : (table.rows.map (·.1)).Pairwise (· < ·)
  bounded : ∀ number ∈ table.rows.map (·.1), number ≤ table.lastId
  told : ∀ number scan, (number, scan) ∈ table.rows ↔ Survives path session start number scan

theorem chronicle_nil : Chronicle path [] start {} := by
  refine ⟨rfl, List.Pairwise.nil, ?_, ?_⟩
  · intro number member
    cases member
  · intro number scan
    constructor
    · intro member
      cases member
    · rintro ⟨earlier, now, report, profile, action, later, left, split, _⟩
      exact absurd split.symm
        (List.append_ne_nil_of_right_ne_nil earlier (List.cons_ne_nil _ later))

/-- A recorded scan gives its number. -/
theorem numbers_of_recorded {report : Report} {profile action : Option Text} {number : Nat}
    {left : Workspace} (isRecord : moment.deed = .record report profile action)
    (ran : record path report profile action { before with now := moment.now } = .ok number left) :
    numbers path [moment] before = [number] := by
  have answered : Session.outcome (Deed.job path) moment before = .ok (some number) left := by
    rw [Session.outcome, isRecord]
    exact map_eq_ok.mpr ⟨number, ran, rfl⟩
  rw [numbers_singleton, answered]

/-- A recorded scan is one more row, and survives. -/
theorem Chronicle.added {report : Report} {profile action : Option Text} {left : Workspace}
    (chronicle : Chronicle path session start table)
    (deed : moment.deed = .record report profile action)
    (ran : record path report profile action (workspaceAt path session start moment.now) =
      .ok table.nextId left) :
    Chronicle path (session ++ [moment]) start
      (table.insert (scanOf report profile moment.now).stored) := by
  obtain ⟨counted, ordered, bounded, told⟩ := chronicle
  refine ⟨?_, ?_, ?_, ?_⟩
  · rw [numbers_concat, numbers_of_recorded deed ran, counted, Table.insert, Table.nextId,
      List.range'_1_concat, Nat.add_comm 1]
  · rw [Table.insert, List.map_append]
    refine List.pairwise_append.mpr ⟨ordered, List.pairwise_singleton _ _, ?_⟩
    intro known member new isNew
    rw [List.map_singleton, List.mem_singleton] at isNew
    have := bounded known member
    rw [isNew, Table.nextId]
    omega
  · intro known member
    rw [Table.insert, List.map_append, List.mem_append, List.map_singleton,
      List.mem_singleton] at member
    change known ≤ table.lastId + 1
    rcases member with old | new
    · have := bounded known old
      omega
    · exact Nat.le_of_eq new
  · intro number scan
    rw [survives_concat, Table.insert, List.mem_append, List.mem_singleton, told]
    constructor
    · rintro (survives | new)
      · refine Or.inl ⟨survives, ?_⟩
        rintro ⟨erases, _⟩
        rw [deed] at erases
        cases erases
      · cases new
        exact Or.inr ⟨report, profile, action, left, deed, ran, rfl⟩
    · rintro (⟨survives, _⟩ | ⟨report', profile', action', left', deed', ran', rfl⟩)
      · exact Or.inl survives
      · cases deed.symm.trans deed'
        cases ran.symm.trans ran'
        exact Or.inr rfl

/-- A deleted scan has no row, and does not survive. -/
theorem Chronicle.removed {number : Int} (chronicle : Chronicle path session start table)
    (deed : moment.deed = .erase number) (narrow : Ledger.fits number = true)
    (quiet : numbers path [moment] (Session.after (Deed.job path) session start) = []) :
    Chronicle path (session ++ [moment]) start (table.erase number) := by
  obtain ⟨counted, ordered, bounded, told⟩ := chronicle
  have fewer : ((table.erase number).rows.map (·.1)).Sublist (table.rows.map (·.1)) :=
    List.filter_sublist.map _
  refine ⟨?_, ordered.sublist fewer, fun known member => bounded known (fewer.subset member), ?_⟩
  · rw [numbers_concat, quiet, List.append_nil]
    exact counted
  · intro known scan
    have spares : (known : Int) ≠ number ↔ ¬ moment.deed.Erases known := by
      rw [Deed.Erases, deed]
      constructor
      · rintro differs ⟨same, _⟩
        cases same
        exact differs rfl
      · rintro spared rfl
        exact spared ⟨rfl, narrow⟩
    rw [survives_concat, ← told, ← spares, Table.erase, List.mem_filter, decide_eq_true_eq]
    constructor
    · exact Or.inl
    · rintro (row | ⟨report, profile, action, left, deed', ran, _⟩)
      · exact row
      · cases deed.symm.trans deed'

/-- A deed that keeps the rows keeps what survives. -/
theorem Chronicle.kept (chronicle : Chronicle path session start table)
    (keeps : ∀ number, ¬ moment.deed.Erases number)
    (quiet : numbers path [moment] (Session.after (Deed.job path) session start) = []) :
    Chronicle path (session ++ [moment]) start table := by
  obtain ⟨counted, ordered, bounded, told⟩ := chronicle
  refine ⟨?_, ordered, bounded, ?_⟩
  · rw [numbers_concat, quiet, List.append_nil]
    exact counted
  · intro known scan
    rw [survives_concat, ← told]
    constructor
    · exact fun row => Or.inl ⟨row, keeps known⟩
    · rintro (⟨row, _⟩ | ⟨report, profile, action, left, isRecord, ran, _⟩)
      · exact row
      · rw [numbers_of_recorded isRecord ran] at quiet
        cases quiet

/-- One more deed carries the chronicle on. -/
theorem Chronicle.concat (chronicle : Chronicle path session start table)
    (change : Change path (Session.after (Deed.job path) session start) moment table table') :
    Chronicle path (session ++ [moment]) start table' := by
  cases change with
  | added deed ran => exact chronicle.added deed ran
  | removed deed narrow quiet => exact chronicle.removed deed narrow quiet
  | kept keeps quiet => exact chronicle.kept keeps quiet

/-- Behind every session, the ledger at the path holds the chronicle of the session. -/
theorem exists_chronicle (free : Stands path start.files none) (session : List (Timed Deed)) :
    ∃ held, Tended path (Session.after (Deed.job path) session start).files held ∧
      Chronicle path session start (scansOf held) := by
  induction session using List.reverseRecOn with
  | nil => exact ⟨none, ⟨free, fun _ none_ => nomatch none_⟩, chronicle_nil⟩
  | append_singleton session moment ih =>
    obtain ⟨held, tended, chronicle⟩ := ih
    obtain ⟨held', tended', change⟩ := step_change moment tended
    refine ⟨held', ?_, chronicle.concat change⟩
    rw [Session.after_append]
    exact tended'

/-- The scans are read from the ledger that stands at the path. -/
theorem scans_of_tended {limit : Option Int} (tended : Tended path before.files held)
    (narrow : limit.all Ledger.fits = true) :
    ∃ left, scans path limit before =
      .ok (Ledger.limited limit (scansOf held).newestFirst) left := by
  obtain ⟨files, content, ran, ⟨stands, ready⟩, same⟩ := setUp_of_tended tended
  have readied : Stands path ({ before with files } : Workspace).files (some content) := stands
  have stepped := onLedger_of_stands .readScans readied (Ledger.newestScans limit)
  obtain ⟨table, present⟩ := (ready content rfl).scans
  have read : Ledger.newestScans limit content =
      .ok (Ledger.limited limit table.newestFirst) content := by
    rw [Ledger.newestScans_eq, present]
    simp only [narrow, if_true]
  rw [read] at stepped
  obtain ⟨left, took, _⟩ := stepped
  have former : scansOf held = table := by
    rw [← same]
    simp [scansOf, present]
  rw [former]
  exact ⟨{ before with files := left }, (bind_of_ok ran).trans took⟩

/-- The audit trail is read from the ledger that stands at the path. -/
theorem auditTrail_of_tended (tended : Tended path before.files held) :
    ∃ entries left, auditTrail path before = .ok entries left := by
  obtain ⟨files, content, ran, ⟨stands, ready⟩, _⟩ := setUp_of_tended tended
  have readied : Stands path ({ before with files } : Workspace).files (some content) := stands
  have stepped := onLedger_of_stands .readAudit readied Ledger.auditTrail
  obtain ⟨table, present⟩ := (ready content rfl).audit
  rw [Ledger.auditTrail_eq, present] at stepped
  obtain ⟨left, took, _⟩ := stepped
  exact ⟨_, { before with files := left }, (bind_of_ok ran).trans took⟩

/-- **The scans of a ledger are its history.** After any session of deeds on a ledger file that was
not there at first, but can be there, the scans that were recorded have the numbers 1, 2, 3 and so
on, in this order. The scans that are read, at any time, are those that were recorded and not
deleted since, the last one first, each as it was recorded, where only the sign of a zero of the
clock is lost. A limit takes the first of them, and a negative one takes all. -/
theorem scans_of_session (free : Stands path start.files none) (session : List (Timed Deed)) :
    numbers path session start = List.range' 1 (numbers path session start).length ∧
      ∀ now, ∃ rows left,
        scans path none (workspaceAt path session start now) = .ok rows left ∧
        (rows.map (·.1)).Pairwise (· > ·) ∧
        (∀ number scan, (number, scan) ∈ rows ↔ Survives path session start number scan) ∧
        ∀ limit : Int, Ledger.fits limit = true →
          ∃ left, scans path (some limit) (workspaceAt path session start now) =
            .ok (if limit < 0 then rows else rows.take limit.toNat) left := by
  obtain ⟨held, tended, counted, ordered, _, told⟩ := exists_chronicle free session
  refine ⟨by rw [counted, List.length_range'], ?_⟩
  intro now
  have atNow : Tended path (workspaceAt path session start now).files held := tended
  obtain ⟨left, read⟩ := scans_of_tended atNow (rfl : (none : Option Int).all Ledger.fits = true)
  refine ⟨(scansOf held).newestFirst, left, read, ?_, ?_, ?_⟩
  · rw [Table.newestFirst, List.map_reverse]
    exact List.pairwise_reverse.mpr ordered
  · intro number scan
    rw [Table.newestFirst, List.mem_reverse, told]
  · intro limit narrow
    exact scans_of_tended atNow (Option.all_some.trans narrow)

/-- Two scans are recorded, and the first is deleted in between. -/
def twoScans : List (Timed Deed) :=
  [⟨.last, .record ⟨['d'], ⟨['d', '\x00', 'd']⟩, 1, {}⟩ none (some ['c'])⟩,
    ⟨.last, .erase 1⟩,
    ⟨.last, .record ⟨['\x00'], ⟨['d']⟩, 0, {}⟩ (some ['p', '\x00']) none⟩]

/-- No number is given twice. -/
theorem scans_of_session_with_deletion :
    let path : FilePath := ⟨[], [['h']]⟩
    let start : Workspace := { files := {}, now := .last }
    numbers path twoScans start = [1, 2] ∧
      ∃ rows left, scans path none (workspaceAt path twoScans start start.now) = .ok rows left ∧
        ∀ number scan, (number, scan) ∈ rows ↔ Survives path twoScans start number scan := by
  intro path start
  have sound : Sound start.files path [['h']] := by decide
  have free : Stands path start.files none :=
    ⟨by decide, start.files, [['h']], rfl, rfl, rfl, sound⟩
  have given : numbers path twoScans start = [1, 2] := by decide +kernel
  obtain ⟨_, read⟩ := scans_of_session free twoScans
  obtain ⟨rows, left, ran, _, told, _⟩ := read start.now
  exact ⟨given, rows, left, ran, told⟩

end CharTally.Store
