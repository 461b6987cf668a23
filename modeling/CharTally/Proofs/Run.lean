import CharTally.Proofs.Ledger.Store
import CharTally.Proofs.ScanLog
import CharTally.Proofs.Stream
import CharTally.Proofs.Tape
import CharTally.Run

/-!
# What a run delivers

A run that succeeds has delivered one scan to all its sinks: the log has one more
event, the ledger one more row and one more line of its audit trail, the reporter
one more report, and all of them say what the returned report says. `Delivered`
spells this out, together with what became of everything else, and
`count_delivers` proves it of every run with a log and a ledger.
-/

namespace CharTally.Run

variable {target : CodePoint} {text : Text} {wording : Wording} {reporter : Reporter}
  {log ledger : FilePath} {profile : Option Text} {before after : Workspace} {report : Report}

/-! ## What is delivered -/

/-- The characters that a scan of a text sees. -/
def seen (text : Text) : Text := text.takeWhile (· ≠ terminator)

/-- The document at a place; where none stands, an empty one. -/
def documentAt (files : Files) (place : Place) : List UInt8 :=
  match files.get? place with
  | some (.document bytes) => bytes
  | _ => []

/-- What the ledger at a place gains by a run: one row of its scans under the next number, and one
line of its audit trail about this row. -/
def Records (target : CodePoint) (text : Text) (profile : Option Text) (now : Instant)
    (prior content : Ledger) : Prop :=
  let scans := prior.scans.getD {}
  let count := (seen text).count target
  content.scans = some (scans.insert ⟨[target], seen text, count, profile, now.stored⟩) ∧
    content.audit = some ((prior.audit.getD {}).insert ⟨"scan", "count",
      Ledger.auditDetail scans.nextId (Target.describe target) count, now.stored⟩) ∧
    ∃ added, content.migrations = some (prior.migrations.getD [] ++ added)

/-- What a reporter receives: one report, kept or printed on a line. -/
def Receives (reporter : Reporter) (report : Report) (line : Text) (before after : Workspace) :
    Prop :=
  match reporter with
  | .keep => after.reports = before.reports ++ [report] ∧ after.printed = before.printed
  | .print => after.reports = before.reports ∧ after.printed = before.printed ++ (line ++ "\n")

/-- All sinks of a run received the same scan and kept what they had, and nothing else changed but
folders that were added and files beside the ledger that are the store's own. -/
structure Delivered (target : CodePoint) (text : Text) (wording : Wording) (reporter : Reporter)
    (profile : Option Text) (logPlace ledgerPlace : Place) (before after : Workspace)
    (report : Report) : Prop where
  target_eq : report.target = [target]
  text_eq : report.text = seen text
  count_eq : report.count = (seen text).count target
  none_of_terminator : target = terminator → report.count = 0
  logged : ∃ event, ScanLog.Tells report profile before.now event ∧ scalar '\n' ∉ event.render ∧
    after.files.get? logPlace = some (.document
      (documentAt before.files logPlace ++ Utf8.encode (event.render ++ "\n")))
  recorded : ∃ content, after.files.get? ledgerPlace = some (.ledger content) ∧
    Records target text profile before.now (Store.ledgerAt before.files ledgerPlace) content
  reported : ∃ line, report.line? = some line ∧
    line = Numeral.decimal ((seen text).count target) ++ wording.beforeTarget ++ [target] ++
      wording.afterTarget ++ seen text ∧
    Receives reporter report line before after
  kept : ∀ place, place ≠ logPlace → place ≠ ledgerPlace →
    Store.Elsewhere ledgerPlace before.files after.files place

/-! ## The sinks, one by one -/

/-- What is added to a document stands behind what was there. -/
theorem set_of_append {files later : Files} {more : List UInt8}
    (noLedger : ∀ place, files.locate log = .ok place →
      ∀ content, files.get? place ≠ some (.ledger content))
    (added : files.append log more = .ok later) :
    ∃ place, files.locate log = .ok place ∧ files.get? place ≠ some .folder ∧
      later = files.set place (.document (documentAt files place ++ more)) := by
  obtain ⟨place, located, outcome⟩ := Files.append_eq_ok added
  refine ⟨place, located, ?_⟩
  unfold documentAt
  rcases outcome with ⟨absent, rfl⟩ | ⟨bytes, present, rfl⟩ | ⟨content, present, _⟩
  · rw [absent]
    exact ⟨(fun h => nomatch h), rfl⟩
  · rw [present]
    exact ⟨(fun h => nomatch h), rfl⟩
  · exact absurd present (noLedger place located content)

/-- A recorded run is one row, and one line of the audit trail about it. -/
theorem records_of_record {prior content : Ledger} {id : Nat} {now : Instant}
    (target_eq : report.target = [target]) (text_eq : report.text = seen text)
    (count_eq : report.count = (seen text).count target)
    (recorded : Ledger.record (Store.scanOf report profile now) (some auditAction)
      (prior.migrate now) = .ok id content) : Records target text profile now prior content := by
  obtain ⟨table, present, _, rfl, scans, migrations, gains⟩ := Ledger.record_ok recorded
  obtain ⟨shown, trail, described, audited, audit⟩ := gains
  cases Ledger.scans_of_migrate present
  cases Ledger.audit_of_migrate audited
  obtain ⟨added, kept⟩ := Ledger.migrations_of_migrate now prior
  have row : (Store.scanOf report profile now).stored =
      ⟨[target], seen text, (seen text).count target, profile, now.stored⟩ := by
    simp only [Store.scanOf, Scan.stored, target_eq, text_eq, count_eq]
  have isShown : Target.describe target = shown := by
    rw [Store.scanOf, target_eq] at described
    exact Option.some.inj described
  refine ⟨?_, ?_, added, migrations.trans kept⟩
  · rw [scans, row]
  · rw [audit, isShown, ← count_eq]
    rfl

theorem receives_of_emit {line : Text} (written : report.line? = some line)
    (ran : reporter.emit report before = .ok () after) :
    after.files = before.files ∧ Receives reporter report line before after := by
  cases reporter with
  | keep =>
    cases ran
    exact ⟨rfl, rfl, rfl⟩
  | print =>
    unfold Reporter.emit at ran
    generalize report.line? = found at written ran
    cases written
    obtain ⟨_, rfl⟩ := Job.print_eq_ok.mp ran
    exact ⟨rfl, rfl, rfl⟩

/-- Written bytes that hold a line are not empty. -/
theorem bytesOf_ne_nil (event : Json) : ScanLog.bytesOf [event] ≠ [] := by
  rw [ScanLog.bytesOf_singleton, Utf8.encode_append]
  exact List.append_ne_nil_of_right_ne_nil _ (List.cons_ne_nil _ _)

/-- Where a line was written, no ledger is opened. -/
theorem ne_of_opens {files made : Files} {logPlace ledgerPlace : Place} {bytes : List UInt8}
    (grown : Files.Grows files made) (written : files.get? logPlace = some (.document bytes))
    (some_ : bytes ≠ []) (opens : Store.Opens made ledgerPlace) : logPlace ≠ ledgerPlace := by
  rintro rfl
  have still := grown.get?_eq_some written
  rcases opens with absent | empty | ⟨content, found⟩
  · rw [still] at absent
    cases absent
  · rw [still] at empty
    cases empty
    exact some_ rfl
  · rw [still] at found
    cases found

/-- The sentence of a report whose numbers can be written. -/
theorem line?_of_isWritable (writable : ScanLog.isWritable report = true) :
    report.line? = some (Numeral.ofInt report.count ++ report.predicate) := by
  rw [ScanLog.isWritable, Bool.and_eq_true] at writable
  exact Report.line?_of_isShort writable.1

/-- The terminator is never counted. -/
theorem count_seen_terminator (text : Text) : (seen text).count terminator = 0 := by
  rw [List.count_eq_zero]
  intro member
  have differs := List.mem_takeWhile_imp member
  exact absurd rfl (of_decide_eq_true differs)

/-! ## The run -/

/-- A run that succeeds is a scan whose report goes to one sink after another. -/
theorem count_eq_ok {scanLog : ScanLog}
    (ran : count [target] text wording ⟨reporter, scanLog, some ledger, profile⟩ scanning
      before = .ok report after) :
    ∃ logged recorded id, report.target = [target] ∧ report.wording = wording ∧
      report.text = seen text ∧ report.count = (seen text).count target ∧
      scanLog.emit report profile before = .ok () logged ∧
      Store.record ledger report profile (some auditAction) logged = .ok id recorded ∧
      reporter.emit report recorded = .ok () after := by
  unfold count at ran
  cases taped : Tape.ofText? text with
  | none => rw [taped] at ran; cases ran
  | some tape =>
    rw [taped] at ran
    obtain ⟨_, logged, ranLog, rest⟩ := bind_eq_ok.mp ran
    obtain ⟨_, recorded, ranLedger, rest⟩ := bind_eq_ok.mp rest
    obtain ⟨_, told, ranReporter, answer⟩ := bind_eq_ok.mp rest
    cases answer
    obtain ⟨id, ranRecord, _⟩ := map_eq_ok.mp ranLedger
    have text_eq : tape.text = seen text := Tape.text_of_ofText? taped
    have count_eq : ((tape.count [target] : Nat) : Int) = (seen text).count target := by
      rw [Tape.count_singleton, text_eq]
    exact ⟨logged, recorded, id, rfl, rfl, text_eq, count_eq, ranLog, ranRecord, ranReporter⟩

/-- **All sinks agree with the scan.** A run with a log and a ledger that succeeds counts the target
in front of the first terminator, and its log, its ledger and its reporter each receive this one
scan. The only conditions are that the log is not written behind a ledger, and that it is none of
the files that the store keeps beside its own. -/
theorem count_delivers
    (noLedger : ∀ place, before.files.locate log = .ok place →
      ∀ content, before.files.get? place ≠ some (.ledger content))
    (apart : ∀ place, before.files.locate log = .ok place →
      ¬ Store.Beside (before.files.spelled ledger) place)
    (ran : count [target] text wording ⟨reporter, ⟨some log⟩, some ledger, profile⟩ scanning
      before = .ok report after) :
    ∃ logPlace ledgerPlace, before.files.locate log = .ok logPlace ∧
      after.files.locate ledger = .ok ledgerPlace ∧ logPlace ≠ ledgerPlace ∧
      Delivered target text wording reporter profile logPlace ledgerPlace before after report := by
  obtain ⟨logged, recorded, id, target_eq, wording_eq, text_eq, count_eq, ranLog, ranLedger,
    ranReporter⟩ := count_eq_ok ran
  -- the log gains the line of an event
  obtain ⟨_, files, one, writable, added, rfl⟩ := ScanLog.emit_eq_ok ranLog
  cases target_eq.symm.trans one
  have tells := ScanLog.tells_event target_eq profile before.now
  generalize ScanLog.event target report profile before.now = event at added tells
  obtain ⟨logPlace, locatedLog, notFolder, rfl⟩ := set_of_append noLedger added
  have notStart := Files.isStart_eq_false notFolder
  have written := Files.get?_set_self before.files
    (.document (documentAt before.files logPlace ++ ScanLog.bytesOf [event])) notStart
  have some_ : documentAt before.files logPlace ++ ScanLog.bytesOf [event] ≠ [] :=
    List.append_ne_nil_of_right_ne_nil _ (bytesOf_ne_nil event)
  -- the ledger gains a row, somewhere else
  obtain ⟨made, ledgerPlace, left, later, folders, file, located, opens, row, yields, _, rfl⟩ :=
    Store.record_ok ranLedger
  have grown := Files.ensureFolders_grows folders
  have isPlace : ledgerPlace = before.files.spelled ledger :=
    (Files.eq_spelled located).trans (Files.spelled_of_here grown.here ledger)
  have different := ne_of_opens grown written some_ opens
  have prior : Store.ledgerAt made ledgerPlace = Store.ledgerAt before.files ledgerPlace := by
    rw [Store.ledgerAt, Store.ledgerAt, grown.get?_of_not_folder opens.not_folder,
      Files.get?_set_of_ne before.files _ notStart different.symm]
  rw [prior] at row
  -- and the log is not beside it
  have logStays : later.get? logPlace = made.get? logPlace := by
    rcases yields.others logPlace different with same | ⟨isBeside, _⟩
    · exact same
    · exact absurd (isPlace ▸ isBeside) (apart logPlace locatedLog)
  -- the reporter receives the report
  have line := line?_of_isWritable writable
  obtain ⟨sameFiles, receives⟩ := receives_of_emit line ranReporter
  refine ⟨logPlace, ledgerPlace, locatedLog, ?_, different, ?_⟩
  · rw [sameFiles]
    exact Files.locate_of_keepsFolders yields.keepsFolders located
  · refine ⟨target_eq, text_eq, count_eq, ?_, ⟨event, tells, ?_, ?_⟩, ⟨left, ?_, ?_⟩,
      ⟨_, line, ?_, receives⟩, ?_⟩
    · rintro rfl
      rw [count_eq, count_seen_terminator]
      rfl
    · exact (Json.only_render event).not_mem (by decide)
    · rw [sameFiles, logStays, grown.get?_eq_some written, ScanLog.bytesOf_singleton]
      rfl
    · rw [sameFiles]
      exact yields.found (Ledger.ne_empty_of_record row)
    · exact records_of_record target_eq text_eq count_eq row
    · rw [count_eq, Report.predicate, wording_eq, target_eq, text_eq]
      simp only [List.append_assoc]
      rfl
    · intro place notLog notLedger
      have untouched := Files.get?_set_of_ne before.files
        (.document (documentAt before.files logPlace ++ ScanLog.bytesOf [event])) notStart notLog
      have elsewhere := Store.Elsewhere.of_grows grown (yields.others place notLedger)
      rw [Store.Elsewhere, untouched] at elsewhere
      rw [sameFiles]
      exact elsewhere

/-- A log with a line in it, and a ledger whose only scan was deleted. -/
def inUse : Workspace where
  files := { entries := [([['l']], .document [0x7B, 0x7D, 0x0A]),
    ([['h']], .ledger ⟨some [⟨1, .last⟩], some ⟨1, []⟩, some ⟨0, []⟩⟩)] }
  now := .last

/-- A run on them delivers what stands in front of the terminator. -/
theorem count_delivers_inUse :
    ∃ report after, count ['d'] ['d', 'a', 'd', '\x00', 'd'] {}
        ⟨.print, ⟨some ⟨[], [['l']]⟩⟩, some ⟨[], [['h']]⟩, some ['p']⟩ scanning inUse =
          .ok report after ∧
      ∃ logPlace ledgerPlace, logPlace ≠ ledgerPlace ∧
        Delivered 'd' ['d', 'a', 'd', '\x00', 'd'] {} .print (some ['p']) logPlace ledgerPlace inUse
          after report := by
  have succeeds : (match count ['d'] ['d', 'a', 'd', '\x00', 'd'] {}
      ⟨.print, ⟨some ⟨[], [['l']]⟩⟩, some ⟨[], [['h']]⟩, some ['p']⟩ scanning inUse with
      | .ok _ _ => true
      | .error _ _ => false) = true := by decide +kernel
  split at succeeds
  case h_2 => cases succeeds
  case h_1 report after ran =>
    have located (place : Place) (there : inUse.files.locate ⟨[], [['l']]⟩ = .ok place) :
        place = ([['l']] : Place) := (Except.ok.inj there).symm
    have noLedger (place : Place) (there : inUse.files.locate ⟨[], [['l']]⟩ = .ok place)
        (content : Ledger) : inUse.files.get? place ≠ some (.ledger content) := by
      rw [located place there]
      exact nofun
    have apart (place : Place) (there : inUse.files.locate ⟨[], [['l']]⟩ = .ok place) :
        ¬ Store.Beside (inUse.files.spelled ⟨[], [['h']]⟩) place := by
      rw [located place there]
      decide
    obtain ⟨logPlace, ledgerPlace, _, _, differs, delivered⟩ := count_delivers noLedger apart ran
    exact ⟨report, after, ran, logPlace, ledgerPlace, differs, delivered⟩

/-- A log that is the journal of a ledger, and holds a line. -/
def besideLedger : Workspace where
  files := { entries := [([("h-journal" : Text)], .document [0x7B, 0x7D, 0x0A])] }
  now := .last

/-- A run with this log and the ledger succeeds: its scan is counted and recorded, but neither its
event is in the log nor the line that was there, as the log is gone. -/
theorem log_lost_beside_ledger :
    ∃ report after, count ['d'] ['d', 'a', 'd'] {}
        ⟨.keep, ⟨some ⟨[], [("h-journal" : Text)]⟩⟩, some ⟨[], [['h']]⟩, none⟩ scanning
          besideLedger = .ok report after ∧
      report.count = 2 ∧
      (Store.ledgerAt after.files [['h']]).scans =
        some ⟨1, [(1, ⟨['d'], ['d', 'a', 'd'], 2, none, Instant.last.stored⟩)]⟩ ∧
      besideLedger.files.get? [("h-journal" : Text)] = some (.document [0x7B, 0x7D, 0x0A]) ∧
      after.files.get? [("h-journal" : Text)] = none := by
  have lost : (match count ['d'] ['d', 'a', 'd'] {}
      ⟨.keep, ⟨some ⟨[], [("h-journal" : Text)]⟩⟩, some ⟨[], [['h']]⟩, none⟩ scanning
        besideLedger with
      | .ok report after => decide (report.count = 2 ∧
          (Store.ledgerAt after.files [['h']]).scans =
            some ⟨1, [(1, ⟨['d'], ['d', 'a', 'd'], 2, none, Instant.last.stored⟩)]⟩ ∧
          after.files.get? [("h-journal" : Text)] = none)
      | .error _ _ => false) = true := by decide +kernel
  split at lost
  case h_2 => cases lost
  case h_1 report after ran =>
    obtain ⟨counted, recorded, gone⟩ := of_decide_eq_true lost
    exact ⟨report, after, ran, counted, recorded, rfl, gone⟩

end CharTally.Run
