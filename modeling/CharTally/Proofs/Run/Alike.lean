import CharTally.Proofs.Ledger.Store
import CharTally.Proofs.Run
import CharTally.Proofs.ScanLog
import CharTally.Proofs.Tape
import Mathlib.Data.List.Forall2

/-!
# What stands behind the terminator

A tape keeps what stands behind its first terminator, and nothing that is done with
it depends on that. Two reports are alike when they differ in their buffers at most,
and two workspaces when they differ in the buffers of the reports that were kept.
`Job.Alike` compares two jobs from alike workspaces on: they fail alike, or they give
alike values, and the workspaces they leave are alike again. It goes through a
sequence of jobs step by step (`Job.Alike.bind`), so a run on two texts that agree up
to their first terminators is compared sink by sink (`count_ignores_tail`).
-/

namespace CharTally

/-! ## Alike reports and workspaces -/

/-- Two reports tell the same; their tapes may differ behind the first terminator. -/
structure Report.Alike (first second : Report) : Prop where
  target : first.target = second.target
  text : first.text = second.text
  count : first.count = second.count
  wording : first.wording = second.wording

theorem Report.Alike.refl (report : Report) : report.Alike report := ⟨rfl, rfl, rfl, rfl⟩

/-- Alike reports have one sentence. -/
theorem Report.Alike.line? {first second : Report} (alike : first.Alike second) :
    first.line? = second.line? := by
  rw [Report.line?, Report.line?, predicate, predicate, alike.count, alike.wording, alike.target,
    alike.text]

/-- Two workspaces hold the same files and show the same on the same stream, and the reports that
were kept in them are alike. -/
structure Workspace.Alike (left right : Workspace) : Prop where
  files : left.files = right.files
  now : left.now = right.now
  printed : left.printed = right.printed
  stream : left.stream = right.stream
  reports : List.Forall₂ Report.Alike left.reports right.reports

theorem Workspace.Alike.refl (workspace : Workspace) : workspace.Alike workspace :=
  ⟨rfl, rfl, rfl, rfl, List.forall₂_same.mpr fun report _ => .refl report⟩

/-- Files that are replaced alike stay alike. -/
theorem Workspace.Alike.withFiles {left right : Workspace} (alike : left.Alike right)
    (files : Files) : ({ left with files } : Workspace).Alike { right with files } :=
  ⟨rfl, alike.now, alike.printed, alike.stream, alike.reports⟩

/-! ## Alike jobs -/

variable {α β : Type} {same : α → α → Prop} {more : β → β → Prop}

/-- Two results are the same failure or values of the same kind, in alike workspaces. -/
inductive SameResult (same : α → α → Prop) :
    EStateM.Result Failure Workspace α → EStateM.Result Failure Workspace α → Prop
  | ok {value other : α} {left right : Workspace} (values : same value other)
      (alike : left.Alike right) : SameResult same (.ok value left) (.ok other right)
  | error {left right : Workspace} (failure : Failure) (alike : left.Alike right) :
      SameResult same (.error failure left) (.error failure right)

/-- From alike workspaces on, two jobs have the same results. -/
def Job.Alike (same : α → α → Prop) (first second : Job α) : Prop :=
  ∀ left right, left.Alike right → SameResult same (first left) (second right)

namespace Job.Alike

theorem pure {value other : α} (values : same value other) :
    Job.Alike same (Pure.pure value) (Pure.pure other) :=
  fun _ _ alike => .ok values alike

theorem throw (failure : Failure) :
    Job.Alike same (MonadExcept.throw failure) (MonadExcept.throw failure) :=
  fun _ _ alike => .error failure alike

theorem get : Job.Alike Workspace.Alike MonadState.get MonadState.get :=
  fun _ _ alike => .ok alike alike

theorem bind {first first' : Job α} {second second' : α → Job β}
    (begins : Job.Alike same first first')
    (goesOn : ∀ value other, same value other → Job.Alike more (second value) (second' other)) :
    Job.Alike more (first >>= second) (first' >>= second') := by
  intro left right alike
  have ran := begins left right alike
  change SameResult more (EStateM.bind first second left) (EStateM.bind first' second' right)
  unfold EStateM.bind
  generalize first left = result at ran ⊢
  generalize first' right = result' at ran ⊢
  cases ran with
  | ok values alike => exact goesOn _ _ values _ _ alike
  | error failure alike => exact .error failure alike

theorem discard {first second : Job α} (alike : Job.Alike same first second) :
    Job.Alike Eq (Functor.discard first) (Functor.discard second) := by
  intro left right alikeBefore
  have ran := alike left right alikeBefore
  change SameResult Eq (EStateM.map (fun _ => ()) first left)
    (EStateM.map (fun _ => ()) second right)
  unfold EStateM.map
  generalize first left = result at ran ⊢
  generalize second right = result' at ran ⊢
  cases ran with
  | ok values alike => exact .ok rfl alike
  | error failure alike => exact .error failure alike

/-- Work on the files does not see the reports. -/
theorem onFiles {ε : Type} (work : EStateM ε Files α) (failure : ε → Failure) :
    Job.Alike Eq (Job.onFiles work failure) (Job.onFiles work failure) := by
  intro left right alike
  unfold Job.onFiles
  rw [alike.files]
  cases work right.files with
  | ok value files => exact .ok rfl (alike.withFiles files)
  | error fault files => exact .error (failure fault) (alike.withFiles files)

/-- What is printed depends on the stream and on what was printed. -/
theorem write (t : Text) : Job.Alike Eq (Job.write t) (Job.write t) := by
  intro left right alike
  unfold Job.write
  rw [alike.stream, alike.printed]
  cases right.stream.refusal? right.printed t with
  | none => exact .ok rfl ⟨alike.files, alike.now, rfl, rfl, alike.reports⟩
  | some crash => exact .error _ alike

theorem print (line : Text) : Job.Alike Eq (Job.print line) (Job.print line) :=
  .bind (write line) fun _ _ _ => write _

end Job.Alike

/-! ## The sinks, one by one -/

section Sinks

variable {first second : Report}

namespace ScanLog

theorem isWritable_of_alike (alike : first.Alike second) :
    isWritable first = isWritable second := by
  rw [isWritable, isWritable, Tape.length, Tape.length, alike.count,
    show first.tape.text = second.tape.text from alike.text]

theorem event_of_alike (alike : first.Alike second) (target : CodePoint) (profile : Option Text)
    (now : Instant) : event target first profile now = event target second profile now := by
  rw [event, event, Tape.length, Tape.length, alike.target, alike.text, alike.count,
    show first.tape.text = second.tape.text from alike.text]

/-- Alike reports are written as one line. -/
theorem emit_of_alike (alike : first.Alike second) (log : ScanLog) (profile : Option Text)
    (before : Workspace) : log.emit first profile before = log.emit second profile before := by
  rcases log with ⟨_ | path⟩
  · rfl
  · by_cases single : ∃ target, first.target = [target]
    · rcases single with ⟨target, one⟩
      have line := event_of_alike alike target profile
      rw [emit_of_one one, emit_of_one (alike.target.symm.trans one), isWritable_of_alike alike]
      simp only [line]
    · have many (target : CodePoint) : first.target ≠ [target] := fun one => single ⟨target, one⟩
      rw [emit_of_not_one many, emit_of_not_one (alike.target ▸ many), alike.target]

theorem append_alike (path : FilePath) (more : Text) :
    Job.Alike Eq (append path more) (append path more) := by
  intro left right alike
  rw [append_eq, append_eq, alike.files]
  cases right.files.append path (Utf8.encode more) with
  | ok files => exact .ok rfl (alike.withFiles files)
  | error fault => cases fault <;> exact .error _ alike

theorem emit_alike (alike : first.Alike second) (log : ScanLog) (profile : Option Text) :
    Job.Alike Eq (log.emit first profile) (log.emit second profile) := by
  intro left right alikeBefore
  rw [emit_of_alike alike]
  revert left right
  rcases log with ⟨_ | path⟩
  · exact Job.Alike.pure rfl
  · by_cases single : ∃ target, second.target = [target]
    · rcases single with ⟨target, one⟩
      rw [emit_of_one one]
      split
      · apply Job.Alike.bind .get
        intro workspace other sameTime
        rw [sameTime.now]
        exact append_alike path _
      · exact Job.Alike.bind (append_alike path []) fun _ _ _ => .throw _
    · have many (target : CodePoint) : second.target ≠ [target] := fun one => single ⟨target, one⟩
      intro left right alikeBefore
      rw [emit_of_not_one many, emit_of_not_one many]
      exact .error _ alikeBefore

end ScanLog

namespace Store

theorem onLedger_alike (path : FilePath) (action : LedgerAction) (step : Ledger.Step α) :
    Job.Alike Eq (onLedger path action step) (onLedger path action step) := by
  intro left right alike
  unfold onLedger
  rw [alike.files]
  split
  · exact Job.Alike.onFiles _ _ left right alike
  · cases placeOf right.files path action with
    | error failure => exact .error failure alike
    | ok place => exact Job.Alike.onFiles _ _ left right alike

theorem setUp_alike (path : FilePath) : Job.Alike Eq (setUp path) (setUp path) := by
  apply Job.Alike.bind (.onFiles _ _)
  intro _ _ _
  apply Job.Alike.bind .get
  intro workspace other sameTime
  rw [sameTime.now]
  exact onLedger_alike path .setUp _

/-- Alike reports are recorded as one row and one line of the audit trail. -/
theorem record_of_alike (alike : first.Alike second) (path : FilePath)
    (profile action : Option Text) :
    record path first profile action = record path second profile action := by
  rw [record, record, alike.target, alike.text, alike.count]

theorem record_alike (alike : first.Alike second) (path : FilePath)
    (profile action : Option Text) :
    Job.Alike Eq (record path first profile action) (record path second profile action) := by
  rw [record_of_alike alike]
  apply Job.Alike.bind (setUp_alike path)
  intro _ _ _
  apply Job.Alike.bind .get
  intro workspace other sameTime
  rw [sameTime.now]
  exact onLedger_alike path .recordScan _

end Store

/-- A reporter that is told alike reports shows the same. -/
theorem Reporter.emit_alike (reporter : Reporter) (alike : first.Alike second) :
    Job.Alike Eq (reporter.emit first) (reporter.emit second) := by
  cases reporter with
  | keep =>
    intro left right alikeBefore
    exact .ok rfl ⟨alikeBefore.files, alikeBefore.now, alikeBefore.printed, alikeBefore.stream,
      List.rel_append alikeBefore.reports (.cons alike .nil)⟩
  | print =>
    unfold Reporter.emit
    simp only [alike.line?]
    cases second.line? with
    | none => exact .throw _
    | some line => exact .print line

end Sinks

/-! ## The run -/

namespace Run

/-- Tapes with one text have one count of every target. -/
theorem count_of_text_eq {tape other : Tape} (agree : tape.text = other.text) (target : Text) :
    tape.count target = other.count target := by
  rw [Tape.count_eq, Tape.count_eq, agree]

/-- Sinks that are given alike reports gain the same. -/
theorem delivered_alike {report report' : Report} (same : report.Alike report') (sinks : Sinks) :
    Job.Alike (fun report other => report.Alike other ∧ report.line? = other.line?)
      (do
        sinks.log.emit report sinks.profile
        match sinks.ledger with
        | none => pure ()
        | some path => discard (Store.record path report sinks.profile (some auditAction))
        sinks.reporter.emit report
        return report : Job Report)
      (do
        sinks.log.emit report' sinks.profile
        match sinks.ledger with
        | none => pure ()
        | some path => discard (Store.record path report' sinks.profile (some auditAction))
        sinks.reporter.emit report'
        return report' : Job Report) := by
  apply Job.Alike.bind (ScanLog.emit_alike same _ _)
  intro _ _ _
  have told : Job.Alike (fun report other => report.Alike other ∧ report.line? = other.line?)
      (do sinks.reporter.emit report; return report : Job Report)
      (do sinks.reporter.emit report'; return report' : Job Report) :=
    .bind (Reporter.emit_alike _ same) fun _ _ _ => .pure ⟨same, same.line?⟩
  cases sinks.ledger with
  | none => exact told
  | some path => exact .bind (.discard (Store.record_alike same path _ _)) fun _ _ _ => told

/-- **Nothing behind the terminator is observable.** Runs on two ASCII texts that agree up to their
first terminators, from alike workspaces on, fail alike, or return alike reports with one sentence.
What they print and the files they leave are the same, the log and the ledger among them, and the
reports that are kept are alike. The same is seen on two tapes that agree up to their first
terminators by each that looks at a tape: the scan, the sentence, the log and the ledger. -/
theorem count_ignores_tail {first second : Text} (asciiFirst : first.isAscii = true)
    (asciiSecond : second.isAscii = true) (agree : seen first = seen second) (target : Text)
    (wording : Wording) (sinks : Sinks) {left right : Workspace} (alike : left.Alike right) :
    SameResult (fun report other => report.Alike other ∧ report.line? = other.line?)
        (count target first wording sinks scanning left)
        (count target second wording sinks scanning right) ∧
      ∀ tape other : Tape, tape.text = other.text →
        (∀ target, tape.count target = other.count target) ∧
          ∀ target number wording,
            let report : Report := ⟨target, tape, number, wording⟩
            let report' : Report := ⟨target, other, number, wording⟩
            report.line? = report'.line? ∧
              (∀ (log : ScanLog) profile before,
                log.emit report profile before = log.emit report' profile before) ∧
              ∀ path profile action before,
                Store.record path report profile action before =
                  Store.record path report' profile action before := by
  constructor
  · have text_eq :
        (⟨first ++ [terminator]⟩ : Tape).text = (⟨second ++ [terminator]⟩ : Tape).text := by
      rw [Tape.text_concat, Tape.text_concat]
      exact agree
    have same : Report.Alike
        ⟨target, ⟨first ++ [terminator]⟩, scanning target ⟨first ++ [terminator]⟩, wording⟩
        ⟨target, ⟨second ++ [terminator]⟩, scanning target ⟨second ++ [terminator]⟩, wording⟩ :=
      ⟨rfl, text_eq, congrArg Int.ofNat (count_of_text_eq text_eq target), rfl⟩
    unfold count
    rw [Tape.ofText?_of_isAscii asciiFirst, Tape.ofText?_of_isAscii asciiSecond]
    dsimp only
    generalize (⟨target, ⟨first ++ [terminator]⟩, scanning target ⟨first ++ [terminator]⟩,
      wording⟩ : Report) = report at same ⊢
    generalize (⟨target, ⟨second ++ [terminator]⟩, scanning target ⟨second ++ [terminator]⟩,
      wording⟩ : Report) = report' at same ⊢
    exact delivered_alike same sinks left right alike
  · intro tape other agree
    refine ⟨count_of_text_eq agree, fun target number wording => ?_⟩
    have same : Report.Alike ⟨target, tape, number, wording⟩ ⟨target, other, number, wording⟩ :=
      ⟨rfl, agree, rfl, rfl⟩
    refine ⟨same.line?, ScanLog.emit_of_alike same, fun path profile action before => ?_⟩
    rw [Store.record_of_alike same]

/-- A text whose terminator hides two letters, and one that hides none. -/
def longAndShort : Text × Text := (['d', 'a', 'd', '\x00', 'd', 'd'], ['d', 'a', 'd'])

/-- The tape and the files that a run leaves, if it succeeds. -/
def tapeAndFiles? : EStateM.Result Failure Workspace Report → Option (Tape × Files)
  | .ok report after => some (report.tape, after.files)
  | .error _ _ => none

/-- Into a log and a ledger in use, both are told as the same scan, although their tapes differ. -/
theorem count_ignores_tail_of_two :
    let sinks : Sinks := ⟨.keep, ⟨some ⟨[], [['l']]⟩⟩, some ⟨[], [['h']]⟩, some ['p']⟩
    ∃ report other after after',
      count ['d'] longAndShort.1 {} sinks scanning inUse = .ok report after ∧
        count ['d'] longAndShort.2 {} sinks scanning inUse = .ok other after' ∧
        report.tape ≠ other.tape ∧ report.Alike other ∧ after.Alike after' ∧
        after.files ≠ inUse.files := by
  intro sinks
  have tapes : (tapeAndFiles? (count ['d'] longAndShort.1 {} sinks scanning inUse)).map (·.1) ≠
      (tapeAndFiles? (count ['d'] longAndShort.2 {} sinks scanning inUse)).map (·.1) := by
    decide +kernel
  have written : (tapeAndFiles? (count ['d'] longAndShort.1 {} sinks scanning inUse)).map (·.2) ≠
      some inUse.files := by
    decide +kernel
  have asciiFirst : longAndShort.1.isAscii = true := by decide
  have asciiSecond : longAndShort.2.isAscii = true := by decide
  have agree : seen longAndShort.1 = seen longAndShort.2 := by decide
  have same := (count_ignores_tail asciiFirst asciiSecond agree ['d'] {} sinks (.refl inUse)).1
  generalize count ['d'] longAndShort.1 {} sinks scanning inUse = result at tapes written same ⊢
  generalize count ['d'] longAndShort.2 {} sinks scanning inUse = result' at tapes same ⊢
  cases same with
  | ok values alike =>
    exact ⟨_, _, _, _, rfl, rfl, fun same => tapes (congrArg some same), values.1, alike,
      fun same => written (congrArg some same)⟩
  | error failure alike => exact absurd rfl tapes

end Run

end CharTally
