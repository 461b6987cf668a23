import CharTally.Ledger.Store
import CharTally.ScanLog
import CharTally.Settings.Load

/-!
A run: one scan, and everything that is done with what it found.

The scan is finished before anything is written. Then its report goes to the
scan log, to the ledger and to the reporter, in this order, and the first that
fails ends the run.
-/

namespace CharTally

/-- Where the report of a run goes. -/
structure Sinks where
  reporter : Reporter
  log : ScanLog := ⟨none⟩
  ledger : Option FilePath := none
  profile : Option Text := none
deriving DecidableEq, Repr

namespace Run

/-- A way to count a target on a tape. -/
abbrev Counter := Text → Tape → Int

/-- The scan of the tape. -/
def scanning : Counter := fun target tape => tape.count target

/-- What the audit trail calls a run. -/
def auditAction : Text := "count"

/-- Counts a target in a text and reports it. -/
def count (target text : Text) (wording : Wording) (sinks : Sinks)
    (counter : Counter := scanning) : Job Report := do
  match Tape.ofText? text with
  | none => throw (.reported (.notAscii text))
  | some tape =>
    let report : Report := ⟨target, tape, counter target tape, wording⟩
    sinks.log.emit report sinks.profile
    match sinks.ledger with
    | none => pure ()
    | some path => discard (Store.record path report sinks.profile (some auditAction))
    sinks.reporter.emit report
    return report

/-- Counts what a profile says to count, in the text that it says. -/
def profile (name : Text) (source : Settings.Source) (sinks : Sinks) : Job Report := do
  let runtime ← Job.ofExcept (Settings.loadRuntime (← get).files source (some name))
  count [runtime.profile.target] runtime.profile.text runtime.wording
    { sinks with profile := some name }

end Run

end CharTally
