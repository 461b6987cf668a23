import CharTally.Failure
import CharTally.Report

/-!
The workspace of a job: the files it can reach, the time it reads, and what it
has reported.

A `Job` may fail, and leaves a workspace either way, so that what it did before
it failed can be seen. Finished scans go to a `Reporter`, which keeps them or
prints their sentences.

Texts are printed on a `Stream`, which comes from outside: one in memory takes them
all, one that is encoded refuses those for which it has no bytes, and one that is
closed refuses every text. What is refused leaves nothing on the stream; streams that
fail when half of a text is written are not here.
-/

namespace CharTally

/-! ## Streams -/

/-- What texts are printed on. In view of what it took, it may refuse the next text. -/
structure Stream where
  refusal? : (taken next : Text) → Option Crash := fun _ _ => none

/-- A stream that is encoded in UTF-8. -/
def Stream.utf8 : Stream where
  refusal? _ next := (Utf8.unencodable? next).map .unencodable

/-! ## Jobs -/

/-- Everything that a job can read or change. -/
structure Workspace where
  files : Files
  now : Instant
  reports : List Report := []
  printed : Text := []
  stream : Stream := {}

/-- Work in a workspace. -/
abbrev Job (α : Type) := EStateM Failure Workspace α

namespace Job

/-- A job that only computes. -/
def ofExcept {α : Type} : Except Failure α → Job α
  | .ok value => pure value
  | .error failure => throw failure

/-- A job that works on the files alone. -/
def onFiles {ε α : Type} (work : EStateM ε Files α) (failure : ε → Failure) : Job α :=
  fun workspace =>
    match work workspace.files with
    | .ok value files => .ok value { workspace with files }
    | .error fault files => .error (failure fault) { workspace with files }

/-- Writes a text on the stream. -/
def write (t : Text) : Job Unit := fun workspace =>
  match workspace.stream.refusal? workspace.printed t with
  | some crash => .error (.crash crash) workspace
  | none => .ok () { workspace with printed := workspace.printed ++ t }

/-- Prints a line. Its end is written by itself. -/
def print (line : Text) : Job Unit := do
  write line
  write "\n"

end Job

/-! ## Reporters -/

/-- Where finished scans are reported. -/
inductive Reporter where
  | keep
  | print
deriving DecidableEq, Repr

/-- Reports a finished scan. -/
def Reporter.emit (report : Report) : Reporter → Job Unit
  | .keep => modify fun workspace => { workspace with reports := workspace.reports ++ [report] }
  | .print =>
    match report.line? with
    | some line => Job.print line
    | none => throw (.crash .integerTooLong)

/-- The sentences of reports. -/
def linesOf : List Report → Except Failure (List Text)
  | [] => .ok []
  | report :: rest =>
    match report.line?, linesOf rest with
    | some line, .ok lines => .ok (line :: lines)
    | _, _ => .error (.crash .integerTooLong)

/-- The sentences of the reports that are kept. -/
def Workspace.lines (workspace : Workspace) : Except Failure (List Text) :=
  linesOf workspace.reports

end CharTally
