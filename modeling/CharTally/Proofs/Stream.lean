import CharTally.Proofs.Session
import CharTally.Proofs.Text.Lines
import CharTally.Proofs.Text.Utf8
import CharTally.Workspace

/-!
# Printing

A line is printed if the stream takes its text and then its end (`Stream.Takes`), and
it stands behind what was printed before. Otherwise the stream refuses one of the two;
its text may have been printed by then, but no end behind it. A stream in memory takes
all lines, one that is encoded takes those that have bytes. No job changes what comes
from outside, the stream and the folder in which relative paths start (`Framed`).
-/

namespace CharTally

namespace Stream

/-- In view of what it took, the stream takes a line: its text, and then its end. -/
def Takes (stream : Stream) (taken line : Text) : Prop :=
  stream.refusal? taken line = none ∧ stream.refusal? (taken ++ line) "\n" = none

/-- The stream takes lines, one behind the other. -/
def TakesAll (stream : Stream) : Text → List Text → Prop
  | _, [] => True
  | taken, line :: rest =>
    stream.Takes taken line ∧ stream.TakesAll (taken ++ (line ++ "\n")) rest

/-- The stream refuses a text of its own accord, with a crash. -/
def Refuses (stream : Stream) (crash : Crash) : Prop :=
  ∃ taken next, stream.refusal? taken next = some crash

theorem takes_of_memory (taken line : Text) : ({} : Stream).Takes taken line := ⟨rfl, rfl⟩

/-- A stream in memory takes all lines. -/
theorem TakesAll.of_memory (taken : Text) (lines : List Text) :
    ({} : Stream).TakesAll taken lines := by
  induction lines generalizing taken with
  | nil => trivial
  | cons line rest ih => exact ⟨takes_of_memory taken line, ih _⟩

theorem takesAll_singleton {stream : Stream} {taken line : Text} :
    stream.TakesAll taken [line] ↔ stream.Takes taken line := and_iff_left trivial

end Stream

namespace Job

variable {before after : Workspace} {line : Text} {failure : Failure}

theorem write_eq_ok {t : Text} : write t before = .ok () after ↔
    before.stream.refusal? before.printed t = none ∧
      after = { before with printed := before.printed ++ t } := by
  rw [write]
  cases before.stream.refusal? before.printed t with
  | none => simp [eq_comm]
  | some crash => simp

theorem write_eq_error {t : Text} : write t before = .error failure after ↔
    ∃ crash, before.stream.refusal? before.printed t = some crash ∧ failure = .crash crash ∧
      after = before := by
  rw [write]
  cases before.stream.refusal? before.printed t with
  | none => simp
  | some crash => simp [eq_comm]

/-- A line is printed if the stream takes it. -/
theorem print_eq_ok : print line before = .ok () after ↔
    before.stream.Takes before.printed line ∧
      after = { before with printed := before.printed ++ (line ++ "\n") } := by
  rw [print, bind_eq_ok, ← List.append_assoc]
  constructor
  · rintro ⟨_, _, ranLine, ranEnd⟩
    obtain ⟨taken, rfl⟩ := write_eq_ok.mp ranLine
    obtain ⟨ended, rfl⟩ := write_eq_ok.mp ranEnd
    exact ⟨⟨taken, ended⟩, rfl⟩
  · rintro ⟨⟨taken, ended⟩, rfl⟩
    exact ⟨(), _, write_eq_ok.mpr ⟨taken, rfl⟩, write_eq_ok.mpr ⟨ended, rfl⟩⟩

/-- A line is refused whole, or its end is. -/
theorem print_eq_error (failed : print line before = .error failure after) :
    ∃ crash, before.stream.Refuses crash ∧ failure = .crash crash ∧
      (after = before ∨ after = { before with printed := before.printed ++ line }) := by
  rw [print] at failed
  rcases bind_eq_error.mp failed with refused | ⟨_, _, ranLine, refused⟩
  · obtain ⟨crash, refuses, rfl, rfl⟩ := write_eq_error.mp refused
    exact ⟨crash, ⟨_, _, refuses⟩, rfl, Or.inl rfl⟩
  · obtain ⟨_, rfl⟩ := write_eq_ok.mp ranLine
    obtain ⟨crash, refuses, rfl, rfl⟩ := write_eq_error.mp refused
    exact ⟨crash, ⟨_, _, refuses⟩, rfl, Or.inr rfl⟩

/-- Whether or not it fails, printing changes only what is printed. -/
theorem leftBy_print (line : Text) (before : Workspace) :
    ∃ printed, leftBy (print line) before = { before with printed } := by
  cases ran : print line before with
  | ok _ after =>
    rw [leftBy_of_ok ran, (print_eq_ok.mp ran).2]
    exact ⟨_, rfl⟩
  | error failure after =>
    rw [leftBy_of_error ran]
    obtain ⟨_, _, _, rfl | rfl⟩ := print_eq_error ran
    · exact ⟨_, rfl⟩
    · exact ⟨_, rfl⟩

/-! ## Lines -/

/-- Prints lines, one behind the other. -/
def printAll (lines : List Text) : Job Unit := lines.forM print

theorem printAll_cons (line : Text) (rest : List Text) :
    printAll (line :: rest) = (do print line; printAll rest) := rfl

theorem printAll_singleton (line : Text) : printAll [line] = print line := by
  funext before
  change (print line >>= fun _ => pure ()) before = _
  cases ran : print line before with
  | ok _ after => exact bind_eq_ok.mpr ⟨(), after, ran, rfl⟩
  | error failure after => exact bind_eq_error.mpr (Or.inl ran)

/-- Lines are printed if the stream takes them. -/
theorem printAll_eq_ok {lines : List Text} : printAll lines before = .ok () after ↔
    before.stream.TakesAll before.printed lines ∧
      after = { before with printed := before.printed ++ Text.written lines } := by
  induction lines generalizing before with
  | nil =>
    rw [Text.written, List.flatMap_nil, List.append_nil]
    exact ⟨fun ran => by cases ran; exact ⟨trivial, rfl⟩, by rintro ⟨_, rfl⟩; rfl⟩
  | cons line rest ih =>
    rw [printAll_cons, bind_eq_ok, Text.written, List.flatMap_cons, ← Text.written,
      ← List.append_assoc]
    constructor
    · rintro ⟨_, _, ranLine, ranRest⟩
      obtain ⟨takes, rfl⟩ := print_eq_ok.mp ranLine
      obtain ⟨takesRest, rfl⟩ := ih.mp ranRest
      exact ⟨⟨takes, takesRest⟩, rfl⟩
    · rintro ⟨⟨takes, takesRest⟩, rfl⟩
      exact ⟨(), _, print_eq_ok.mpr ⟨takes, rfl⟩, ih.mpr ⟨takesRest, rfl⟩⟩

/-- The stream refuses one of the lines; some may have been printed by then. -/
theorem printAll_eq_error {lines : List Text}
    (failed : printAll lines before = .error failure after) :
    ∃ crash printed, before.stream.Refuses crash ∧ failure = .crash crash ∧
      after = { before with printed } := by
  induction lines generalizing before with
  | nil => cases failed
  | cons line rest ih =>
    rw [printAll_cons] at failed
    rcases bind_eq_error.mp failed with refused | ⟨_, _, ranLine, refused⟩
    · obtain ⟨crash, refuses, rfl, rfl | rfl⟩ := print_eq_error refused
      · exact ⟨crash, _, refuses, rfl, rfl⟩
      · exact ⟨crash, _, refuses, rfl, rfl⟩
    · obtain ⟨_, rfl⟩ := print_eq_ok.mp ranLine
      obtain ⟨crash, printed, refuses, rfl, rfl⟩ := ih refused
      exact ⟨crash, printed, refuses, rfl, rfl⟩

end Job

/-! ## What comes from outside -/

/-- Relative paths start where they start in another workspace, and texts are printed on its
stream. -/
structure Workspace.Framed (start workspace : Workspace) : Prop where
  here : workspace.files.here = start.files.here
  stream : workspace.stream = start.stream

namespace Job

variable {start before after : Workspace}

/-- A job that changes entries at most leaves what comes from outside. -/
theorem framed_of_files {α : Type} {job : Job α}
    (left : ∀ before, ∃ files, leftBy job before = { before with files } ∧
      files.here = before.files.here) : job.Keeps start.Framed := by
  intro before framed
  obtain ⟨files, changed, here⟩ := left before
  rw [changed]
  exact ⟨here.trans framed.here, framed.stream⟩

theorem framed_print (line : Text) : (print line).Keeps start.Framed := by
  intro before framed
  obtain ⟨printed, left⟩ := leftBy_print line before
  rw [left]
  exact ⟨framed.here, framed.stream⟩

end Job

end CharTally
