import CharTally.Tape
import CharTally.Text.Numeral

/-!
The report of a finished scan, and the one sentence that tells it.
-/

namespace CharTally

/-- The two pieces of the sentence that stand around the target. -/
structure Wording where
  beforeTarget : Text := " occurrences of the letter '"
  afterTarget : Text := "' in the string "
deriving DecidableEq, Repr

/-- What a scan found, with the words to tell it. -/
structure Report where
  target : Text
  tape : Tape
  count : Int
  wording : Wording := {}
deriving DecidableEq, Repr

namespace Report

/-- The text that was scanned, up to the first terminator. -/
def text (report : Report) : Text := report.tape.text

/-- The sentence behind the count: words, target, words, text. -/
def predicate (report : Report) : Text :=
  report.wording.beforeTarget ++ report.target ++ report.wording.afterTarget ++ report.text

/-- The sentence of a report, unless its count is too long to be written. -/
def line? (report : Report) : Option Text :=
  (Numeral.text? report.count).map (· ++ report.predicate)

theorem line?_of_isShort {report : Report} (short : Numeral.isShort report.count = true) :
    report.line? = some (Numeral.ofInt report.count ++ report.predicate) := by
  rw [line?, Numeral.text?, if_pos short]
  rfl

theorem line?_of_not_isShort {report : Report} (long : Numeral.isShort report.count = false) :
    report.line? = none := by
  rw [line?, Numeral.text?, if_neg (ne_true_of_eq_false long)]
  rfl

end Report

end CharTally
