import CharTally.Proofs.Text.Boundary
import CharTally.Report

/-!
# What the line of a report tells

The line of a report is its count, words, its target, other words and its text, with nothing between
them. In words that do not begin with a digit the count ends where the words begin, and behind it
only the text has no length of its own; so two reports in the same words have the same line only if
they tell the same (`line_determines_report`).
-/

namespace CharTally.Report

variable {wording : Wording} {first second : Report}

/-- A report in certain words, about one character, whose count can be written. -/
structure IsTold (wording : Wording) (report : Report) : Prop where
  words : report.wording = wording
  one : report.target.length = 1
  short : Numeral.isShort report.count = true

/-- Behind the count, two reports in the same words that are about equally many characters say the
same only if they are about the same target and the same text. -/
theorem predicate_inj (words : first.wording = second.wording)
    (width : first.target.length = second.target.length) :
    first.predicate = second.predicate ↔
      first.target = second.target ∧ first.text = second.text := by
  rw [predicate, predicate, words]
  constructor
  · intro same
    simp only [List.append_assoc, List.append_cancel_left_eq] at same
    obtain ⟨target, behind⟩ := List.append_inj same width
    exact ⟨target, List.append_cancel_left behind⟩
  · rintro ⟨target, text⟩
    rw [target, text]

/-- What stands behind the count begins as the words do. -/
theorem head?_predicate {report : Report} {lead : CodePoint}
    (begins : report.wording.beforeTarget.head? = some lead) :
    report.predicate.head? = some lead := by
  simp [predicate, begins]

/-- **The line of a report determines what it tells.** In words that begin with something other than
a digit, whatever they go on with and whatever the words behind the target are, a report about one
character has a line if its count is short enough, and two such reports have the same line exactly
if they have the same count, the same target and the same text. -/
theorem line_determines_report
    (apart : ∃ lead, wording.beforeTarget.head? = some lead ∧ lead.isDigit = false)
    (firstTold : first.IsTold wording) (secondTold : second.IsTold wording) :
    first.line?.isSome = true ∧
      (first.line? = second.line? ↔
        first.count = second.count ∧ first.target = second.target ∧ first.text = second.text) := by
  obtain ⟨lead, begins, noDigit⟩ := apart
  have words : first.wording = second.wording := firstTold.words.trans secondTold.words.symm
  have width : first.target.length = second.target.length :=
    firstTold.one.trans secondTold.one.symm
  have stops {report : Report} (told : report.IsTold wording) :
      ∀ c ∈ report.predicate.head?, c.isDigit = false := by
    have head : report.predicate.head? = some lead := head?_predicate (by rw [told.words, begins])
    intro c isHead
    rw [head] at isHead
    rw [← Option.some.inj isHead]
    exact noDigit
  rw [line?_of_isShort firstTold.short, line?_of_isShort secondTold.short, Option.some.injEq]
  refine ⟨rfl, ?_⟩
  constructor
  · intro same
    obtain ⟨count, behind⟩ := Numeral.ofInt_append_inj (stops firstTold) (stops secondTold) same
    exact ⟨count, (predicate_inj words width).mp behind⟩
  · rintro ⟨count, told⟩
    rw [count, (predicate_inj words width).mpr told]

/-- In the usual words, two reports that differ behind the terminator have one line, although the
words occur in the text, too. -/
theorem line_determines_report_in_usual_words :
    let first : Report := ⟨"3", ⟨"3' in the string 3\x00"⟩, -3, {}⟩
    let second : Report := ⟨"3", ⟨"3' in the string 3\x004"⟩, -3, {}⟩
    first ≠ second ∧ first.IsTold {} ∧ second.IsTold {} ∧ first.line? = second.line? := by
  intro first second
  have short : Numeral.isShort (-3) = true :=
    Numeral.isShort_of_lt (by decide : 1 ≤ Numeral.maxDigits) (by decide)
  have firstTold : first.IsTold {} := ⟨rfl, rfl, short⟩
  have secondTold : second.IsTold {} := ⟨rfl, rfl, short⟩
  have apart : ∃ lead, ({} : Wording).beforeTarget.head? = some lead ∧ lead.isDigit = false :=
    ⟨' ', by decide, by decide⟩
  exact ⟨by decide, firstTold, secondTold,
    (line_determines_report apart firstTold secondTold).2.mpr ⟨rfl, rfl, by decide⟩⟩

/-- Words that begin with a digit may be taken for a part of the count. -/
example : line? ⟨"5", ⟨"a"⟩, 1, ⟨"5", ""⟩⟩ = line? ⟨"a", ⟨""⟩, 15, ⟨"5", ""⟩⟩ := by
  decide +kernel

end CharTally.Report
