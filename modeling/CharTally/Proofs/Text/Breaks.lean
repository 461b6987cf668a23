import CharTally.Proofs.Json.Writer
import CharTally.Proofs.Text.Lines
import CharTally.Stamp
import CharTally.Target
import CharTally.Text.Quoted

/-!
# Line breaks in what is printed

`breaks` are the characters of a text that end a line, for whoever cuts it into lines. What is
printed about a scan holds none, whatever the scan: numerals, stamps, the description of a target
and a quoted text are free of them (`breaks_ofInt`, `breaks_stamp`, `breaks_describe`,
`breaks_quoted`). `IsLines` says that a text is so many lines and nothing else.
-/

namespace CharTally

namespace Text

variable {s t : Text} {c : CodePoint} {mark : Text} {count : Nat}

/-! ## Breaks -/

/-- The characters that end a line: the line feed, the vertical tab, the form feed, the carriage
return, three of the information separators, the next line, and the two separators of Unicode. -/
def lineBreaks : List CodePoint :=
  ['\n', '\x0b', '\x0c', '\r', '\x1c', '\x1d', '\x1e', '\x85', '\u2028', '\u2029']

/-- The line breaks of a text. -/
def breaks (t : Text) : Text := t.filter fun c => lineBreaks.contains c

@[simp] theorem breaks_append (s t : Text) : breaks (s ++ t) = breaks s ++ breaks t :=
  List.filter_append s t

theorem breaks_eq_nil : breaks t = [] ↔ ∀ c ∈ t, c ∉ lineBreaks := by
  rw [breaks, List.filter_eq_nil_iff]
  simp

theorem breaks_of_only {ok : CodePoint → Bool} (apart : lineBreaks.any ok = false)
    (only : Only ok t) : breaks t = [] := by
  rw [breaks_eq_nil]
  intro c member isBreak
  exact List.any_eq_false.mp apart c isBreak (only c member)

/-- Visible ASCII characters end no line. -/
theorem breaks_of_plain (plain : Only Json.isPlain t) : breaks t = [] :=
  breaks_of_only (by decide) plain

/-- What consists of parts without line breaks has none. -/
theorem breaks_flatMap {α : Type} {items : List α} {part : α → Text}
    (free : ∀ item ∈ items, breaks (part item) = []) : breaks (items.flatMap part) = [] := by
  induction items with
  | nil => rfl
  | cons item rest ih =>
    obtain ⟨first, others⟩ := List.forall_mem_cons.mp free
    rw [List.flatMap_cons, breaks_append, first, ih others]
    rfl

/-! ## What is printed -/

theorem breaks_ofInt (i : Int) : breaks (Numeral.ofInt i) = [] :=
  breaks_of_plain ((Numeral.only_ofInt i).weaken Json.isPlain_of_isMark)

theorem breaks_decimal (n : Nat) : breaks (Numeral.decimal n) = [] :=
  breaks_of_plain ((Numeral.only_decimal n).weaken Json.isPlain_of_isMark)

theorem breaks_padded {base : Nat} (large : 1 < base) (small : base ≤ 16) (width n : Nat) :
    breaks (Numeral.padded base width n) = [] := by
  apply breaks_of_plain
  apply Numeral.only_padded large
  intro d isDigit
  exact (by decide : ∀ d < 16, Json.isPlain d.digitChar = true) d
    (Nat.lt_of_lt_of_le isDigit small)

/-- A character between quotes is written without line breaks. -/
theorem breaks_escaped {quote : CodePoint} (isQuote : quote = '\'' ∨ quote = '"') (c : CodePoint) :
    breaks (escaped quote c) = [] := by
  have shown : lineBreaks.any isPrintable = false := by decide +kernel
  have digits (width : Nat) := breaks_padded (by decide : 1 < 16) (Nat.le_refl 16) width c.toNat
  unfold escaped
  split
  case isTrue marked =>
    rcases marked with rfl | rfl
    · rcases isQuote with rfl | rfl <;> decide
    · decide
  case isFalse =>
    -- the controls that have letters of their own come first
    split
    · decide
    split
    · decide
    split
    · decide
    split
    case isTrue printable =>
      apply breaks_of_only shown
      intro d member
      rw [List.mem_singleton.mp member]
      exact printable
    case isFalse =>
      split
      · rw [breaks_append, digits]
        decide
      split
      · rw [breaks_append, digits]
        decide
      · rw [breaks_append, digits]
        decide

/-- A quoted text stands on one line. -/
theorem breaks_quoted (t : Text) : breaks (quoted t) = [] := by
  have isQuote : quoteMark t = '\'' ∨ quoteMark t = '"' := by
    unfold quoteMark
    split
    · exact Or.inr rfl
    · exact Or.inl rfl
  have ends : breaks [quoteMark t] = [] := by
    rcases isQuote with same | same
    · rw [same]
      decide
    · rw [same]
      decide
  have whole : quoted t = [quoteMark t] ++ (t.flatMap (escaped (quoteMark t)) ++ [quoteMark t]) :=
    rfl
  rw [whole, breaks_append, breaks_append, ends, breaks_flatMap fun c _ => breaks_escaped isQuote c]
  rfl

/-- So does the description of a target. -/
theorem breaks_describe (c : CodePoint) : breaks (Target.describe c) = [] := by
  unfold Target.describe
  split
  case isTrue visible =>
    apply breaks_of_plain
    intro d member
    rw [List.mem_singleton.mp member]
    exact visible
  case isFalse =>
    apply breaks_of_plain
    refine .cons (by decide) ?_
    intro d member
    obtain ⟨digit, among, rfl⟩ := List.mem_map.mp member
    obtain ⟨value, isDigit, rfl⟩ := Numeral.exists_digitChar_of_mem_padded (by decide) among
    exact (by decide : ∀ d < 16, Json.isPlain d.digitChar.toUpper = true) value isDigit

theorem breaks_textOf (date : Stamp.Date) (secondOfDay : Nat) :
    breaks (Stamp.textOf date secondOfDay) = [] := by
  have digits := breaks_padded (by decide : 1 < 10) (by decide)
  have between : breaks "-" = [] ∧ breaks "T" = [] ∧ breaks ":" = [] ∧ breaks "+00:00" = [] := by
    decide
  obtain ⟨hyphen, letter, colon, zone⟩ := between
  simp only [Stamp.textOf, Stamp.twoDigits, breaks_append, digits, hyphen, letter, colon, zone,
    List.append_nil]

/-- So does a stamp. -/
theorem breaks_stamp {instant : Instant} {stamp : Text} (stamped : Stamp.text instant = .ok stamp) :
    breaks stamp = [] := by
  unfold Stamp.text at stamped
  cases found : Stamp.second instant with
  | error fault => rw [found] at stamped; cases stamped
  | ok second =>
    rw [found] at stamped
    simp only [bind, Except.bind] at stamped
    cases shown : Stamp.checkYear (Stamp.dateOf (second / 86400)).year with
    | error fault => rw [shown] at stamped; cases stamped
    | ok _ =>
      rw [shown] at stamped
      rw [← Except.ok.inj stamped]
      exact breaks_textOf _ _

/-! ## Lines -/

theorem breaks_written_cons (line : Text) (lines : List Text) :
    breaks (written (line :: lines)) = breaks line ++ scalar '\n' :: breaks (written lines) := by
  have feed : breaks [scalar '\n'] = [scalar '\n'] := by decide
  rw [written, List.flatMap_cons, ← written, breaks_append, breaks_append, feed, List.append_assoc,
    List.singleton_append]

/-- An output is so many lines that begin with a mark, and holds no other line break. -/
def IsLines (mark : Text) (count : Nat) (output : Text) : Prop :=
  ∃ lines : List Text, lines.length = count ∧ output = written lines ∧
    ∀ line ∈ lines, mark <+: line ∧ breaks line = []

/-- So many lines have so many line breaks. -/
theorem IsLines.length_breaks {output : Text} (isLines : IsLines mark count output) :
    (breaks output).length = count := by
  obtain ⟨lines, rfl, rfl, plain⟩ := isLines
  induction lines with
  | nil => rfl
  | cons line rest ih =>
    obtain ⟨⟨_, unbroken⟩, others⟩ := List.forall_mem_cons.mp plain
    rw [breaks_written_cons, unbroken, List.nil_append, List.length_cons, ih others,
      List.length_cons]

end Text

end CharTally
