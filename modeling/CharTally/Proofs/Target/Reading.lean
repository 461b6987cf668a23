import CharTally.Proofs.Target
import CharTally.Proofs.Text.Digits

/-!
# Which literals are read

`Denotes` is the language of target literals, written down without the reader: an ASCII
character by itself, or a mark, the digits of its code, and perhaps a line feed. Behind the
hexadecimal mark a further `0x` may stand, and decimal digits are limited in number. The
reader accepts exactly this language, and reads each literal as the character that it denotes
(`parse_exactly_denoted`).

The reader drops the line feed, takes the mark off, and only then asks whether the letters
behind it are digits; each of these steps is matched with a piece of the language
(`split?_eq_some`, `code?_hexadecimal_eq_some`, `code?_decimal_eq_some`).
-/

namespace CharTally.Target

variable {literal letters : Text} {how : Radix} {mark target : CodePoint} {code : Nat}

/-! ## The language -/

/-- What may stand behind the digits of a literal: nothing, or one line feed. -/
def Ends (ending : Text) : Prop := ending = [] ∨ ending = [scalar '\n']

/-- What may stand between the hexadecimal mark and the digits: nothing, or a further mark. -/
def MarksAgain (again : Text) : Prop := again = [] ∨ again = ['0', 'x'] ∨ again = ['0', 'X']

/-- A literal denotes a character. -/
inductive Denotes : Text → CodePoint → Prop
  | itself {target : CodePoint} (ascii : target.toNat ≤ 127) : Denotes [target] target
  | hexadecimal {mark : CodePoint} {again digits ending : Text} {target : CodePoint}
      (isMark : mark = 'x' ∨ mark = 'X') (marksAgain : MarksAgain again)
      (spells : Numeral.Spells 16 digits target.toNat) (ends : Ends ending)
      (ascii : target.toNat ≤ 127) : Denotes (mark :: (again ++ digits ++ ending)) target
  | decimal {digits ending : Text} {target : CodePoint} (few : digits.length ≤ 4300)
      (spells : Numeral.Spells 10 digits target.toNat) (ends : Ends ending)
      (ascii : target.toNat ≤ 127) : Denotes ('#' :: (digits ++ ending)) target

/-- What a literal denotes is ASCII. -/
theorem Denotes.ascii (denotes : Denotes literal target) : target.toNat ≤ 127 := by
  cases denotes with
  | itself ascii => exact ascii
  | hexadecimal _ _ _ _ ascii => exact ascii
  | decimal _ _ _ ascii => exact ascii

/-! ## The line feed -/

theorem exists_ending (t : Text) : ∃ ending, Ends ending ∧ t = withoutLineFeed t ++ ending := by
  unfold withoutLineFeed
  split
  case isTrue last =>
    obtain ⟨front, rfl⟩ := List.getLast?_eq_some_iff.mp last
    exact ⟨[scalar '\n'], Or.inr rfl, by rw [List.dropLast_concat]⟩
  case isFalse => exact ⟨[], Or.inl rfl, (List.append_nil t).symm⟩

/-- Nothing but the ending is dropped. -/
theorem withoutLineFeed_append {ending : Text} (other : letters.getLast? ≠ some (scalar '\n'))
    (ends : Ends ending) : withoutLineFeed (letters ++ ending) = letters := by
  unfold withoutLineFeed
  rcases ends with rfl | rfl
  · rw [List.append_nil, if_neg other]
  · rw [if_pos List.getLast?_concat, List.dropLast_concat]

/-! ## The mark -/

/-- The marks of a radix. -/
def Radix.Marks : Radix → CodePoint → Prop
  | .hexadecimal, mark => mark = 'x' ∨ mark = 'X'
  | .decimal, mark => mark = '#'

/-- Letters and digits that do not end in a line feed still do not behind a mark. -/
theorem getLast?_of_isAlphanumeric (some_ : letters ≠ [])
    (alphanumeric : letters.all isAlphanumeric = true) (mark : CodePoint) :
    (mark :: letters).getLast? ≠ some (scalar '\n') := by
  intro last
  obtain ⟨front, whole⟩ := List.getLast?_eq_some_iff.mp last
  have isLast : scalar '\n' ∈ letters := by
    cases front with
    | nil => exact absurd (List.cons.inj whole).2 some_
    | cons first others =>
      rw [(List.cons.inj whole).2]
      exact List.mem_append_right others (List.mem_singleton_self _)
  exact absurd (List.all_eq_true.mp alphanumeric _ isLast) (by decide)

/-- A literal is a mark, letters and digits, and an ending. -/
theorem split?_eq_some :
    split? literal = some (how, letters) ↔
      letters ≠ [] ∧ letters.all isAlphanumeric = true ∧
        ∃ mark ending,
          how.Marks mark ∧ Ends ending ∧ literal = mark :: (letters ++ ending) := by
  constructor
  · intro parts
    obtain ⟨ending, ends, whole⟩ := exists_ending literal
    unfold split? at parts
    split at parts
    case h_1 => cases parts
    case h_2 mark rest isRest =>
      rw [isRest] at whole
      split at parts
      case isTrue => cases parts
      case isFalse fine =>
        rw [Bool.or_eq_true, Bool.not_eq_true', not_or, List.isEmpty_iff,
          Bool.not_eq_false] at fine
        split at parts
        case isTrue isMark =>
          cases parts
          exact ⟨fine.1, fine.2, mark, ending, isMark, ends, whole⟩
        case isFalse =>
          split at parts
          case isTrue isMark =>
            cases parts
            exact ⟨fine.1, fine.2, mark, ending, isMark, ends, whole⟩
          case isFalse => cases parts
  · rintro ⟨some_, alphanumeric, mark, ending, isMark, ends, rfl⟩
    have bare : withoutLineFeed (mark :: (letters ++ ending)) = mark :: letters :=
      withoutLineFeed_append (getLast?_of_isAlphanumeric some_ alphanumeric mark) ends
    have fine : (letters.isEmpty || !letters.all isAlphanumeric) = false := by
      rw [alphanumeric, List.isEmpty_eq_false_iff.mpr some_]
      rfl
    rw [split?, bare]
    dsimp only
    rw [fine, if_neg Bool.false_ne_true]
    cases how with
    | hexadecimal =>
      have isHex : mark = 'x' ∨ mark = 'X' := isMark
      rw [if_pos isHex]
    | decimal =>
      cases isMark
      rfl

/-! ## The digits -/

/-- Digits are letters and digits. -/
theorem isAlphanumeric_of_spells {base : Nat} (small : base ≤ 16)
    (spells : Numeral.Spells base letters code) : letters.all isAlphanumeric = true := by
  rw [List.all_eq_true]
  intro c member
  obtain ⟨d, isDigit⟩ := spells.exists_isDigit member
  have read := (Numeral.digitOf?_eq_some small).mpr isDigit
  rw [Numeral.digitOf?, Option.filter_eq_some_iff] at read
  rw [isAlphanumeric, read.1]
  rfl

/-- So is a further mark with digits behind it. -/
theorem isAlphanumeric_of_marksAgain {again digits : Text} (marksAgain : MarksAgain again)
    (spells : Numeral.Spells 16 digits code) : (again ++ digits).all isAlphanumeric = true := by
  have front : again.all isAlphanumeric = true := by
    rcases marksAgain with rfl | rfl | rfl <;> decide
  rw [List.all_append, front, isAlphanumeric_of_spells (Nat.le_refl 16) spells]
  rfl

/-- The letter of the mark is no digit, so digits are never taken for a further mark. -/
theorem withoutHexMark_of_spells (spells : Numeral.Spells 16 letters code) :
    withoutHexMark letters = letters := by
  unfold withoutHexMark
  split
  case h_1 mark rest =>
    split
    case isTrue isMark =>
      obtain ⟨_, digits, areDigits, _⟩ := spells
      cases areDigits with
      | cons _ others =>
        cases others with
        | cons isDigit _ =>
          have read := (Numeral.digitOf?_eq_some (Nat.le_refl 16)).mpr isDigit
          rcases isMark with rfl | rfl <;> cases read
    case isFalse => rfl
  case h_2 => rfl

theorem code?_hexadecimal_eq_some :
    code? .hexadecimal letters = some code ↔
      ∃ again digits, letters = again ++ digits ∧ MarksAgain again ∧
        Numeral.Spells 16 digits code := by
  rw [code?, Numeral.ofDigits?_eq_some (Nat.le_refl 16)]
  constructor
  · intro spells
    unfold withoutHexMark at spells
    split at spells
    case h_1 mark rest =>
      split at spells
      case isTrue isMark =>
        refine ⟨['0', mark], rest, rfl, Or.inr ?_, spells⟩
        rcases isMark with rfl | rfl
        · exact Or.inl rfl
        · exact Or.inr rfl
      case isFalse => exact ⟨[], _, rfl, Or.inl rfl, spells⟩
    case h_2 => exact ⟨[], _, rfl, Or.inl rfl, spells⟩
  · rintro ⟨again, digits, rfl, rfl | rfl | rfl, spells⟩
    · rw [List.nil_append, withoutHexMark_of_spells spells]
      exact spells
    · exact spells
    · exact spells

theorem code?_decimal_eq_some :
    code? .decimal letters = some code ↔
      letters.length ≤ 4300 ∧ Numeral.Spells 10 letters code := by
  unfold code?
  rw [← Numeral.ofDigits?_eq_some (by decide : 10 ≤ 16)]
  split
  case h_1 how => cases how
  case h_2 =>
    split
    case isTrue few => exact ⟨fun read => ⟨few, read⟩, fun both => both.2⟩
    case isFalse many =>
      constructor
      · intro read
        cases read
      · rintro ⟨few, _⟩
        exact absurd few many

/-! ## The literal -/

/-- What is read is denoted. -/
theorem denotes_of_parse (read : parse literal = .ok target) : Denotes literal target := by
  rcases parse_eq_ok.mp read with ⟨rfl, ascii⟩ | ⟨how, letters, parts, coded⟩
  · exact .itself ascii
  · obtain ⟨found, ascii⟩ := ofCode_eq_ok.mp coded
    obtain ⟨_, _, mark, ending, isMark, ends, rfl⟩ := split?_eq_some.mp parts
    cases how with
    | hexadecimal =>
      obtain ⟨again, digits, rfl, marksAgain, spells⟩ := code?_hexadecimal_eq_some.mp found
      exact .hexadecimal isMark marksAgain spells ends ascii
    | decimal =>
      obtain ⟨few, spells⟩ := code?_decimal_eq_some.mp found
      cases isMark
      exact .decimal few spells ends ascii

theorem parse_of_denotes (denotes : Denotes literal target) : parse literal = .ok target := by
  rw [parse_eq_ok]
  cases denotes with
  | itself ascii => exact Or.inl ⟨rfl, ascii⟩
  | @hexadecimal mark again digits ending _ isMark marksAgain spells ends ascii =>
    refine Or.inr ⟨.hexadecimal, again ++ digits, split?_eq_some.mpr ⟨?_, ?_, ?_⟩, ?_⟩
    · exact List.append_ne_nil_of_right_ne_nil again spells.1
    · exact isAlphanumeric_of_marksAgain marksAgain spells
    · exact ⟨mark, ending, isMark, ends, rfl⟩
    · exact ofCode_eq_ok.mpr
        ⟨code?_hexadecimal_eq_some.mpr ⟨again, digits, rfl, marksAgain, spells⟩, ascii⟩
  | @decimal digits ending _ few spells ends ascii =>
    refine Or.inr ⟨.decimal, digits, split?_eq_some.mpr ⟨spells.1, ?_, ?_⟩, ?_⟩
    · exact isAlphanumeric_of_spells (by decide) spells
    · exact ⟨'#', ending, rfl, ends, rfl⟩
    · exact ofCode_eq_ok.mpr ⟨code?_decimal_eq_some.mpr ⟨few, spells⟩, ascii⟩

/-- **The language of target literals.** A literal is read as a character exactly if it denotes it:
it is this character, or it is a mark with the digits of its code, however many zeros these begin
with. What is read is ASCII. -/
theorem parse_exactly_denoted (literal : Text) (target : CodePoint) :
    (parse literal = .ok target ↔ Denotes literal target) ∧
      (parse literal = .ok target → target.toNat ≤ 127) := by
  constructor
  · exact ⟨denotes_of_parse, parse_of_denotes⟩
  · intro read
    exact (denotes_of_parse read).ascii

end CharTally.Target
