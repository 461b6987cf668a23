import CharTally.Failure
import CharTally.Proofs.Target.Reading

/-!
# The grammar of target literals and the reader

`Specified` is the grammar of target literals as it is laid down: no line feed behind the digits,
no further mark in front of them, and no limit to their number. `Denotes` is what the reader
accepts. `Strays` lists the literals on which the two part, each with what comes of it: the reader
takes a literal that is none (`loose`, `lineFeed`), refuses one (`crowded`), or has no sentence for
its refusal and crashes (`huge`). On every other literal it does what is laid down.
-/

namespace CharTally.Target

variable {literal letters : Text} {mark target : CodePoint} {outcome : Except Failure CodePoint}

/-- What comes of reading a literal. -/
def reading (literal : Text) : Except Failure CodePoint :=
  (parse literal).mapError (Failure.ofTarget literal)

/-- The grammar: an ASCII character is a literal for itself, and a mark with digits behind it is one
for the ASCII character whose code they spell. -/
inductive Specified : Text → CodePoint → Prop
  | itself {target : CodePoint} (ascii : target.toNat ≤ 127) : Specified [target] target
  | hexadecimal {mark : CodePoint} {digits : Text} {target : CodePoint}
      (isMark : mark = 'x' ∨ mark = 'X')
      (spells : Numeral.Spells 16 digits target.toNat) (ascii : target.toNat ≤ 127) :
      Specified (mark :: digits) target
  | decimal {digits : Text} {target : CodePoint} (spells : Numeral.Spells 10 digits target.toNat)
      (ascii : target.toNat ≤ 127) : Specified ('#' :: digits) target

/-- What is asked of the reader: the character, if the literal is one for it; and otherwise a fault
with the code for input. -/
def Conforms (literal : Text) (outcome : Except Failure CodePoint) : Prop :=
  (∃ target, Specified literal target ∧ outcome = .ok target) ∨
    (∀ target, ¬ Specified literal target) ∧
      ∃ fault, outcome = .error (.reported fault) ∧ fault.code = .input

/-- Where the reader strays from the grammar, and what comes of it. -/
inductive Strays : Text → Except Failure CodePoint → Prop
  | loose {mark : CodePoint} {again digits ending : Text} {target : CodePoint}
      (isMark : mark = 'x' ∨ mark = 'X') (marksAgain : MarksAgain again) (ends : Ends ending)
      (more : again ≠ [] ∨ ending ≠ []) (spells : Numeral.Spells 16 digits target.toNat)
      (ascii : target.toNat ≤ 127) : Strays (mark :: (again ++ digits ++ ending)) (.ok target)
  | lineFeed {digits : Text} {target : CodePoint} (few : digits.length ≤ 4300)
      (spells : Numeral.Spells 10 digits target.toNat) (ascii : target.toNat ≤ 127) :
      Strays ('#' :: (digits ++ [scalar '\n'])) (.ok target)
  | crowded {digits : Text} {target : CodePoint} (many : 4300 < digits.length)
      (spells : Numeral.Spells 10 digits target.toNat) (ascii : target.toNat ≤ 127) :
      Strays ('#' :: digits) (.error (.reported (.target ('#' :: digits) (.invalid .decimal))))
  | huge {mark : CodePoint} {again digits ending : Text} {code : Nat}
      (isMark : mark = 'x' ∨ mark = 'X') (marksAgain : MarksAgain again) (ends : Ends ending)
      (spells : Numeral.Spells 16 digits code) (large : Nat.pow 10 Numeral.maxDigits ≤ code) :
      Strays (mark :: (again ++ digits ++ ending)) (.error (.crash .integerTooLong))

/-! ## The grammar and the language -/

/-- A literal of the grammar is read, unless it is decimal and has too many digits. -/
theorem Specified.denotes (specified : Specified literal target) :
    Denotes literal target ∨ ∃ digits, literal = scalar '#' :: digits ∧ 4300 < digits.length ∧
      Numeral.Spells 10 digits target.toNat ∧ target.toNat ≤ 127 := by
  cases specified with
  | itself ascii => exact Or.inl (.itself ascii)
  | @hexadecimal mark digits _ isMark spells ascii =>
    have denotes := Denotes.hexadecimal isMark (Or.inl rfl) spells (Or.inl rfl) ascii
    rw [List.nil_append, List.append_nil] at denotes
    exact Or.inl denotes
  | @decimal digits _ spells ascii =>
    rcases Nat.lt_or_ge 4300 digits.length with many | few
    · exact Or.inr ⟨digits, rfl, many, spells, ascii⟩
    · have denotes := Denotes.decimal few spells (Or.inl rfl) ascii
      rw [List.append_nil] at denotes
      exact Or.inl denotes

/-- What is read is a literal of the grammar, or the reader strays. -/
theorem Denotes.specified (denotes : Denotes literal target) :
    Specified literal target ∨ Strays literal (.ok target) := by
  cases denotes with
  | itself ascii => exact Or.inl (.itself ascii)
  | @hexadecimal mark again digits ending _ isMark marksAgain spells ends ascii =>
    by_cases bare : again = [] ∧ ending = []
    · obtain ⟨rfl, rfl⟩ := bare
      rw [List.nil_append, List.append_nil]
      exact Or.inl (.hexadecimal isMark spells ascii)
    · exact Or.inr (.loose isMark marksAgain ends (not_and_or.mp bare) spells ascii)
  | @decimal digits ending _ few spells ends ascii =>
    rcases ends with rfl | rfl
    · rw [List.append_nil]
      exact Or.inl (.decimal spells ascii)
    · exact Or.inr (.lineFeed few spells ascii)

theorem Ends.mem {ending : Text} (ends : Ends ending) (some_ : ending ≠ []) :
    scalar '\n' ∈ ending := by
  rcases ends with rfl | rfl
  · exact absurd rfl some_
  · exact List.mem_singleton_self _

/-- A further mark has a letter that is no digit. -/
theorem MarksAgain.exists_mem {again : Text} (marksAgain : MarksAgain again) (some_ : again ≠ []) :
    ∃ letter ∈ again, letter = 'x' ∨ letter = 'X' := by
  rcases marksAgain with rfl | rfl | rfl
  · exact absurd rfl some_
  · exact ⟨'x', by simp, Or.inl rfl⟩
  · exact ⟨'X', by simp, Or.inr rfl⟩

/-- Neither a further mark nor a line feed consists of digits. -/
theorem not_spells_of_more {again digits ending : Text} {code : Nat}
    (marksAgain : MarksAgain again) (ends : Ends ending) (more : again ≠ [] ∨ ending ≠ []) :
    ¬ Numeral.Spells 16 (again ++ digits ++ ending) code := by
  intro spells
  have isDigit {c : CodePoint} (member : c ∈ again ++ digits ++ ending) :
      (Numeral.digitOf? 16 c).isSome = true := by
    obtain ⟨d, isDigit⟩ := spells.exists_isDigit member
    rw [(Numeral.digitOf?_eq_some (Nat.le_refl 16)).mpr isDigit]
    rfl
  rcases more with again_ | ending_
  · obtain ⟨letter, member, isMark⟩ := marksAgain.exists_mem again_
    have digit := isDigit (List.mem_append_left ending (List.mem_append_left digits member))
    rcases isMark with rfl | rfl <;> cases digit
  · have digit := isDigit (List.mem_append_right _ (ends.mem ending_))
    cases digit

/-- A mark that is followed by several letters is no literal for itself. -/
theorem specified_hexadecimal_iff (isMark : mark = 'x' ∨ mark = 'X') (some_ : letters ≠ []) :
    Specified (mark :: letters) target ↔
      Numeral.Spells 16 letters target.toNat ∧ target.toNat ≤ 127 := by
  constructor
  · intro specified
    cases specified with
    | itself => exact absurd rfl some_
    | hexadecimal _ spells ascii => exact ⟨spells, ascii⟩
    | decimal => rcases isMark with same | same <;> cases same
  · rintro ⟨spells, ascii⟩
    exact .hexadecimal isMark spells ascii

theorem specified_decimal_iff (some_ : letters ≠ []) :
    Specified ('#' :: letters) target ↔
      Numeral.Spells 10 letters target.toNat ∧ target.toNat ≤ 127 := by
  constructor
  · intro specified
    cases specified with
    | itself => exact absurd rfl some_
    | hexadecimal isMark => rcases isMark with same | same <;> cases same
    | decimal spells ascii => exact ⟨spells, ascii⟩
  · rintro ⟨spells, ascii⟩
    exact .decimal spells ascii

/-! ## Where the reader strays -/

/-- A decimal literal with too many digits is refused, whatever they spell. -/
theorem parse_crowded {digits : Text} (many : 4300 < digits.length)
    (alphanumeric : digits.all isAlphanumeric = true) :
    parse ('#' :: digits) = .error (.refused (.invalid .decimal)) := by
  have some_ : digits ≠ [] := List.ne_nil_of_length_pos (by omega)
  have parts : split? ('#' :: digits) = some (.decimal, digits) := by
    refine split?_eq_some.mpr ⟨some_, alphanumeric, '#', [], rfl, Or.inl rfl, ?_⟩
    rw [List.append_nil]
  have uncoded : code? .decimal digits = none := by
    rw [Option.eq_none_iff_forall_not_mem]
    intro code found
    exact absurd (code?_decimal_eq_some.mp found).1 (Nat.not_le.mpr many)
  rw [parse_of_parts parts, ofCode, uncoded]

theorem reading_of_strays (strays : Strays literal outcome) : reading literal = outcome := by
  cases strays with
  | loose isMark marksAgain ends more spells ascii =>
    rw [reading, parse_of_denotes (.hexadecimal isMark marksAgain spells ends ascii)]
    rfl
  | lineFeed few spells ascii =>
    rw [reading, parse_of_denotes (.decimal few spells (Or.inr rfl) ascii)]
    rfl
  | crowded many spells ascii =>
    rw [reading, parse_crowded many (isAlphanumeric_of_spells (by decide) spells)]
    rfl
  | @huge mark again digits ending code isMark marksAgain ends spells large =>
    have huge : HasHugeCode (mark :: (again ++ digits ++ ending)) := by
      refine ⟨again ++ digits, code, split?_eq_some.mpr ⟨?_, ?_, ?_⟩, ?_, large⟩
      · exact List.append_ne_nil_of_right_ne_nil again spells.1
      · exact isAlphanumeric_of_marksAgain marksAgain spells
      · exact ⟨mark, ending, isMark, ends, rfl⟩
      · exact code?_hexadecimal_eq_some.mpr ⟨again, digits, rfl, marksAgain, spells⟩
    rw [reading, parse_eq_codeTooLong.mpr huge]
    rfl

theorem Strays.not_conforms (strays : Strays literal outcome) : ¬ Conforms literal outcome := by
  cases strays with
  | @loose mark again digits ending target isMark marksAgain ends more spells ascii =>
    rintro (⟨other, specified, _⟩ | ⟨_, _, failed, _⟩)
    · have some_ : again ++ digits ++ ending ≠ [] :=
        List.append_ne_nil_of_left_ne_nil
          (List.append_ne_nil_of_right_ne_nil again spells.1) ending
      exact not_spells_of_more marksAgain ends more
        ((specified_hexadecimal_iff isMark some_).mp specified).1
    · cases failed
  | @lineFeed digits target few spells ascii =>
    rintro (⟨other, specified, _⟩ | ⟨_, _, failed, _⟩)
    · have whole := ((specified_decimal_iff (by simp)).mp specified).1
      have last := List.mem_append_right digits (List.mem_singleton_self (scalar '\n'))
      obtain ⟨d, isDigit⟩ := whole.exists_isDigit last
      cases (Numeral.digitOf?_eq_some (by decide)).mpr isDigit
    · cases failed
  | crowded many spells ascii =>
    rintro (⟨_, _, failed⟩ | ⟨none_, _⟩)
    · cases failed
    · exact none_ _ (.decimal spells ascii)
  | huge =>
    rintro (⟨_, _, failed⟩ | ⟨_, _, failed, _⟩)
    · cases failed
    · cases failed

/-- A code that is too long for a sentence makes the reader stray. -/
theorem strays_of_huge (huge : HasHugeCode literal) :
    Strays literal (.error (.crash .integerTooLong)) := by
  obtain ⟨letters, code, parts, coded, large⟩ := huge
  obtain ⟨_, _, mark, ending, isMark, ends, rfl⟩ := split?_eq_some.mp parts
  obtain ⟨again, digits, rfl, marksAgain, spells⟩ := code?_hexadecimal_eq_some.mp coded
  exact .huge isMark marksAgain ends spells large

theorem conforms_or_strays (literal : Text) :
    Conforms literal (reading literal) ∨ Strays literal (reading literal) := by
  unfold reading
  cases parsed : parse literal with
  | ok target =>
    rcases (denotes_of_parse parsed).specified with specified | strays
    · exact Or.inl (Or.inl ⟨target, specified, rfl⟩)
    · exact Or.inr strays
  | error trouble =>
    cases trouble with
    | codeTooLong => exact Or.inr (strays_of_huge (parse_eq_codeTooLong.mp parsed))
    | refused why =>
      by_cases none_ : ∀ target, ¬ Specified literal target
      · exact Or.inl (Or.inr ⟨none_, _, rfl, rfl⟩)
      · obtain ⟨target, specified⟩ := not_forall_not.mp none_
        rcases specified.denotes with denotes | ⟨digits, rfl, many, spells, ascii⟩
        · cases parsed.symm.trans (parse_of_denotes denotes)
        · have crowded := parse_crowded many (isAlphanumeric_of_spells (by decide) spells)
          cases parsed.symm.trans crowded
          exact Or.inr (.crowded many spells ascii)

/-- **Where the reader keeps to the grammar of target literals.** It does what is laid down exactly
on the literals where it does not stray, and where it strays, what is listed comes of it: it takes
hexadecimal digits behind a further mark, and digits with a line feed behind them; it refuses
decimal digits that are too many; and it crashes on a hexadecimal code that is too long. -/
theorem reading_conforms_unless_strays (literal : Text) :
    (Conforms literal (reading literal) ↔ ¬ ∃ outcome, Strays literal outcome) ∧
      ∀ outcome, Strays literal outcome → reading literal = outcome := by
  constructor
  · constructor
    · rintro conforms ⟨outcome, strays⟩
      rw [reading_of_strays strays] at conforms
      exact strays.not_conforms conforms
    · intro keeps
      rcases conforms_or_strays literal with conforms | strays
      · exact conforms
      · exact absurd ⟨_, strays⟩ keeps
  · intro outcome
    exact reading_of_strays

/-- Reading does not keep to the grammar where a line feed ends a literal. -/
theorem reading_lineFeed_strays : ¬ ∀ literal, Conforms literal (reading literal) := by
  intro all
  have spells : Numeral.Spells 16 "64" 'd'.toNat :=
    (Numeral.ofDigits?_eq_some (Nat.le_refl 16)).mp rfl
  have strays : Strays "x64\n" (.ok 'd') := by
    refine @Strays.loose _ [] "64" "\n" _ ?_ ?_ ?_ ?_ spells ?_
    · exact Or.inl rfl
    · exact Or.inl rfl
    · exact Or.inr rfl
    · exact Or.inr (by decide)
    · decide
  have conforms := all "x64\n"
  rw [reading_of_strays strays] at conforms
  exact strays.not_conforms conforms

end CharTally.Target
