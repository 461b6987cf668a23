import CharTally.CommandLine.Limit
import CharTally.Failure
import CharTally.Proofs.Text.Integer

/-!
# Every limit is read or refused

A limit is an integer that is spelled and is one at least (`parse_cases`). The sentence about a
smaller one shows it, and to write an integer that is too long would end the program. This never
comes to pass, because an integer that is spelled can be written (`sentence?_of_parse`): what is
given for a limit is read or refused (`limit_read_or_refused`).
-/

namespace CharTally.CommandLine.Limit

variable {t : Text} {why : Refusal}

/-- The sentence about a refused limit, unless it has to show an integer that is too long to be
written. -/
def Refusal.sentence? : Refusal → Option Text
  | .notInteger given => some ("expected an integer, got '" ++ given ++ "'")
  | .belowOne given => (Numeral.text? given).map ("must be at least 1, got " ++ ·)

/-- How the reading of a limit ends if its sentences have to be written. -/
inductive Ending where
  | limit (limit : Int)
  | refused (sentence : Text)
  | crashed (crash : Crash)
deriving DecidableEq, Repr

/-- Reads a limit, and writes the sentence if it is refused. -/
def ending (t : Text) : Ending :=
  match parse t with
  | .ok limit => .limit limit
  | .error why =>
    match why.sentence? with
    | some sentence => .refused sentence
    | none => .crashed .integerTooLong

/-! ## Reading -/

/-- A text that spells an integer is a limit or is below one, and no other is a limit. -/
theorem parse_cases (t : Text) :
    (∃ limit, Numeral.SpellsInteger t limit ∧ 1 ≤ limit ∧ parse t = .ok limit) ∨
      (∃ given, Numeral.SpellsInteger t given ∧ given < 1 ∧ parse t = .error (.belowOne given)) ∨
      (∀ i, ¬ Numeral.SpellsInteger t i) ∧ parse t = .error (.notInteger t) := by
  rw [parse]
  cases read : Numeral.readInteger? t with
  | none =>
    refine Or.inr (Or.inr ⟨fun i spells => ?_, rfl⟩)
    cases read.symm.trans (Numeral.readInteger?_eq_some.mpr spells)
  | some i =>
    have spells := Numeral.readInteger?_eq_some.mp read
    dsimp only
    rcases lt_or_ge i 1 with small | large
    · exact Or.inr (Or.inl ⟨i, spells, small, if_pos small⟩)
    · exact Or.inl ⟨i, spells, large, if_neg (Int.not_lt.mpr large)⟩

/-- The sentence about a refusal can be written. -/
theorem sentence?_of_parse (refused : parse t = .error why) : why.sentence? = some why.message := by
  rcases parse_cases t with ⟨limit, _, _, read⟩ | ⟨given, spells, _, read⟩ | ⟨_, read⟩
  · cases refused.symm.trans read
  · cases refused.symm.trans read
    rw [Refusal.sentence?, Numeral.text?, if_pos spells.isShort]
    rfl
  · cases refused.symm.trans read
    rfl

theorem ending_of_ok {limit : Int} (read : parse t = .ok limit) : ending t = .limit limit := by
  rw [ending, read]

theorem ending_of_error (refused : parse t = .error why) : ending t = .refused why.message := by
  rw [ending, refused]
  dsimp only
  rw [sentence?_of_parse refused]

/-! ## Numerals -/

/-- The numeral of an integer is a limit if the integer is one at least and can be written. -/
theorem parse_ofInt {n : Int} (positive : 1 ≤ n) (short : Numeral.isShort n = true) :
    parse (Numeral.ofInt n) = .ok n := by
  rw [parse, Numeral.readInteger?_ofInt, if_pos short]
  exact if_neg (Int.not_lt.mpr positive)

theorem exists_refusal_ofInt {n : Int} (unfit : ¬ (1 ≤ n ∧ Numeral.isShort n = true)) :
    ∃ why, parse (Numeral.ofInt n) = .error why := by
  rw [parse, Numeral.readInteger?_ofInt]
  by_cases short : Numeral.isShort n = true
  · have small : n < 1 := Int.not_le.mp fun positive => unfit ⟨positive, short⟩
    rw [if_pos short]
    exact ⟨_, if_pos small⟩
  · rw [if_neg short]
    exact ⟨_, rfl⟩

/-- A positive integer can be written if it lies below the power of ten with as many zeros as a
numeral may have digits. -/
theorem isShort_iff_of_pos {n : Int} (positive : 1 ≤ n) :
    Numeral.isShort n = true ↔ n < (10 : Int) ^ Numeral.maxDigits := by
  obtain ⟨m, rfl⟩ := Int.eq_ofNat_of_zero_le (Int.le_trans (by decide) positive)
  rw [Numeral.isShort, decide_eq_true_eq, Int.natAbs_natCast]
  generalize Numeral.maxDigits = digits
  exact_mod_cast Iff.rfl

/-- **Every limit is read or refused.** Whatever is given for a limit, it spells an integer of one
at least and is read as this integer; or it spells a smaller one, which can be written and is shown
in the sentence that refuses it; or it spells none, and the sentence shows the text. Nothing else
comes to pass. The numeral of an integer is read as the integer if this is one at least and has no
more digits than are converted, and is refused otherwise. -/
theorem limit_read_or_refused :
    (∀ t, (∃ limit, Numeral.SpellsInteger t limit ∧ 1 ≤ limit ∧ ending t = .limit limit) ∨
        (∃ given, Numeral.SpellsInteger t given ∧ given < 1 ∧ Numeral.isShort given = true ∧
          ending t = .refused ("must be at least 1, got " ++ Numeral.ofInt given)) ∨
        (∀ i, ¬ Numeral.SpellsInteger t i) ∧
          ending t = .refused ("expected an integer, got '" ++ t ++ "'")) ∧
      ∀ n : Int,
        if 1 ≤ n ∧ n < (10 : Int) ^ 4300 then ending (Numeral.ofInt n) = .limit n
        else ∃ sentence, ending (Numeral.ofInt n) = .refused sentence := by
  constructor
  · intro t
    rcases parse_cases t with ⟨limit, spells, positive, read⟩ | ⟨given, spells, small, read⟩ |
      ⟨spellsNone, read⟩
    · exact Or.inl ⟨limit, spells, positive, ending_of_ok read⟩
    · exact Or.inr (Or.inl ⟨given, spells, small, spells.isShort, ending_of_error read⟩)
    · exact Or.inr (Or.inr ⟨spellsNone, ending_of_error read⟩)
  · intro n
    split
    case isTrue fits =>
      exact ending_of_ok (parse_ofInt fits.1 ((isShort_iff_of_pos fits.1).mpr fits.2))
    case isFalse unfit =>
      have refused : ∃ why, parse (Numeral.ofInt n) = .error why :=
        exists_refusal_ofInt fun ⟨positive, short⟩ =>
          unfit ⟨positive, (isShort_iff_of_pos positive).mp short⟩
      obtain ⟨why, refused⟩ := refused
      exact ⟨why.message, ending_of_error refused⟩

/-- Zeros in front, an underscore and digits of two scripts spell a limit, and a hyphen in front of
them makes it too small. -/
example : ending " +01_\u0663 " = .limit 13 ∧
    ending "-01_\u0663" = .refused "must be at least 1, got -13" := by decide +kernel

end CharTally.CommandLine.Limit
