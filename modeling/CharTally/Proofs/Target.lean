import CharTally.Proofs.Text.Numeral
import CharTally.Target

/-!
# Target literals

A literal that reads is a single character or a mark with a code (`parse_eq_ok`). Its
character is ASCII (`toNat_of_parse`), so it is a literal itself, for itself
(`parse_singleton`): what has been read may be written into a field and read again. Reading
a literal fails with a refusal, unless its code is so long that no sentence can hold it,
which only hexadecimal codes can be (`parse_eq_codeTooLong`).
-/

namespace CharTally.Target

variable {literal letters : Text} {how : Radix} {target : CodePoint}

/-- A code that is found is read as the character that has it. -/
theorem ofCode_eq_ok :
    ofCode how letters = .ok target ↔
      code? how letters = some target.toNat ∧ target.toNat ≤ Text.maxAscii := by
  unfold ofCode
  split
  case h_1 none_ =>
    constructor
    · intro read
      cases read
    · rintro ⟨found, _⟩
      cases none_.symm.trans found
  case h_2 code found =>
    constructor
    · intro read
      split at read
      case isTrue small =>
        cases read
        have same : (CodePoint.ofNat code).toNat = code :=
          CodePoint.toNat_ofNat (Nat.lt_of_le_of_lt small (by decide))
        rw [same]
        exact ⟨found, small⟩
      case isFalse => split at read <;> cases read
    · rintro ⟨same, small⟩
      cases found.symm.trans same
      rw [if_pos small, CodePoint.ofNat_toNat]

/-- A single character is no mark with digits behind it. -/
theorem split?_singleton (c : CodePoint) : split? [c] = none := by
  by_cases lineFeed : c = '\n'
  · subst lineFeed
    rfl
  · have kept : withoutLineFeed [c] = [c] := by
      simp [withoutLineFeed, lineFeed]
    rw [split?, kept]
    rfl

/-- A mark with letters and digits behind it is read as a code. -/
theorem parse_of_parts (parts : split? literal = some (how, letters)) :
    parse literal = ofCode how letters := by
  unfold parse
  split
  case h_1 c =>
    rw [split?_singleton] at parts
    cases parts
  case h_2 => rw [parts]

/-- A literal is read as a single character or by its mark. -/
theorem parse_eq_ok :
    parse literal = .ok target ↔
      literal = [target] ∧ target.toNat ≤ Text.maxAscii ∨
        ∃ how letters,
          split? literal = some (how, letters) ∧ ofCode how letters = .ok target := by
  unfold parse
  split
  case h_1 c =>
    rw [split?_singleton, List.singleton_inj]
    constructor
    · intro read
      split at read
      case isTrue ascii =>
        cases read
        exact Or.inl ⟨rfl, ascii⟩
      case isFalse => cases read
    · rintro (⟨rfl, ascii⟩ | ⟨_, _, none_, _⟩)
      · rw [if_pos ascii]
      · cases none_
  case h_2 many =>
    constructor
    · intro read
      split at read
      case h_1 how letters parts => exact Or.inr ⟨how, letters, parts, read⟩
      case h_2 => cases read
    · rintro (⟨single, _⟩ | ⟨how, letters, parts, read⟩)
      · exact absurd single (many target)
      · rw [parts]
        exact read

/-- Only ASCII characters are read. -/
theorem toNat_of_parse (parsed : parse literal = .ok target) : target.toNat ≤ Text.maxAscii := by
  rcases parse_eq_ok.mp parsed with ⟨_, ascii⟩ | ⟨_, _, _, coded⟩
  · exact ascii
  · exact (ofCode_eq_ok.mp coded).2

/-- An ASCII character is read as itself. -/
theorem parse_singleton (ascii : target.toNat ≤ Text.maxAscii) : parse [target] = .ok target := by
  rw [parse, if_pos ascii]

/-- A hexadecimal literal whose code takes more decimal digits than are ever written. -/
def HasHugeCode (literal : Text) : Prop :=
  ∃ digits code, split? literal = some (.hexadecimal, digits) ∧
    code? .hexadecimal digits = some code ∧ Nat.pow 10 Numeral.maxDigits ≤ code

/-- The digits of a decimal literal are so few that its code is short. -/
theorem lt_pow_of_decimal {digits : Text} {code : Nat}
    (denotes : code? .decimal digits = some code) : code < Nat.pow 10 Numeral.maxDigits := by
  unfold code? at denotes
  split at denotes
  case h_1 how => cases how
  case h_2 =>
    split at denotes
    case isTrue few => exact Numeral.lt_pow_of_le few (Numeral.ofDigits?_lt denotes)
    case isFalse => cases denotes

theorem ofCode_eq_codeTooLong {how : Radix} {digits : Text} :
    ofCode how digits = .error .codeTooLong ↔
      ∃ code, code? how digits = some code ∧ Nat.pow 10 Numeral.maxDigits ≤ code := by
  unfold ofCode
  split
  case h_1 none_ =>
    constructor
    · intro failed
      cases failed
    · rintro ⟨code, denotes, _⟩
      rw [none_] at denotes
      cases denotes
  case h_2 code denotes =>
    have short : Numeral.isShort code = true ↔ code < Nat.pow 10 Numeral.maxDigits := by
      rw [Numeral.isShort, decide_eq_true_eq, Int.natAbs_natCast]
    constructor
    · intro failed
      split at failed
      case isTrue => cases failed
      case isFalse =>
        split at failed
        case isTrue => cases failed
        case isFalse long => exact ⟨code, denotes, Nat.le_of_not_lt (mt short.mpr long)⟩
    · rintro ⟨other, same, huge⟩
      cases denotes.symm.trans same
      have few : Text.maxAscii < Nat.pow 10 Numeral.maxDigits :=
        Numeral.lt_pow_of_le (by decide : 3 ≤ Numeral.maxDigits) (by decide)
      rw [if_neg (Nat.not_le_of_lt (Nat.lt_of_lt_of_le few huge)),
        if_neg (mt short.mp (Nat.not_lt_of_le huge))]

/-- The one way to fail without a refusal. -/
theorem parse_eq_codeTooLong : parse literal = .error .codeTooLong ↔ HasHugeCode literal := by
  unfold parse HasHugeCode
  split
  case h_1 c =>
    rw [split?_singleton]
    constructor
    · intro failed
      split at failed
      case isTrue => cases failed
      case isFalse => cases failed
    · rintro ⟨_, _, none_, _⟩
      cases none_
  case h_2 =>
    cases parts : split? literal with
    | none => simp
    | some pair =>
      rcases pair with ⟨how, digits⟩
      dsimp only
      rw [ofCode_eq_codeTooLong]
      cases how with
      | hexadecimal => simp
      | decimal =>
        constructor
        · rintro ⟨code, denotes, huge⟩
          exact absurd (lt_pow_of_decimal denotes) (Nat.not_lt_of_le huge)
        · rintro ⟨_, _, other, _⟩
          cases other

end CharTally.Target
