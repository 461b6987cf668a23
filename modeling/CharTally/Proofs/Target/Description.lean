import CharTally.Ledger
import CharTally.Proofs.Target.Grammar
import CharTally.Proofs.Text.Boundary

/-!
# What a description tells

A character is described by itself if it is visible, and otherwise by a literal with the digits of
its code (`describe_cases`). So a description is read as the character as far as targets reach
(`reading_describe_of_ascii`), and refused as a literal beyond them
(`reading_describe_of_beyond`); and it is a description of one character only (`describe_inj`),
alone or in a line of the audit trail (`auditDetail_inj`).
-/

namespace CharTally

namespace Target

variable {c d : CodePoint}

/-- A visible character is its own description, and any other is described by a literal that spells
its code. -/
theorem describe_cases (c : CodePoint) :
    isVisible c = true ∧ describe c = [c] ∨
      isVisible c = false ∧
        ∃ digits, describe c = scalar 'x' :: digits ∧ Numeral.Spells 16 digits c.toNat := by
  cases visible : isVisible c with
  | true => exact Or.inl ⟨rfl, by rw [describe, if_pos visible]⟩
  | false =>
    have spells := (Numeral.ofDigits?_eq_some (Nat.le_refl 16)).mp
      (Numeral.ofDigits?_padded (by decide) (Nat.le_refl 16) 2 c.toNat)
    refine Or.inr ⟨rfl, _, ?_, spells.toUpper (Nat.le_refl 16)⟩
    rw [describe, if_neg (ne_true_of_eq_false visible)]

/-! ## Reading a description -/

/-- The description of a target is read as the target. -/
theorem reading_describe_of_ascii (ascii : c.toNat ≤ Text.maxAscii) :
    reading (describe c) = .ok c := by
  have parsed : parse (describe c) = .ok c := by
    rcases describe_cases c with ⟨_, itself⟩ | ⟨_, digits, literal, spells⟩
    · rw [itself, parse_singleton ascii]
    · have denotes := Denotes.hexadecimal (Or.inl rfl) (Or.inl rfl) spells (Or.inl rfl) ascii
      rw [List.nil_append, List.append_nil] at denotes
      rw [literal, parse_of_denotes denotes]
  rw [reading, parsed]
  rfl

/-- A literal of digits is refused with its code, if this is beyond the targets. -/
theorem parse_of_beyond {mark : CodePoint} {digits : Text} {code : Nat}
    (isMark : mark = 'x' ∨ mark = 'X')
    (spells : Numeral.Spells 16 digits code) (beyond : Text.maxAscii < code)
    (short : Numeral.isShort code = true) :
    parse (mark :: digits) = .error (.refused (.outOfRange .hexadecimal code)) := by
  have parts : split? (mark :: digits) = some (.hexadecimal, digits) := by
    refine split?_eq_some.mpr ⟨spells.1, isAlphanumeric_of_spells (Nat.le_refl 16) spells,
      mark, [], isMark, Or.inl rfl, ?_⟩
    rw [List.append_nil]
  have found : code? .hexadecimal digits = some code :=
    code?_hexadecimal_eq_some.mpr ⟨[], digits, rfl, Or.inl rfl, spells⟩
  rw [parse_of_parts parts, ofCode, found]
  dsimp only
  rw [if_neg (Nat.not_le.mpr beyond), if_pos short]

/-- The description of any other character is refused, with its code. -/
theorem reading_describe_of_beyond (beyond : Text.maxAscii < c.toNat) :
    reading (describe c) =
      .error (.reported (.target (describe c) (.outOfRange .hexadecimal c.toNat))) := by
  rcases describe_cases c with ⟨visible, _⟩ | ⟨_, digits, literal, spells⟩
  · simp only [isVisible, Bool.and_eq_true, decide_eq_true_eq] at visible
    omega
  · rw [reading, literal, parse_of_beyond (Or.inl rfl) spells beyond (Numeral.isShort_code c)]
    rfl

/-! ## What is described -/

/-- A description is a description of one character only. -/
theorem describe_inj : describe c = describe d ↔ c = d := by
  constructor
  · intro same
    rcases describe_cases c with ⟨_, itself⟩ | ⟨_, digits, literal, spells⟩
    · rcases describe_cases d with ⟨_, itself'⟩ | ⟨_, digits', literal', spells'⟩
      · rw [itself, itself'] at same
        exact List.singleton_inj.mp same
      · -- a character by itself has no digits behind it
        rw [itself, literal'] at same
        exact absurd (List.cons.inj same).2.symm spells'.1
    · rcases describe_cases d with ⟨_, itself'⟩ | ⟨_, digits', literal', spells'⟩
      · rw [literal, itself'] at same
        exact absurd (List.cons.inj same).2 spells.1
      · rw [literal, literal'] at same
        rw [(List.cons.inj same).2] at spells
        exact CodePoint.toNat_inj.mp (spells.unique (Nat.le_refl 16) spells')
  · rintro rfl
    rfl

end Target

namespace Ledger

/-- Whatever stands for the target, a line of the audit trail is about one scan only: it shows its
number in front of a space, and its count behind the last equals sign. -/
theorem auditDetail_inj {id id' : Nat} {shown shown' : Text} {count count' : Int} :
    auditDetail id shown count = auditDetail id' shown' count' ↔
      id = id' ∧ shown = shown' ∧ count = count' := by
  constructor
  · intro same
    have sign (t : Text) : ∀ c ∈ (t ++ (" count=" : Text)).getLast?, Json.isMark c = false := by
      intro c isLast
      have equals : (t ++ (" count=" : Text)).getLast? = some '=' := by
        rw [List.getLast?_append]
        rfl
      rw [equals] at isLast
      rw [← Option.some.inj isLast]
      rfl
    obtain ⟨front, counts⟩ := Text.append_inj_of_only_behind (Numeral.only_ofInt count)
      (Numeral.only_ofInt count') (sign _) (sign _) same
    have numbered := List.append_cancel_right front
    rw [List.append_assoc, List.append_assoc, List.append_assoc, List.append_assoc] at numbered
    have space (t : Text) : ∀ c ∈ ((" target=" : Text) ++ t).head?, c.isDigit = false := by
      intro c isHead
      rw [← Option.some.inj isHead]
      rfl
    obtain ⟨ids, targets⟩ := Numeral.decimal_append_inj (space shown) (space shown')
      (List.append_cancel_left numbered)
    exact ⟨ids, List.append_cancel_left targets, Numeral.ofInt_inj.mp counts⟩
  · rintro ⟨rfl, rfl, rfl⟩
    rfl

end Ledger

namespace Target

/-- **Descriptions are unambiguous.** The description of an ASCII character is read as this
character, and that of any other is refused as a fault of the input. Two characters have the same
description only if they are the same, and two lines of the audit trail are the same only if they
are about the same number, the same character and the same count. -/
theorem descriptions_unambiguous :
    (∀ c, c.toNat ≤ 0x7F ∧ reading (describe c) = .ok c ∨
        0x7F < c.toNat ∧ ∃ fault, reading (describe c) = .error (.reported fault) ∧
          fault.code = .input) ∧
      (∀ c d, describe c = describe d ↔ c = d) ∧
      ∀ (id id' : Nat) (c d : CodePoint) (count count' : Int),
        Ledger.auditDetail id (describe c) count = Ledger.auditDetail id' (describe d) count' ↔
          id = id' ∧ c = d ∧ count = count' := by
  refine ⟨?_, fun _ _ => describe_inj, ?_⟩
  · intro c
    rcases Nat.lt_or_ge 0x7F c.toNat with beyond | ascii
    · exact Or.inr ⟨beyond, _, reading_describe_of_beyond beyond, rfl⟩
    · exact Or.inl ⟨ascii, reading_describe_of_ascii ascii⟩
  · intro id id' c d count count'
    rw [Ledger.auditDetail_inj, describe_inj]

/-- The letter of the mark describes itself, and the delete character is described with it. -/
example : describe 'x' = "x" ∧ describe '\x7f' = "x7F" ∧ describe 'é' = "xE9" := by decide

end Target

end CharTally
