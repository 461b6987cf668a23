import CharTally.Proofs.Json.Writer
import CharTally.Proofs.Text.Digits

/-!
# Which texts denote integers

`SpellsInteger` is the language of integers in their liberal form, written down without the reader:
spaces, perhaps a sign, digits of any script of which two may have an underscore between them, and
spaces again. The reader accepts exactly this language (`readInteger?_eq_some`). It counts all
digits, zeros in front of the others among them, so that an integer that can be read can also be
written (`SpellsInteger.isShort`).
-/

namespace CharTally

/-- No digit is a space. -/
theorem Text.isSpace_of_decimalDigit? {c : CodePoint} {d : Nat}
    (isDigit : decimalDigit? c = some d) :
    isSpace c = false := by
  have apart : ∀ origin ∈ zeroDigits, ∀ d < 10, inRanges whiteSpace (origin + d) = false := by
    decide +kernel
  obtain ⟨origin, found, rfl⟩ := Option.map_eq_some_iff.mp isDigit
  have range := List.find?_some found
  simp only [Bool.and_eq_true, decide_eq_true_eq] at range
  have here := apart origin (List.mem_of_find?_eq_some found) (c.toNat - origin) (by omega)
  rwa [Nat.add_sub_cancel' range.1] at here

namespace Numeral

variable {c : CodePoint} {t body rest : Text} {digits : List Nat} {negative : Bool} {i : Int}

/-! ## The language -/

/-- Digits of any script, of which two may have an underscore between them. -/
inductive Grouped : Text → List Nat → Prop
  | last {c : CodePoint} {d : Nat} (isDigit : Text.decimalDigit? c = some d) : Grouped [c] [d]
  | next {c : CodePoint} {d : Nat} {t : Text} {digits : List Nat}
      (isDigit : Text.decimalDigit? c = some d) (others : Grouped t digits) :
      Grouped (c :: t) (d :: digits)
  | apart {c : CodePoint} {d : Nat} {t : Text} {digits : List Nat}
      (isDigit : Text.decimalDigit? c = some d) (others : Grouped t digits) :
      Grouped (c :: '_' :: t) (d :: digits)

/-- What may stand in front of the digits, and whether it makes the integer negative. -/
inductive IsSign : Text → Bool → Prop
  | bare : IsSign [] false
  | plus : IsSign ['+'] false
  | minus : IsSign ['-'] true

/-- A text spells an integer. -/
inductive SpellsInteger : Text → Int → Prop
  | spelled {front mark body back : Text} {digits : List Nat} {negative : Bool} {n : Nat}
      (inFront : Only Text.isSpace front) (isSign : IsSign mark negative)
      (grouped : Grouped body digits) (few : digits.length ≤ 4300)
      (denotes : n = Nat.ofDigits 10 digits.reverse) (behind : Only Text.isSpace back) :
      SpellsInteger (front ++ (mark ++ body) ++ back) (if negative then -(n : Int) else n)

/-! ## Digits in groups -/

/-- What may stand behind a digit: nothing, further digits, or an underscore and further digits. -/
def Follows (t : Text) (digits : List Nat) : Prop :=
  t = [] ∧ digits = [] ∨ Grouped t digits ∨ ∃ rest, t = scalar '_' :: rest ∧ Grouped rest digits

theorem grouped_cons :
    Grouped (c :: t) digits ↔
      ∃ d others, Text.decimalDigit? c = some d ∧ digits = d :: others ∧ Follows t others := by
  constructor
  · intro grouped
    cases grouped with
    | last isDigit => exact ⟨_, _, isDigit, rfl, Or.inl ⟨rfl, rfl⟩⟩
    | next isDigit others => exact ⟨_, _, isDigit, rfl, Or.inr (Or.inl others)⟩
    | apart isDigit others => exact ⟨_, _, isDigit, rfl, Or.inr (Or.inr ⟨_, rfl, others⟩)⟩
  · rintro ⟨d, others, isDigit, rfl, ⟨rfl, rfl⟩ | grouped | ⟨rest, rfl, grouped⟩⟩
    · exact .last isDigit
    · exact .next isDigit grouped
    · exact .apart isDigit grouped

/-- An underscore is no digit. -/
theorem not_grouped_underscore : ¬ Grouped ('_' :: t) digits := by
  rw [grouped_cons]
  rintro ⟨d, _, isDigit, _⟩
  have noDigit : Text.decimalDigit? '_' = none := by decide
  cases noDigit.symm.trans isDigit

theorem Grouped.begins (grouped : Grouped t digits) :
    ∃ c d, t.head? = some c ∧ Text.decimalDigit? c = some d := by
  cases grouped with
  | last isDigit => exact ⟨_, _, rfl, isDigit⟩
  | next isDigit _ => exact ⟨_, _, rfl, isDigit⟩
  | apart isDigit _ => exact ⟨_, _, rfl, isDigit⟩

theorem Grouped.ends (grouped : Grouped t digits) :
    ∃ c d, t.getLast? = some c ∧ Text.decimalDigit? c = some d := by
  induction grouped with
  | last isDigit => exact ⟨_, _, rfl, isDigit⟩
  | next _ _ ih =>
    obtain ⟨c, d, isLast, isDigit⟩ := ih
    exact ⟨c, d, by rw [List.getLast?_cons, isLast]; rfl, isDigit⟩
  | apart _ _ ih =>
    obtain ⟨c, d, isLast, isDigit⟩ := ih
    exact ⟨c, d, by rw [List.getLast?_cons, List.getLast?_cons, isLast]; rfl, isDigit⟩

theorem Grouped.digit_lt (grouped : Grouped t digits) : ∀ d ∈ digits, d < 10 := by
  induction grouped with
  | last isDigit => simpa using Text.decimalDigit?_lt isDigit
  | next isDigit _ ih => exact List.forall_mem_cons.mpr ⟨Text.decimalDigit?_lt isDigit, ih⟩
  | apart isDigit _ ih => exact List.forall_mem_cons.mpr ⟨Text.decimalDigit?_lt isDigit, ih⟩

/-- The digits in groups are read, and those that go on behind a digit. -/
theorem grouped?_iff (t : Text) :
    ∀ digits, (grouped? false t = some digits ↔ Grouped t digits) ∧
      (grouped? true t = some digits ↔ Follows t digits) := by
  induction t with
  | nil =>
    intro digits
    refine ⟨iff_of_false (fun read => nomatch read) (fun grouped => nomatch grouped), ?_⟩
    constructor
    · intro read
      cases read
      exact Or.inl ⟨rfl, rfl⟩
    · rintro (⟨_, rfl⟩ | grouped | ⟨_, same, _⟩)
      · rfl
      · cases grouped
      · cases same
  | cons c rest ih =>
    intro digits
    by_cases underscore : c = '_'
    · subst underscore
      refine ⟨iff_of_false (fun read => nomatch read) not_grouped_underscore, ?_⟩
      rw [grouped?, if_pos rfl, if_pos rfl, (ih digits).1]
      constructor
      · exact fun grouped => Or.inr (Or.inr ⟨rest, rfl, grouped⟩)
      · rintro (⟨none_, _⟩ | grouped | ⟨_, same, grouped⟩)
        · cases none_
        · exact absurd grouped not_grouped_underscore
        · cases same
          exact grouped
    · -- Any other character has to be a digit, whatever stands in front of it.
      have read (afterDigit : Bool) :
          grouped? afterDigit (c :: rest) = some digits ↔ Grouped (c :: rest) digits := by
        rw [grouped?, if_neg underscore, grouped_cons]
        constructor
        · intro read
          split at read
          case h_1 d others isDigit goesOn =>
            cases read
            exact ⟨d, others, isDigit, rfl, (ih others).2.mp goesOn⟩
          case h_2 => cases read
        · rintro ⟨d, others, isDigit, rfl, follows⟩
          rw [isDigit, (ih others).2.mpr follows]
      refine ⟨read false, (read true).trans ?_⟩
      constructor
      · exact fun grouped => Or.inr (Or.inl grouped)
      · rintro (⟨none_, _⟩ | grouped | ⟨_, same, _⟩)
        · cases none_
        · exact grouped
        · exact absurd (List.cons.inj same).1 underscore

/-! ## Signs -/

/-- Every text is a sign and what follows it. -/
theorem isSign_sign (t : Text) : ∃ mark, IsSign mark (sign t).1 ∧ t = mark ++ (sign t).2 := by
  unfold sign
  split
  · exact ⟨_, .minus, rfl⟩
  · exact ⟨_, .plus, rfl⟩
  · exact ⟨[], .bare, rfl⟩

/-- A sign in front of digits is taken off. -/
theorem sign_of_isSign {mark : Text} (isSign : IsSign mark negative)
    (grouped : Grouped body digits) : sign (mark ++ body) = (negative, body) := by
  cases isSign with
  | plus => rfl
  | minus => rfl
  | bare =>
    have noDigit : Text.decimalDigit? '-' = none ∧ Text.decimalDigit? '+' = none := by decide
    obtain ⟨c, d, begins, isDigit⟩ := grouped.begins
    rw [List.nil_append]
    unfold sign
    split
    case h_1 =>
      cases begins
      cases noDigit.1.symm.trans isDigit
    case h_2 =>
      cases begins
      cases noDigit.2.symm.trans isDigit
    case h_3 => rfl

/-- A sign is no space, and neither are the digits behind it. -/
theorem isSpace_of_isSign {mark : Text} (isSign : IsSign mark negative)
    (grouped : Grouped body digits) :
    (∀ c ∈ (mark ++ body).head?, Text.isSpace c = false) ∧
      ∀ c ∈ (mark ++ body).getLast?, Text.isSpace c = false := by
  constructor
  · intro c isHead
    cases isSign with
    | bare =>
      obtain ⟨other, d, begins, isDigit⟩ := grouped.begins
      cases begins.symm.trans isHead
      exact Text.isSpace_of_decimalDigit? isDigit
    | plus => cases isHead; decide
    | minus => cases isHead; decide
  · intro c isLast
    obtain ⟨other, d, ends, isDigit⟩ := grouped.ends
    rw [List.getLast?_append, ends] at isLast
    cases isLast
    exact Text.isSpace_of_decimalDigit? isDigit

/-! ## Integers -/

/-- **The language of integers.** A text is read as an integer exactly if it spells it. -/
theorem readInteger?_eq_some : readInteger? t = some i ↔ SpellsInteger t i := by
  constructor
  · intro read
    obtain ⟨front, back, inFront, behind, whole⟩ := Text.exists_trimmed Text.isSpace t
    obtain ⟨mark, isSign, parts⟩ := isSign_sign (Text.trim Text.isSpace t)
    rw [parts] at whole
    rw [readInteger?] at read
    generalize sign (Text.trim Text.isSpace t) = signed at isSign parts whole read
    obtain ⟨negative, body⟩ := signed
    dsimp only at read whole isSign
    split at read
    case h_1 => cases read
    case h_2 digits grouped =>
      split at read
      case isTrue few =>
        cases read
        rw [whole]
        exact .spelled inFront isSign ((grouped?_iff body digits).1.mp grouped) few
          (value_eq_ofDigits 10 digits) behind
      case isFalse => cases read
  · intro spells
    cases spells with
    | @spelled front mark body back digits negative n inFront isSign grouped few denotes behind =>
      obtain ⟨begins, ends⟩ := isSpace_of_isSign isSign grouped
      have enough : digits.length ≤ maxDigits := few
      rw [readInteger?, Text.trim_between inFront behind begins ends,
        sign_of_isSign isSign grouped]
      dsimp only
      rw [(grouped?_iff body digits).1.mpr grouped]
      dsimp only
      rw [if_pos enough, value_eq_ofDigits, ← denotes]

/-- An integer that is spelled can be written. -/
theorem SpellsInteger.isShort (spells : SpellsInteger t i) : isShort i = true := by
  cases spells with
  | @spelled _ _ _ _ digits negative n _ _ grouped few denotes _ =>
    have small : n < Nat.pow 10 maxDigits := by
      rw [denotes, ← value_eq_ofDigits]
      exact lt_pow_of_le few (value_lt grouped.digit_lt)
    have size : (if negative then -(n : Int) else n).natAbs = n := by
      cases negative with
      | true => exact (Int.natAbs_neg n).trans (Int.natAbs_natCast n)
      | false => exact Int.natAbs_natCast n
    rw [Numeral.isShort, size]
    exact decide_eq_true small

end Numeral

end CharTally
