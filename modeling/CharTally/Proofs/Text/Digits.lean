import CharTally.Proofs.Text.Numeral
import Mathlib.Data.List.Forall2
import Mathlib.Data.Nat.Digits.Defs

/-!
# What digits spell

Digits are read from the left, each adding itself to the number so far. `Spells` says from
the outside what is read: the text consists of digits of the base, of which there is one at
least, and the number is their positional value. The two agree on texts of every length, in
every base up to sixteen (`ofDigits?_eq_some`). So digits spell one number only
(`Spells.unique`), and the same in capital letters (`Spells.toUpper`).
-/

namespace CharTally.Numeral

variable {base code d : Nat} {c : CodePoint} {t : Text}

/-- A character is the digit of a base with a value. Letters among the digits are small or
capital. -/
def IsDigit (base : Nat) (c : CodePoint) (d : Nat) : Prop :=
  d < base ∧ (c = d.digitChar ∨ c = d.digitChar.toUpper)

/-- A text consists of digits, of which there is one at least, and a number is their positional
value. -/
def Spells (base : Nat) (t : Text) (code : Nat) : Prop :=
  t ≠ [] ∧ ∃ digits, List.Forall₂ (IsDigit base) t digits ∧
    code = Nat.ofDigits base digits.reverse

/-! ## One digit -/

theorem digit?_toUpper : ∀ d < 16, digit? d.digitChar.toUpper = some d := by decide

/-- What is read as a digit is ASCII. -/
theorem toNat_of_digit? (read : digit? c = some d) : c.toNat < 0x80 := by
  unfold digit? at read
  dsimp only at read
  split at read
  case isTrue range => omega
  case isFalse =>
    split at read
    case isTrue range => omega
    case isFalse =>
      split at read
      case isTrue range => omega
      case isFalse => cases read

/-- Only the digit of a value below sixteen is read as the value. -/
theorem eq_digitChar (read : digit? c = some d) (small : d < 16) :
    c = d.digitChar ∨ c = d.digitChar.toUpper := by
  have everywhere : ∀ code < 0x80, ∀ d < 16, digit? (CodePoint.ofNat code) = some d →
      CodePoint.ofNat code = d.digitChar ∨ CodePoint.ofNat code = d.digitChar.toUpper := by
    decide +kernel
  have here := everywhere c.toNat (toNat_of_digit? read) d small
  rw [CodePoint.ofNat_toNat] at here
  exact here read

theorem digitOf?_eq_some (small : base ≤ 16) : digitOf? base c = some d ↔ IsDigit base c d := by
  rw [digitOf?, Option.filter_eq_some_iff, decide_eq_true_eq]
  constructor
  · rintro ⟨read, below⟩
    exact ⟨below, eq_digitChar read (Nat.lt_of_lt_of_le below small)⟩
  · rintro ⟨below, same⟩
    refine ⟨?_, below⟩
    rcases same with rfl | rfl
    · exact digit?_digitChar d (Nat.lt_of_lt_of_le below small)
    · exact digit?_toUpper d (Nat.lt_of_lt_of_le below small)

/-- A capital letter is the same digit. -/
theorem IsDigit.toUpper (small : base ≤ 16) (isDigit : IsDigit base c d) :
    IsDigit base c.toUpper d := by
  have again : ∀ d < 16, d.digitChar.toUpper.toUpper = d.digitChar.toUpper := by decide
  obtain ⟨below, rfl | rfl⟩ := isDigit
  · exact ⟨below, Or.inr rfl⟩
  · exact ⟨below, Or.inr (congrArg CodePoint.scalar (again d (Nat.lt_of_lt_of_le below small)))⟩

/-! ## Many digits -/

theorem digits?_eq_some (small : base ≤ 16) {digits : List Nat} :
    digits? base t = some digits ↔ List.Forall₂ (IsDigit base) t digits := by
  induction t generalizing digits with
  | nil =>
    rw [digits?, Option.some.injEq, List.forall₂_nil_left_iff]
    exact eq_comm
  | cons c rest ih =>
    rw [digits?, List.forall₂_cons_left_iff]
    constructor
    · intro read
      split at read
      case h_1 d others isDigit areDigits =>
        cases read
        exact ⟨d, others, (digitOf?_eq_some small).mp isDigit, ih.mp areDigits, rfl⟩
      case h_2 => cases read
    · rintro ⟨d, others, isDigit, areDigits, rfl⟩
      rw [(digitOf?_eq_some small).mpr isDigit, ih.mpr areDigits]

/-- Each character of what spells a number is a digit. -/
theorem Spells.exists_isDigit (spells : Spells base t code) (member : c ∈ t) :
    ∃ d, IsDigit base c d := by
  obtain ⟨-, digits, areDigits, -⟩ := spells
  induction areDigits with
  | nil => cases member
  | cons isDigit _ ih =>
    rcases List.mem_cons.mp member with rfl | later
    · exact ⟨_, isDigit⟩
    · exact ih later

/-- Adding digits up from the left gives their positional value. -/
theorem value_eq_ofDigits (base : Nat) (digits : List Nat) :
    value base digits = Nat.ofDigits base digits.reverse := by
  induction digits using List.reverseRecOn with
  | nil => rfl
  | append_singleton digits d ih =>
    rw [value_concat, List.reverse_concat, Nat.ofDigits_cons, ih, Nat.mul_comm, Nat.add_comm]

/-- What is read from a text is what its digits spell. -/
theorem ofDigits?_eq_some (small : base ≤ 16) :
    ofDigits? base t = some code ↔ Spells base t code := by
  unfold ofDigits? Spells
  split
  case isTrue empty =>
    rw [List.isEmpty_iff] at empty
    simp [empty]
  case isFalse nonempty =>
    rw [List.isEmpty_iff] at nonempty
    rw [Option.map_eq_some_iff]
    constructor
    · rintro ⟨digits, areDigits, rfl⟩
      exact ⟨nonempty, digits, (digits?_eq_some small).mp areDigits,
        value_eq_ofDigits base digits⟩
    · rintro ⟨_, digits, areDigits, rfl⟩
      exact ⟨digits, (digits?_eq_some small).mpr areDigits, value_eq_ofDigits base digits⟩

/-- A text of digits spells one number only. -/
theorem Spells.unique {other : Nat} (small : base ≤ 16) (spells : Spells base t code)
    (again : Spells base t other) : code = other := by
  have read := (ofDigits?_eq_some small).mpr spells
  rw [(ofDigits?_eq_some small).mpr again] at read
  exact (Option.some.inj read).symm

/-- Digits spell the same in capital letters. -/
theorem Spells.toUpper (small : base ≤ 16) (spells : Spells base t code) :
    Spells base (t.map CodePoint.toUpper) code := by
  obtain ⟨some_, digits, areDigits, rfl⟩ := spells
  refine ⟨by simpa using some_, digits, ?_, rfl⟩
  rw [List.forall₂_map_left_iff]
  exact areDigits.imp fun _ _ isDigit => isDigit.toUpper small

end CharTally.Numeral
