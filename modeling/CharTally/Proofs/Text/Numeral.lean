import CharTally.Proofs.Text.Lines
import CharTally.Text.Numeral
import Mathlib.Data.List.Induction

/-!
# Numerals read back

Numerals are written by division with remainder and read by Horner's rule.
`ofDigits?_numeral` says that the second undoes the first in every base up to
sixteen, and `ofDigits?_padded` that zeros in front make no difference, while zeros
behind multiply what is read (`ofDigits?_append_zeros`). A padded
numeral of a number that fits has exactly its width (`length_padded`), and a
decimal numeral begins with a zero only if it is the zero (`decimal_of_pos`). What
is read from so many digits is below that power of the base (`ofDigits?_lt`). The
liberal form of reading takes the numeral of an integer for the same integer, unless it
is too long (`readInteger?_ofInt`).
-/

namespace CharTally.Numeral

variable {base width n : Nat} {c : CodePoint} {s t : Text} {high low : List Nat}

/-! ## Digits -/

theorem digit?_digitChar : ∀ d < 16, digit? d.digitChar = some d := by decide

theorem digitOf?_digitChar {d : Nat} (small : base ≤ 16) (isDigit : d < base) :
    digitOf? base d.digitChar = some d := by
  rw [digitOf?, digit?_digitChar d (Nat.lt_of_lt_of_le isDigit small)]
  simp [isDigit]

theorem digitOf?_zero (large : 1 < base) : digitOf? base '0' = some 0 := by
  have known : digit? '0' = some 0 := by decide
  rw [digitOf?, known]
  simp [Nat.lt_of_succ_lt large]

theorem digits?_append (first : digits? base s = some high) (second : digits? base t = some low) :
    digits? base (s ++ t) = some (high ++ low) := by
  induction s generalizing high with
  | nil =>
    cases first
    exact second
  | cons c rest ih =>
    rw [digits?] at first
    rw [List.cons_append, digits?]
    cases value : digitOf? base c with
    | none => rw [value] at first; cases first
    | some d =>
      cases values : digits? base rest with
      | none => rw [value, values] at first; cases first
      | some ds =>
        rw [value, values] at first
        cases first
        rw [ih values]
        rfl

theorem value_concat (base : Nat) (digits : List Nat) (d : Nat) :
    value base (digits ++ [d]) = value base digits * base + d := by
  rw [value, List.foldl_append]
  rfl

theorem value_cons_zero (base : Nat) (digits : List Nat) :
    value base (0 :: digits) = value base digits := by
  rw [value, List.foldl_cons, Nat.zero_mul]
  rfl

/-! ## Bounds of what is read -/

/-- The digits that are read are as many as the characters, and digits of the base. -/
theorem digits?_bounds {digits : List Nat} (read : digits? base t = some digits) :
    digits.length = t.length ∧ ∀ d ∈ digits, d < base := by
  induction t generalizing digits with
  | nil =>
    cases read
    exact ⟨rfl, List.forall_mem_nil _⟩
  | cons c rest ih =>
    rw [digits?] at read
    split at read
    case h_1 d others isDigit areDigits =>
      cases read
      rcases ih areDigits with ⟨length, small⟩
      have first : d < base := by
        rw [digitOf?, Option.filter_eq_some_iff] at isDigit
        exact of_decide_eq_true isDigit.2
      exact ⟨congrArg (· + 1) length, List.forall_mem_cons.mpr ⟨first, small⟩⟩
    case h_2 => cases read

theorem value_lt {digits : List Nat} (small : ∀ d ∈ digits, d < base) :
    value base digits < Nat.pow base digits.length := by
  induction digits using List.reverseRecOn with
  | nil => exact Nat.zero_lt_one
  | append_singleton digits d ih =>
    rcases List.forall_mem_append.mp small with ⟨front, last⟩
    have below : d < base := last d (List.mem_singleton_self d)
    rw [value_concat, List.length_append, List.length_singleton]
    calc value base digits * base + d
        < value base digits * base + base := Nat.add_lt_add_left below _
      _ = (value base digits + 1) * base := (Nat.succ_mul _ _).symm
      _ ≤ Nat.pow base digits.length * base := Nat.mul_le_mul_right base (ih front)
      _ = Nat.pow base (digits.length + 1) := rfl

theorem ofDigits?_lt (read : ofDigits? base t = some n) : n < Nat.pow base t.length := by
  unfold ofDigits? at read
  split at read
  case isTrue => cases read
  case isFalse =>
    rcases Option.map_eq_some_iff.mp read with ⟨digits, areDigits, rfl⟩
    rcases digits?_bounds areDigits with ⟨length, small⟩
    rw [← length]
    exact value_lt small

/-! ## Writing -/

/-- A numeral goes on by its last digit. -/
theorem numeral_eq_if (large : 1 < base) (n : Nat) :
    numeral base n =
      if n < base then [.scalar n.digitChar]
      else numeral base (n / base) ++ [.scalar (n % base).digitChar] := by
  rw [numeral, Nat.toDigits_eq_if large]
  split
  case isTrue => rfl
  case isFalse =>
    rw [List.map_append]
    rfl

theorem numeral_ne_nil : numeral base n ≠ [] := by
  rw [numeral, ne_eq, List.map_eq_nil_iff]
  exact Nat.toDigits_ne_nil

theorem length_numeral_le_iff {digits : Nat} (large : 1 < base) (positive : 0 < digits) :
    (numeral base n).length ≤ digits ↔ n < Nat.pow base digits := by
  rw [numeral, List.length_map]
  exact Nat.length_toDigits_le_iff large positive

theorem length_numeral_pos : 0 < (numeral base n).length :=
  List.length_pos_of_ne_nil numeral_ne_nil

/-! ## Reading what was written -/

/-- The digits of a number, read one by one, denote it. -/
theorem digits?_numeral (large : 1 < base) (small : base ≤ 16) (n : Nat) :
    ∃ digits, digits? base (numeral base n) = some digits ∧ value base digits = n := by
  induction n using Nat.strongRecOn with
  | ind n ih =>
    by_cases single : n < base
    · refine ⟨[n], ?_, ?_⟩
      · rw [numeral_eq_if large, if_pos single, digits?, digitOf?_digitChar small single]
        rfl
      · rw [value]
        simp
    · have positive : 0 < n := by omega
      obtain ⟨digits, read, denotes⟩ := ih (n / base) (Nat.div_lt_self positive large)
      have last : n % base < base := Nat.mod_lt n (by omega)
      have lastRead : digits? base [.scalar (n % base).digitChar] = some [n % base] := by
        rw [digits?, digitOf?_digitChar small last]
        rfl
      refine ⟨digits ++ [n % base], ?_, ?_⟩
      · rw [numeral_eq_if large, if_neg single]
        exact digits?_append read lastRead
      · rw [value_concat, denotes, Nat.mul_comm]
        exact Nat.div_add_mod n base

/-- Reading undoes writing. -/
theorem ofDigits?_numeral (large : 1 < base) (small : base ≤ 16) (n : Nat) :
    ofDigits? base (numeral base n) = some n := by
  obtain ⟨digits, read, denotes⟩ := digits?_numeral large small n
  rw [ofDigits?, read, Option.map_some, denotes]
  simp [numeral_ne_nil]

/-- Zeros in front of a numeral make no difference. -/
theorem ofDigits?_zeros (large : 1 < base) (zeros : Nat) (nonempty : t ≠ []) :
    ofDigits? base (List.replicate zeros (scalar '0') ++ t) = ofDigits? base t := by
  induction zeros with
  | zero => rfl
  | succ zeros ih =>
    rw [← ih, List.replicate_succ, List.cons_append]
    have still : (List.replicate zeros (scalar '0') ++ t).isEmpty = false := by
      simp [nonempty]
    rw [ofDigits?, ofDigits?, still, digits?, digitOf?_zero large]
    cases digits? base (List.replicate zeros (scalar '0') ++ t) with
    | none => rfl
    | some digits => simp [value_cons_zero]

theorem ofDigits?_padded (large : 1 < base) (small : base ≤ 16) (width n : Nat) :
    ofDigits? base (padded base width n) = some n := by
  rw [padded, ofDigits?_zeros large _ numeral_ne_nil, ofDigits?_numeral large small]

/-- Zeros behind a numeral multiply what it denotes. -/
theorem ofDigits?_append_zeros (large : 1 < base) (read : ofDigits? base t = some n) (zeros : Nat) :
    ofDigits? base (t ++ List.replicate zeros (scalar '0')) = some (n * Nat.pow base zeros) := by
  have zero : digits? base [scalar '0'] = some [0] := by
    rw [digits?, digitOf?_zero large]
    rfl
  unfold ofDigits? at read ⊢
  split at read
  case isTrue => cases read
  case isFalse some_ =>
    obtain ⟨digits, areDigits, rfl⟩ := Option.map_eq_some_iff.mp read
    have all : ∃ more, digits? base (t ++ List.replicate zeros (scalar '0')) = some more ∧
        value base more = value base digits * Nat.pow base zeros := by
      induction zeros with
      | zero =>
        refine ⟨digits, ?_, (Nat.mul_one _).symm⟩
        rw [List.replicate_zero, List.append_nil, areDigits]
      | succ zeros ih =>
        obtain ⟨more, areMore, denotes⟩ := ih
        refine ⟨more ++ [0], ?_, ?_⟩
        · rw [List.replicate_succ', ← List.append_assoc]
          exact digits?_append areMore zero
        · rw [value_concat, denotes, Nat.add_zero, Nat.mul_assoc]
          rfl
    obtain ⟨more, areMore, denotes⟩ := all
    have filled : ¬ (t ++ List.replicate zeros (scalar '0')).isEmpty = true := by
      rw [List.isEmpty_iff] at some_ ⊢
      exact List.append_ne_nil_of_left_ne_nil some_ _
    rw [if_neg filled, areMore, Option.map_some, denotes]

/-- A numeral is filled up to its width. -/
theorem length_padded (large : 1 < base) (positive : 0 < width) (fits : n < Nat.pow base width) :
    (padded base width n).length = width := by
  have short := (length_numeral_le_iff large positive).mpr fits
  rw [padded, List.length_append, List.length_replicate]
  omega

/-! ## What numerals consist of -/

theorem exists_digitChar_of_mem_numeral (large : 1 < base) (member : c ∈ numeral base n) :
    ∃ d < base, c = d.digitChar := by
  induction n using Nat.strongRecOn with
  | ind n ih =>
    rw [numeral_eq_if large] at member
    split at member
    case isTrue single =>
      exact ⟨n, single, List.mem_singleton.mp member⟩
    case isFalse long =>
      rcases List.mem_append.mp member with front | last
      · exact ih (n / base) (Nat.div_lt_self (by omega) large) front
      · exact ⟨n % base, Nat.mod_lt n (by omega), List.mem_singleton.mp last⟩

theorem isDigit_of_mem_decimal (member : c ∈ decimal n) : c.isDigit = true := by
  obtain ⟨d, small, rfl⟩ := exists_digitChar_of_mem_numeral (by omega) member
  exact (by decide : ∀ d < 10, CodePoint.isDigit d.digitChar = true) d small

theorem exists_digitChar_of_mem_padded (large : 1 < base) (member : c ∈ padded base width n) :
    ∃ d < base, c = d.digitChar := by
  rcases List.mem_append.mp member with zero | digit
  · refine ⟨0, by omega, ?_⟩
    rw [List.eq_of_mem_replicate zero]
    rfl
  · exact exists_digitChar_of_mem_numeral large digit

/-- The numeral of a positive number begins with a digit other than zero. -/
theorem decimal_of_pos (positive : 0 < n) :
    ∃ d rest, 0 < d ∧ d < 10 ∧ decimal n = d.digitChar :: rest := by
  induction n using Nat.strongRecOn with
  | ind n ih =>
    rw [decimal, numeral_eq_if (by omega)]
    split
    case isTrue single => exact ⟨n, [], positive, single, rfl⟩
    case isFalse long =>
      obtain ⟨d, rest, nonzero, isDigit, front⟩ := ih (n / 10) (by omega) (by omega)
      rw [decimal] at front
      rw [front]
      exact ⟨d, rest ++ [.scalar (n % 10).digitChar], nonzero, isDigit, rfl⟩

theorem ofInt_ne_nil (i : Int) : ofInt i ≠ [] := by
  cases i with
  | ofNat n =>
    exact numeral_ne_nil
  | negSucc n => exact List.cons_ne_nil _ _

theorem length_decimal_le {digits : Nat} (positive : 0 < digits) (small : n < Nat.pow 10 digits) :
    (decimal n).length ≤ digits :=
  (length_numeral_le_iff (by omega) positive).mpr small

/-- A number lies below the power of ten with as many zeros as it has digits. -/
theorem lt_pow_length_decimal (n : Nat) : n < Nat.pow 10 (decimal n).length :=
  (length_numeral_le_iff (by omega) length_numeral_pos).mp Nat.le.refl

/-- A positive number is at least the power of ten that has as many digits. -/
theorem pow_length_decimal_le (positive : 0 < n) : Nat.pow 10 ((decimal n).length - 1) ≤ n := by
  by_cases single : (decimal n).length ≤ 1
  · have none_ : (decimal n).length - 1 = 0 := by omega
    rw [none_]
    exact positive
  · refine Nat.le_of_not_lt fun below => ?_
    have fewer := length_decimal_le (by omega : 0 < (decimal n).length - 1) below
    omega

/-- The numeral of a short integer is no longer than numerals may be. -/
theorem length_decimal_of_isShort {i : Int} (short : isShort i = true) :
    (decimal i.natAbs).length ≤ maxDigits :=
  length_decimal_le (by decide) (of_decide_eq_true short)

theorem lt_pow_of_le {digits more : Nat} (few : digits ≤ more) (small : n < Nat.pow 10 digits) :
    n < Nat.pow 10 more :=
  Nat.lt_of_lt_of_le small (Nat.pow_le_pow_right (by omega) few)

/-- An integer of few digits is short. -/
theorem isShort_of_lt {i : Int} {digits : Nat} (few : digits ≤ maxDigits)
    (small : i.natAbs < Nat.pow 10 digits) : isShort i = true :=
  decide_eq_true (lt_pow_of_le few small)

/-- The code of a character is short enough to be written. -/
theorem isShort_code (c : CodePoint) : isShort c.toNat = true := by
  have valid := c.toNat_lt
  have bound : Nat.pow 10 7 = 10000000 := by decide
  refine isShort_of_lt (by decide : 7 ≤ maxDigits) ?_
  rw [Int.natAbs_natCast, bound]
  omega

/-! ## Reading in the liberal form -/

/-- A written digit is a digit among those of all scripts, and nothing else. -/
theorem decimalDigit?_digitChar : ∀ d < 10, Text.decimalDigit? d.digitChar = some d ∧
    Text.isSpace d.digitChar = false ∧ CodePoint.scalar d.digitChar ≠ '_' ∧
    CodePoint.scalar d.digitChar ≠ '-' ∧ CodePoint.scalar d.digitChar ≠ '+' := by
  decide

/-- Written digits are read alike in both forms. -/
theorem exists_grouped (areDigits : ∀ c ∈ t, ∃ d < 10, c = d.digitChar) (afterDigit : Bool)
    (begun : t = [] → afterDigit = true) :
    ∃ digits, digits? 10 t = some digits ∧ grouped? afterDigit t = some digits := by
  induction t generalizing afterDigit with
  | nil =>
    refine ⟨[], rfl, ?_⟩
    rw [grouped?, if_pos (begun rfl)]
  | cons c rest ih =>
    obtain ⟨first, others⟩ := List.forall_mem_cons.mp areDigits
    obtain ⟨d, small, rfl⟩ := first
    obtain ⟨isDigit, _, noUnderscore, _, _⟩ := decimalDigit?_digitChar d small
    obtain ⟨digits, read, grouped⟩ := ih others true fun _ => rfl
    refine ⟨d :: digits, ?_, ?_⟩
    · rw [digits?, digitOf?_digitChar (by decide) small, read]
    · rw [grouped?, if_neg noUnderscore, isDigit, grouped]

/-- A decimal numeral begins with a digit. -/
theorem exists_decimal_cons (n : Nat) : ∃ d < 10, ∃ rest, decimal n = d.digitChar :: rest := by
  rcases Nat.eq_zero_or_pos n with rfl | positive
  · exact ⟨0, by decide, [], rfl⟩
  · obtain ⟨d, rest, _, small, front⟩ := decimal_of_pos positive
    exact ⟨d, small, rest, front⟩

theorem sign_decimal (n : Nat) : sign (decimal n) = (false, decimal n) := by
  obtain ⟨d, small, rest, front⟩ := exists_decimal_cons n
  obtain ⟨_, _, _, noMinus, noPlus⟩ := decimalDigit?_digitChar d small
  rw [front]
  unfold sign
  split
  case h_1 same => exact absurd (List.cons.inj same).1 noMinus
  case h_2 same => exact absurd (List.cons.inj same).1 noPlus
  case h_3 => rfl

/-- Reading takes the sign of an integer off its numeral. -/
theorem sign_ofInt (i : Int) : sign (ofInt i) = (decide (i < 0), decimal i.natAbs) := by
  cases i with
  | ofNat n =>
    have notNegative : ¬ Int.ofNat n < 0 := Int.not_lt.mpr (Int.natCast_nonneg n)
    rw [decide_eq_false notNegative]
    exact sign_decimal n
  | negSucc n =>
    rw [decide_eq_true (Int.negSucc_lt_zero n)]
    rfl

/-- An integer is its magnitude with its sign. -/
theorem signed_natAbs (i : Int) :
    (if decide (i < 0) = true then -(i.natAbs : Int) else i.natAbs) = i := by
  by_cases negative : i < 0
  · rw [if_pos (decide_eq_true negative), Int.ofNat_natAbs_of_nonpos (Int.le_of_lt negative),
      Int.neg_neg]
  · rw [if_neg (by simpa using negative), Int.natAbs_of_nonneg (Int.not_lt.mp negative)]

/-- There is nothing to trim from a numeral. -/
theorem trim_ofInt (i : Int) : Text.trim Text.isSpace (ofInt i) = ofInt i := by
  have digits (n : Nat) : ∀ c ∈ decimal n, Text.isSpace c = false := by
    intro c member
    obtain ⟨d, small, rfl⟩ := exists_digitChar_of_mem_numeral (by decide) member
    exact (decimalDigit?_digitChar d small).2.1
  apply Text.trim_of_none
  cases i with
  | ofNat n => exact digits n
  | negSucc n => exact List.forall_mem_cons.mpr ⟨by decide, digits (n + 1)⟩

/-- The digits of a numeral are read, one for each character. -/
theorem exists_grouped_decimal (n : Nat) :
    ∃ digits, grouped? false (decimal n) = some digits ∧
      digits.length = (decimal n).length ∧ value 10 digits = n := by
  have areDigits : ∀ c ∈ decimal n, ∃ d < 10, c = d.digitChar := fun c member =>
    exists_digitChar_of_mem_numeral (by decide) member
  have some_ : decimal n ≠ [] := numeral_ne_nil
  obtain ⟨digits, read, grouped⟩ :=
    exists_grouped areDigits false fun none_ => absurd none_ some_
  obtain ⟨others, readOthers, denotes⟩ :=
    digits?_numeral (by decide : 1 < 10) (by decide : 10 ≤ 16) n
  cases read.symm.trans readOthers
  exact ⟨digits, grouped, (digits?_bounds read).1, denotes⟩

/-- The numeral of an integer is read as the integer, unless it is too long. -/
theorem readInteger?_ofInt (i : Int) :
    readInteger? (ofInt i) = if isShort i = true then some i else none := by
  obtain ⟨digits, grouped, length, denotes⟩ := exists_grouped_decimal i.natAbs
  have few : digits.length ≤ maxDigits ↔ isShort i = true := by
    rw [length]
    constructor
    · intro few
      exact decide_eq_true (lt_pow_of_le few (lt_pow_length_decimal i.natAbs))
    · exact length_decimal_of_isShort
  rw [readInteger?, trim_ofInt, sign_ofInt]
  dsimp only
  rw [grouped]
  dsimp only
  by_cases short : isShort i = true
  · rw [if_pos (few.mpr short), if_pos short, denotes, signed_natAbs]
  · rw [if_neg (mt few.mp short), if_neg short]

end CharTally.Numeral
