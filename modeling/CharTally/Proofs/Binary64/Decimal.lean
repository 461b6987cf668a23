import CharTally.Proofs.Binary64.Rounding
import CharTally.Proofs.Text.Numeral
import Mathlib.Data.Nat.Cast.Order.Field

/-!
# Decimals that read back

A decimal is read as the number of the format that its value is near (`ofDecimal_of_near`), and so
the digits may have zeros at their end (`ofDecimal_mul_pow`). The nearest decimal of seventeen
digits is near enough (`near_nearest`). So the search for a decimal that reads back cannot fail,
and whatever it finds reads back (`ofDecimal_shortest`).
-/

namespace CharTally.Binary64

variable {negative : Bool} {num den mantissa digits : Nat} {exponent power : Int}

/-! ## Powers of ten -/

theorem scaledDecimal_eq (num den : Nat) (exponent : Int) :
    scaledDecimal num den exponent = expanded 10 num den exponent := rfl

/-- A positive integer lies between the powers of ten that its numeral is as long as. -/
theorem zpow_length_decimal (positive : 0 < num) :
    (10 : ℚ) ^ ((Numeral.decimal num).length - 1 : Int) ≤ num ∧
      (num : ℚ) < 10 ^ ((Numeral.decimal num).length : Int) := by
  have lower := Numeral.pow_length_decimal_le positive
  have upper := Numeral.lt_pow_length_decimal num
  have some_ : 1 ≤ (Numeral.decimal num).length := Numeral.length_numeral_pos
  constructor
  · rw [← Nat.cast_one, ← Nat.cast_sub some_, zpow_natCast]
    exact_mod_cast lower
  · rw [zpow_natCast]
    exact_mod_cast upper

/-- The point position is the number of digits in front of the point. -/
theorem pointPosition_spec (numerator : 0 < num) (denominator : 0 < den) :
    (10 : ℚ) ^ (pointPosition num den - 1) ≤ num / den ∧
      (num : ℚ) / den < 10 ^ pointPosition num den := by
  have positive : (0 : ℚ) < den := by exact_mod_cast denominator
  have positive' : (0 : ℚ) < num := by exact_mod_cast numerator
  rw [pointPosition]
  by_cases large : den ≤ num
  · rw [if_pos large]
    have front := (zpow_length_decimal (Nat.div_pos large denominator)).1
    have behind := Numeral.lt_pow_length_decimal (num / den)
    refine ⟨front.trans Nat.cast_div_le, ?_⟩
    rw [div_lt_iff₀ positive, zpow_natCast]
    exact_mod_cast (Nat.div_lt_iff_lt_mul denominator).mp behind
  · rw [if_neg large]
    have front := Numeral.pow_length_decimal_le (Nat.div_pos (by omega : num ≤ den - 1) numerator)
    have behind := Numeral.lt_pow_length_decimal ((den - 1) / num)
    obtain ⟨zeros, long⟩ : ∃ zeros, (Numeral.decimal ((den - 1) / num)).length = zeros + 1 :=
      Nat.exists_eq_add_one.mpr Numeral.length_numeral_pos
    rw [long] at front behind ⊢
    rw [Nat.add_sub_cancel, Nat.le_div_iff_mul_le numerator] at front
    rw [Nat.div_lt_iff_lt_mul numerator] at behind
    have least : (1 - ((zeros + 1 : Nat) : Int) - 1) = -((zeros + 1 : Nat) : Int) := by omega
    have greatest : (1 - ((zeros + 1 : Nat) : Int)) = -(zeros : Int) := by omega
    rw [least, greatest, zpow_neg, zpow_neg, zpow_natCast, zpow_natCast]
    constructor
    · rw [inv_eq_one_div, div_le_div_iff₀ (by positivity) positive, one_mul, mul_comm]
      exact_mod_cast (by omega : den ≤ Nat.pow 10 (zeros + 1) * num)
    · rw [inv_eq_one_div, div_lt_div_iff₀ positive (by positivity), one_mul, mul_comm]
      exact_mod_cast (by omega : Nat.pow 10 zeros * num < den)

/-! ## Rounding decimals -/

/-- The numbers of the format lie between two powers of two. -/
theorem Held.bounds (held : Held mantissa exponent) :
    (2 : ℚ) ^ (-1074 : Int) ≤ mantissa * 2 ^ exponent ∧
      (mantissa * 2 ^ exponent : ℚ) < 2 ^ (1024 : Int) := by
  have some_ : (1 : ℚ) ≤ mantissa := by exact_mod_cast held.positive
  have few : (mantissa : ℚ) < 2 ^ (53 : Int) := by
    rw [zpow_ofNat]
    exact_mod_cast (held.below : mantissa < 2 ^ 53)
  constructor
  · calc (2 : ℚ) ^ (-1074 : Int) ≤ 2 ^ exponent := zpow_le_zpow_right₀ one_le_two held.least
      _ ≤ mantissa * 2 ^ exponent := le_mul_of_one_le_left (by positivity) some_
  · calc (mantissa * 2 ^ exponent : ℚ) < 2 ^ (53 : Int) * 2 ^ exponent :=
          mul_lt_mul_of_pos_right few (by positivity)
      _ ≤ 2 ^ (53 : Int) * 2 ^ (971 : Int) := by
        gcongr
        · exact one_le_two
        · exact held.greatest
      _ = 2 ^ (1024 : Int) := by rw [← zpow_add₀ two_ne_zero]; rfl

/-- A decimal lies between the powers of ten of its magnitude. -/
theorem zpow_magnitude (positive : 0 < digits) (power : Int) :
    (10 : ℚ) ^ ((Numeral.decimal digits).length + power - 1) ≤ digits * 10 ^ power ∧
      (digits * 10 ^ power : ℚ) < 10 ^ ((Numeral.decimal digits).length + power) := by
  obtain ⟨front, behind⟩ := zpow_length_decimal positive
  have point : (0 : ℚ) < 10 ^ power := by positivity
  rw [add_sub_right_comm, zpow_add₀ (by norm_num), zpow_add₀ (by norm_num)]
  exact ⟨mul_le_mul_of_nonneg_right front point.le, mul_lt_mul_of_pos_right behind point⟩

/-- What is near a number of the format is not so far outside the range of the format that it would
be recognised by its magnitude. -/
theorem magnitude_of_near (held : Held mantissa exponent)
    (near : Near (digits * 10 ^ power) mantissa exponent) :
    digits ≠ 0 ∧ -330 ≤ (Numeral.decimal digits).length + power ∧
      (Numeral.decimal digits).length + power ≤ 310 := by
  obtain ⟨positive, lower, upper⟩ := near.within held
  obtain ⟨least, greatest⟩ := held.bounds
  have some_ : digits ≠ 0 := by
    rintro rfl
    simp at positive
  obtain ⟨front, behind⟩ := zpow_magnitude (Nat.pos_of_ne_zero some_) power
  generalize ((Numeral.decimal digits).length : Int) + power = magnitude at front behind ⊢
  generalize (digits : ℚ) * 10 ^ power = value at lower upper front behind
  refine ⟨some_, not_lt.mp fun small => ?_, not_lt.mp fun large => ?_⟩
  · refine absurd ?_ (lt_irrefl ((2 : ℚ) ^ (-1074 : Int)))
    calc (2 : ℚ) ^ (-1074 : Int) ≤ mantissa * 2 ^ exponent := least
      _ < 2 * value := lower
      _ < 2 * 10 ^ magnitude := mul_lt_mul_of_pos_left behind two_pos
      _ ≤ 2 * 10 ^ (-331 : Int) :=
        mul_le_mul_of_nonneg_left (zpow_le_zpow_right₀ (by norm_num) (by omega)) two_pos.le
      _ ≤ 2 * 2 ^ (-1075 : Int) := by
        rw [zpow_neg, zpow_neg, zpow_ofNat, zpow_ofNat]
        refine mul_le_mul_of_nonneg_left (inv_anti₀ (by positivity) ?_) two_pos.le
        exact_mod_cast (by decide +kernel : 2 ^ 1075 ≤ 10 ^ 331)
      _ = 2 ^ (-1074 : Int) := by
        rw [← zpow_one_add₀ two_ne_zero]
        rfl
  · refine absurd ?_ (lt_irrefl ((10 : ℚ) ^ (310 : Int)))
    calc (10 : ℚ) ^ (310 : Int) ≤ 10 ^ (magnitude - 1) :=
          zpow_le_zpow_right₀ (by norm_num) (by omega)
      _ ≤ value := front
      _ < 2 * (mantissa * 2 ^ exponent) := upper
      _ < 2 * 2 ^ (1024 : Int) := mul_lt_mul_of_pos_left greatest two_pos
      _ = 2 ^ (1025 : Int) := by
        rw [← zpow_one_add₀ two_ne_zero]
        rfl
      _ ≤ 10 ^ (310 : Int) := by
        rw [zpow_ofNat, zpow_ofNat]
        exact_mod_cast (by decide +kernel : 2 ^ 1025 ≤ 10 ^ 310)

/-- Within the range of the format, a decimal is rounded as a fraction. -/
theorem ofDecimal_of_range (some_ : digits ≠ 0)
    (least : -330 ≤ (Numeral.decimal digits).length + power)
    (greatest : (Numeral.decimal digits).length + power ≤ 310) (negative : Bool) :
    ofDecimal negative digits power =
      ofRatio negative (expanded 10 digits 1 power).1 (expanded 10 digits 1 power).2 := by
  have within : ¬ (digits = 0 ∨ ((Numeral.decimal digits).length + power : Int) < -330) := by omega
  rw [ofDecimal, if_neg within, if_neg (not_lt.mpr greatest), expanded]
  by_cases below : power < 0
  · rw [if_pos below, if_pos below, Nat.one_mul]
  · rw [if_neg below, if_neg below]

/-- **A decimal that is near a number of the format is read as that number.** -/
theorem ofDecimal_of_near (held : Held mantissa exponent)
    (near : Near (digits * 10 ^ power) mantissa exponent) (negative : Bool) :
    ofDecimal negative digits power = .finite negative mantissa exponent := by
  obtain ⟨some_, least, greatest⟩ := magnitude_of_near held near
  have value : ((expanded 10 digits 1 power).1 : ℚ) / (expanded 10 digits 1 power).2 =
      digits * 10 ^ power := by
    rw [expanded_value, Nat.cast_one, div_one]
    norm_cast
  rw [ofDecimal_of_range some_ least greatest]
  exact ofRatio_of_near held (expanded_pos (by omega) Nat.one_pos _ _) (value ▸ near) negative

/-- A decimal is read as a zero, as infinite, or as a fraction, whatever its sign. -/
theorem ofDecimal_cases (digits : Nat) (power : Int) :
    (∀ negative, ofDecimal negative digits power = .finite negative 0 0) ∨
      (∀ negative, ofDecimal negative digits power = .infinite negative) ∨
      ∃ num den, 0 < den ∧
        ∀ negative, ofDecimal negative digits power = ofRatio negative num den := by
  by_cases small : digits = 0 ∨ ((Numeral.decimal digits).length + power : Int) < -330
  · refine .inl fun negative => ?_
    rw [ofDecimal, if_pos small]
  · by_cases large : (310 : Int) < (Numeral.decimal digits).length + power
    · refine .inr (.inl fun negative => ?_)
      rw [ofDecimal, if_neg small, if_pos large]
    · obtain ⟨some_, least⟩ := not_or.mp small
      exact .inr (.inr ⟨_, _, expanded_pos (by omega) Nat.one_pos _ _,
        ofDecimal_of_range some_ (not_lt.mp least) (not_lt.mp large)⟩)

/-- The sign is carried along. -/
theorem ofDecimal_sign (found : ofDecimal false digits power = .finite false mantissa exponent)
    (negative : Bool) : ofDecimal negative digits power = .finite negative mantissa exponent := by
  rcases ofDecimal_cases digits power with zero | infinite | ⟨num, den, denominator, ratio⟩
  · rw [zero] at found ⊢
    cases found
    rfl
  · rw [infinite] at found
    cases found
  · rw [ratio] at found ⊢
    exact ofRatio_sign found negative

/-! ## The search -/

/-- The decimal of so many digits that is nearest to a positive fraction, as its digits and its
power of ten. -/
def nearest (num den width : Nat) : Nat × Int :=
  let shift : Int := width - pointPosition num den
  let (n, d) := scaledDecimal num den shift
  (roundDiv n d, -shift)

/-- The nearest decimal is at most one half of its last digit away. -/
theorem nearest_error (denominator : 0 < den) (num width : Nat) :
    |((nearest num den width).1 : ℚ) - num / den * 10 ^ (width - pointPosition num den)| ≤
      1 / 2 := by
  rw [nearest]
  dsimp only
  generalize (width : Int) - pointPosition num den = shift
  have rounded := roundDiv_near (expanded_pos (by omega : 0 < 10) denominator num shift)
    (expanded 10 num den shift).1
  rwa [expanded_value, ← scaledDecimal_eq, Nat.cast_ofNat] at rounded

/-- The nearest decimal has a digit other than zero. -/
theorem nearest_pos (numerator : 0 < num) (denominator : 0 < den) {width : Nat} (wide : 0 < width) :
    0 < (nearest num den width).1 := by
  have lower := (abs_le.mp (nearest_error denominator num width)).1
  have large : (1 : ℚ) ≤ num / den * 10 ^ (width - pointPosition num den) :=
    calc (1 : ℚ) ≤ 10 ^ (pointPosition num den - 1 + (width - pointPosition num den)) :=
          one_le_zpow₀ (by norm_num) (by omega)
      _ = 10 ^ (pointPosition num den - 1) * 10 ^ (width - pointPosition num den) :=
          zpow_add₀ (by norm_num) _ _
      _ ≤ num / den * 10 ^ (width - pointPosition num den) :=
          mul_le_mul_of_nonneg_right (pointPosition_spec numerator denominator).1 (by positivity)
  have some_ : (0 : ℚ) < (nearest num den width).1 := by linarith
  exact_mod_cast some_

/-- The nearest decimal of seventeen digits is near. -/
theorem near_nearest (numerator : 0 < num) (denominator : 0 < den)
    (value : (num : ℚ) / den = mantissa * 2 ^ exponent) :
    Near ((nearest num den 17).1 * 10 ^ (nearest num den 17).2) mantissa exponent := by
  have error := nearest_error denominator num 17
  have shift_eq : (nearest num den 17).2 = -(((17 : Nat) : Int) - pointPosition num den) := rfl
  rw [shift_eq]
  generalize sum : ((17 : Nat) : Int) - pointPosition num den = shift at error
  generalize ((nearest num den 17).1 : ℚ) = found at error
  have step : (10 : ℚ) ^ (-shift) ≤ num / den / 10 ^ 16 := by
    rw [le_div_iff₀ (by positivity)]
    calc (10 : ℚ) ^ (-shift) * 10 ^ 16 = 10 ^ (pointPosition num den - 1) := by
          rw [← zpow_natCast, ← zpow_add₀ (by norm_num)]
          congr 1
          push_cast
          omega
      _ ≤ num / den := (pointPosition_spec numerator denominator).1
  have unit : (10 : ℚ) ^ shift * 10 ^ (-shift) = 1 := by
    rw [← zpow_add₀ (by norm_num), add_neg_cancel, zpow_zero]
  have positive : (0 : ℚ) < 10 ^ (-shift) := by positivity
  rw [Near, ← value]
  calc |found * 10 ^ (-shift) - num / den|
      = |(found - num / den * 10 ^ shift) * 10 ^ (-shift)| := by
        rw [sub_mul, mul_assoc (num / den : ℚ), unit, mul_one]
    _ = |found - num / den * 10 ^ shift| * 10 ^ (-shift) := by rw [abs_mul, abs_of_pos positive]
    _ ≤ 1 / 2 * (num / den / 10 ^ 16) := by gcongr
    _ = num / den / (2 * 10 ^ 16) := by ring

section Search

variable {keep : Nat → Int → Bool} {width : Nat}

/-- What is found among the two neighbours is accepted. -/
theorem neighbour?_accepted {found : Nat × Int} (ran : neighbour? keep num den width = some found) :
    keep found.1 found.2 = true := by
  unfold neighbour? at ran
  dsimp only at ran
  generalize (if roundDiv _ _ = _ then _ else _ : Nat) = other at ran
  split at ran
  case isTrue kept =>
    cases ran
    exact kept
  case isFalse =>
    split at ran
    case isTrue kept =>
      cases ran
      exact kept
    case isFalse => cases ran

/-- What the search finds is accepted, or it is the nearest decimal of the last width. -/
theorem shortestFrom_cases (keep : Nat → Int → Bool) (num den width steps : Nat) :
    keep (shortestFrom keep num den width steps).1
        (shortestFrom keep num den width steps).2 = true ∨
      shortestFrom keep num den width steps = nearest num den (width + steps) := by
  induction steps generalizing width with
  | zero => exact .inr rfl
  | succ steps ih =>
    rw [shortestFrom]
    cases ran : neighbour? keep num den width with
    | some found => exact .inl (neighbour?_accepted ran)
    | none =>
      rw [Nat.add_comm steps, ← Nat.add_assoc]
      exact ih (width + 1)

end Search

/-- The parts of the fraction are the value of the magnitude. -/
theorem ratio_eq (mantissa : Nat) (exponent : Int) :
    ((ratio mantissa exponent).1 : ℚ) / (ratio mantissa exponent).2 = mantissa * 2 ^ exponent := by
  rw [ratio, scaled_value, Nat.cast_one, div_one]

/-- The parts of a number other than zero are positive. -/
theorem ratio_pos (positive : 0 < mantissa) (exponent : Int) :
    0 < (ratio mantissa exponent).1 ∧ 0 < (ratio mantissa exponent).2 := by
  refine ⟨?_, scaled_pos Nat.one_pos mantissa exponent⟩
  unfold ratio scaled
  by_cases below : exponent < 0
  · rw [if_pos below]
    exact positive
  · rw [if_neg below]
    exact Nat.mul_pos positive (Nat.pow_pos Nat.two_pos)

/-- The shortest decimal reads back, or it is the nearest one of seventeen digits. -/
theorem shortest_cases (mantissa : Nat) (exponent : Int) :
    ofDecimal false (shortest mantissa exponent).1 (shortest mantissa exponent).2 =
        .finite false mantissa exponent ∨
      shortest mantissa exponent =
        nearest (ratio mantissa exponent).1 (ratio mantissa exponent).2 17 := by
  rw [shortest]
  dsimp only
  rcases shortestFrom_cases
      (fun digits power => ofDecimal false digits power = .finite false mantissa exponent)
      (ratio mantissa exponent).1 (ratio mantissa exponent).2 1 16 with kept | last
  · exact .inl (of_decide_eq_true kept)
  · exact .inr last

/-- The shortest decimal of a number other than zero is not zero. -/
theorem shortest_pos (nonzero : mantissa ≠ 0) (exponent : Int) :
    0 < (shortest mantissa exponent).1 := by
  rcases shortest_cases mantissa exponent with same | last
  · refine Nat.pos_of_ne_zero fun zero => ?_
    rw [zero, ofDecimal, if_pos (Or.inl rfl)] at same
    cases same
    exact nonzero rfl
  · obtain ⟨numerator, denominator⟩ := ratio_pos (Nat.pos_of_ne_zero nonzero) exponent
    rw [last]
    exact nearest_pos numerator denominator (by omega)

/-- **The shortest decimal of a number of the format is read as that number.** -/
theorem ofDecimal_shortest (held : Held mantissa exponent) (negative : Bool) :
    ofDecimal negative (shortest mantissa exponent).1 (shortest mantissa exponent).2 =
      .finite negative mantissa exponent := by
  refine ofDecimal_sign ?_ negative
  rcases shortest_cases mantissa exponent with same | last
  · exact same
  · obtain ⟨numerator, denominator⟩ := ratio_pos held.positive exponent
    rw [last]
    exact ofDecimal_of_near held
      (near_nearest numerator denominator (ratio_eq mantissa exponent)) false

/-! ## Zeros at the end -/

/-- A number with zeros behind it has as many more digits. -/
theorem length_decimal_mul_pow (positive : 0 < digits) (zeros : Nat) :
    (Numeral.decimal (digits * 10 ^ zeros)).length = (Numeral.decimal digits).length + zeros := by
  have zeros_ : 0 < 10 ^ zeros := Nat.pow_pos (by omega)
  have some_ : 1 ≤ (Numeral.decimal digits).length := Numeral.length_numeral_pos
  have front := Numeral.pow_length_decimal_le positive
  have behind := Numeral.lt_pow_length_decimal digits
  apply le_antisymm
  · refine Numeral.length_decimal_le (by omega) ?_
    calc digits * 10 ^ zeros < 10 ^ (Numeral.decimal digits).length * 10 ^ zeros :=
          Nat.mul_lt_mul_of_pos_right behind zeros_
      _ = 10 ^ ((Numeral.decimal digits).length + zeros) := (Nat.pow_add _ _ _).symm
  · have more : 10 ^ ((Numeral.decimal digits).length - 1 + zeros) <
        10 ^ (Numeral.decimal (digits * 10 ^ zeros)).length :=
      calc 10 ^ ((Numeral.decimal digits).length - 1 + zeros)
          = 10 ^ ((Numeral.decimal digits).length - 1) * 10 ^ zeros := Nat.pow_add _ _ _
        _ ≤ digits * 10 ^ zeros := Nat.mul_le_mul_right _ front
        _ < 10 ^ (Numeral.decimal (digits * 10 ^ zeros)).length :=
          Numeral.lt_pow_length_decimal _
    have longer := (Nat.pow_lt_pow_iff_right (by omega)).mp more
    omega

/-- Zeros at the end of the digits are counted by the power. -/
theorem ofDecimal_mul_pow (negative : Bool) (digits zeros : Nat) (power : Int) :
    ofDecimal negative (digits * 10 ^ zeros) power = ofDecimal negative digits (power + zeros) := by
  rcases Nat.eq_zero_or_pos digits with rfl | positive
  · rw [Nat.zero_mul, ofDecimal, ofDecimal, if_pos (Or.inl rfl), if_pos (Or.inl rfl)]
  · have longer := length_decimal_mul_pow positive zeros
    have some_ : digits * 10 ^ zeros ≠ 0 := Nat.mul_ne_zero positive.ne' (by positivity)
    by_cases range : -330 ≤ (Numeral.decimal digits).length + (power + zeros) ∧
        (Numeral.decimal digits).length + (power + zeros) ≤ 310
    · rw [ofDecimal_of_range some_ (by omega) (by omega),
        ofDecimal_of_range positive.ne' range.1 range.2]
      refine ofRatio_congr (expanded_pos (by omega) Nat.one_pos _ _)
        (expanded_pos (by omega) Nat.one_pos _ _) ?_ negative
      rw [expanded_value, expanded_value, zpow_add₀ (by norm_num)]
      push_cast
      rw [zpow_natCast]
      ring
    · have magnitude : ((Numeral.decimal (digits * 10 ^ zeros)).length + power : Int) =
          (Numeral.decimal digits).length + (power + zeros) := by omega
      unfold ofDecimal
      dsimp only
      rw [magnitude]
      by_cases small : ((Numeral.decimal digits).length + (power + zeros) : Int) < -330
      · rw [if_pos (Or.inr small), if_pos (Or.inr small)]
      · have large : (310 : Int) < (Numeral.decimal digits).length + (power + zeros) := by omega
        rw [if_neg (not_or.mpr ⟨some_, small⟩), if_neg (not_or.mpr ⟨positive.ne', small⟩),
          if_pos large, if_pos large]

end CharTally.Binary64
