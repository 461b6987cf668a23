import CharTally.Binary64
import Mathlib.Algebra.Order.Field.Power
import Mathlib.Data.Int.Log
import Mathlib.Data.Rat.Cast.Order
import Mathlib.Data.Rat.Floor
import Mathlib.Tactic.FieldSimp
import Mathlib.Tactic.Linarith
import Mathlib.Tactic.NormNum
import Mathlib.Tactic.Positivity
import Mathlib.Tactic.Ring

/-!
# Rounding to the format

Rounding a fraction depends on its value alone (`ofRatio_congr`): the exponent is the binary
logarithm of the value without the bits of the mantissa, or the least exponent of the format
(`exponentOf_eq`). A fraction that is near a number of the format, one part in `2 * 10 ^ 16`, is
rounded to it (`ofRatio_of_near`). The one case in which its exponent is another one is a number
whose mantissa is the least that has 53 bits, with the fraction below it; there rounding carries
into the next exponent.
-/

namespace CharTally.Binary64

variable {negative : Bool} {num den mantissa : Nat} {exponent : Int} {value : ℚ}

/-! ## Fractions -/

/-- A fraction multiplied by a power of a base. -/
def expanded (base num den : Nat) (exponent : Int) : Nat × Nat :=
  if exponent < 0 then (num, den * Nat.pow base (-exponent).toNat)
  else (num * Nat.pow base exponent.toNat, den)

theorem scaled_eq (num den : Nat) (exponent : Int) :
    scaled num den exponent = expanded 2 num den exponent := rfl

section Expanded

variable {base : Nat}

/-- A fraction that is multiplied by a power has the value that is multiplied by it. -/
theorem expanded_value (base num den : Nat) (exponent : Int) :
    ((expanded base num den exponent).1 : ℚ) / (expanded base num den exponent).2 =
      num / den * base ^ exponent := by
  rw [expanded]
  by_cases below : exponent < 0
  · obtain ⟨count, rfl⟩ : ∃ count : Nat, exponent = -count := ⟨(-exponent).toNat, by omega⟩
    rw [if_pos below]
    simp [div_eq_mul_inv]
    ring
  · obtain ⟨count, rfl⟩ := Int.eq_ofNat_of_zero_le (Int.not_lt.mp below)
    rw [if_neg below]
    simp [div_eq_mul_inv]
    ring

theorem expanded_pos (positive : 0 < base) (denominator : 0 < den) (num : Nat) (exponent : Int) :
    0 < (expanded base num den exponent).2 := by
  rw [expanded]
  by_cases below : exponent < 0
  · rw [if_pos below]
    exact Nat.mul_pos denominator (Nat.pow_pos positive)
  · rw [if_neg below]
    exact denominator

/-- The parts of a fraction may be multiplied by the same number. -/
theorem expanded_mul (base num den factor : Nat) (exponent : Int) :
    expanded base (num * factor) (den * factor) exponent =
      ((expanded base num den exponent).1 * factor,
        (expanded base num den exponent).2 * factor) := by
  rw [expanded, expanded]
  by_cases below : exponent < 0
  · rw [if_pos below, if_pos below, Nat.mul_right_comm]
  · rw [if_neg below, if_neg below, Nat.mul_right_comm]

end Expanded

/-- A fraction that is multiplied by a power of two has the value that is multiplied by it. -/
theorem scaled_value (num den : Nat) (exponent : Int) :
    ((scaled num den exponent).1 : ℚ) / (scaled num den exponent).2 = num / den * 2 ^ exponent := by
  exact_mod_cast expanded_value 2 num den exponent

theorem scaled_pos (denominator : 0 < den) (num : Nat) (exponent : Int) :
    0 < (scaled num den exponent).2 :=
  expanded_pos Nat.two_pos denominator num exponent

theorem roundDiv_mul {factor : Nat} (positive : 0 < factor) (num den : Nat) :
    roundDiv (num * factor) (den * factor) = roundDiv num den := by
  have small : 2 * (num % den * factor) < den * factor ↔ 2 * (num % den) < den := by
    rw [← Nat.mul_assoc]
    exact Nat.mul_lt_mul_right positive
  have large : den * factor < 2 * (num % den * factor) ↔ den < 2 * (num % den) := by
    rw [← Nat.mul_assoc]
    exact Nat.mul_lt_mul_right positive
  rw [roundDiv, roundDiv, Nat.mul_div_mul_right num den positive, Nat.mul_mod_mul_right]
  simp only [small, large]

/-- Rounding goes no farther than one half. -/
theorem roundDiv_near (denominator : 0 < den) (num : Nat) :
    |(roundDiv num den : ℚ) - num / den| ≤ 1 / 2 := by
  have positive : (0 : ℚ) < den := by exact_mod_cast denominator
  have parts : (den * (num / den : Nat) + (num % den : Nat) : ℚ) = num := by
    exact_mod_cast Nat.div_add_mod num den
  have rest : ((num % den : Nat) : ℚ) < den := by exact_mod_cast Nat.mod_lt num denominator
  have value : (num : ℚ) / den = (num / den : Nat) + (num % den : Nat) / den := by
    rw [← parts]
    field_simp
  have down (small : 2 * (num % den) ≤ den) : |((num / den : Nat) : ℚ) - num / den| ≤ 1 / 2 := by
    have few : ((num % den : Nat) : ℚ) / den ≤ 1 / 2 := by
      have small : (2 * (num % den : Nat) : ℚ) ≤ den := by exact_mod_cast small
      rw [div_le_iff₀ positive]
      linarith
    have some_ : (0 : ℚ) ≤ (num % den : Nat) / den := by positivity
    rw [value, abs_le]
    constructor <;> linarith
  have up (large : den ≤ 2 * (num % den)) :
      |((num / den + 1 : Nat) : ℚ) - num / den| ≤ 1 / 2 := by
    have many : 1 / 2 ≤ ((num % den : Nat) : ℚ) / den := by
      have large : (den : ℚ) ≤ 2 * (num % den : Nat) := by exact_mod_cast large
      rw [le_div_iff₀ positive]
      linarith
    have notAll : ((num % den : Nat) : ℚ) / den < 1 := (div_lt_one positive).mpr rest
    rw [value, abs_le, Nat.cast_succ]
    constructor <;> linarith
  rw [roundDiv]
  split
  case isTrue small => exact down small.le
  case isFalse notSmall =>
    split
    case isTrue large => exact up large.le
    case isFalse notLarge =>
      split
      · exact down (Nat.le_of_not_lt notLarge)
      · exact up (Nat.le_of_not_lt notSmall)

/-- A fraction that is less than one half away from an integer is rounded to it. -/
theorem roundDiv_of_near (denominator : 0 < den) {nearest : Nat}
    (near : |(num : ℚ) / den - nearest| < 1 / 2) : roundDiv num den = nearest := by
  have close := roundDiv_near denominator num
  have apart : |(roundDiv num den : ℚ) - nearest| < 1 :=
    calc |(roundDiv num den : ℚ) - nearest|
        ≤ |(roundDiv num den : ℚ) - num / den| + |(num : ℚ) / den - nearest| := abs_sub_le _ _ _
      _ < 1 := by linarith
  have whole : |(roundDiv num den : Int) - nearest| < 1 := by exact_mod_cast apart
  have same := Int.abs_lt_one_iff.mp whole
  omega

/-! ## The exponent -/

/-- A positive integer lies between the powers of two around its logarithm. -/
theorem zpow_log2_le (positive : 0 < num) :
    (2 : ℚ) ^ (num.log2 : Int) ≤ num ∧ (num : ℚ) < 2 ^ (num.log2 + 1 : Int) := by
  have lower := Nat.log2_self_le (Nat.ne_of_gt positive)
  have upper := Nat.lt_log2_self (n := num)
  constructor
  · rw [zpow_natCast]
    exact_mod_cast lower
  · rw [← Nat.cast_succ, zpow_natCast]
    exact_mod_cast upper

/-- A value has so many bits in units of a power of two. -/
theorem le_log_iff (positive : 0 < value) (unit bits : Int) :
    unit + bits ≤ Int.log 2 value ↔ 2 ^ bits ≤ value * 2 ^ (-unit) := by
  rw [← Int.zpow_le_iff_le_log Nat.one_lt_two positive, Nat.cast_two, zpow_neg, ← div_eq_mul_inv,
    le_div_iff₀ (by positivity), ← zpow_add₀ two_ne_zero, add_comm]

theorem log_lt_iff (positive : 0 < value) (unit bits : Int) :
    Int.log 2 value < unit + bits ↔ value * 2 ^ (-unit) < 2 ^ bits := by
  rw [← not_le, le_log_iff positive, not_le]

/-- The exponent is a matter of the value: with it the mantissa has 53 bits, unless it would be
below the least one. -/
theorem exponentOf_eq (numerator : 0 < num) (denominator : 0 < den) :
    exponentOf num den = max (-1074) (Int.log 2 (num / den : ℚ) - 52) := by
  obtain ⟨numLower, numUpper⟩ := zpow_log2_le numerator
  obtain ⟨denLower, denUpper⟩ := zpow_log2_le denominator
  have divisor : (0 : ℚ) < den := by exact_mod_cast denominator
  have positive : (0 : ℚ) < num / den := div_pos (by exact_mod_cast numerator) divisor
  rw [exponentOf]
  generalize guess_eq : (num.log2 : Int) - den.log2 - 53 = guess
  have lower : guess + 52 ≤ Int.log 2 (num / den : ℚ) := by
    rw [le_log_iff positive, zpow_neg, ← div_eq_mul_inv, le_div_iff₀ (by positivity),
      le_div_iff₀ divisor, ← zpow_add₀ two_ne_zero]
    calc (2 : ℚ) ^ (52 + guess) * den ≤ 2 ^ (52 + guess) * 2 ^ (den.log2 + 1 : Int) := by gcongr
      _ = 2 ^ (num.log2 : Int) := by
        rw [← zpow_add₀ two_ne_zero]
        congr 1
        omega
      _ ≤ num := numLower
  have upper : Int.log 2 (num / den : ℚ) < guess + 54 := by
    rw [log_lt_iff positive, zpow_neg, ← div_eq_mul_inv, div_lt_iff₀ (by positivity),
      div_lt_iff₀ divisor, ← zpow_add₀ two_ne_zero]
    calc (num : ℚ) < 2 ^ (num.log2 + 1 : Int) := numUpper
      _ = 2 ^ (54 + guess) * 2 ^ (den.log2 : Int) := by
        rw [← zpow_add₀ two_ne_zero]
        congr 1
        omega
      _ ≤ 2 ^ (54 + guess) * den := by gcongr
  have fits : (scaled num den (-guess)).1 / (scaled num den (-guess)).2 < mantissaBound ↔
      Int.log 2 (num / den : ℚ) < guess + 53 := by
    have scaledPositive := scaled_pos denominator num (-guess)
    have bound : ((mantissaBound : Nat) : ℚ) = 2 ^ (53 : Int) := by norm_num [mantissaBound]
    rw [Nat.div_lt_iff_lt_mul scaledPositive, ← Nat.cast_lt (α := ℚ), Nat.cast_mul,
      ← div_lt_iff₀ (by exact_mod_cast scaledPositive), scaled_value, bound, log_lt_iff positive]
  dsimp only
  congr 1
  by_cases below : Int.log 2 (num / den : ℚ) < guess + 53
  · rw [if_pos (fits.mpr below)]
    omega
  · rw [if_neg (mt fits.mp below)]
    omega

/-! ## Rounding a fraction -/

/-- A fraction may be expanded before it is rounded. -/
theorem ofRatio_mul {factor : Nat} (positive : 0 < factor) (denominator : 0 < den)
    (negative : Bool) (num : Nat) :
    ofRatio negative (num * factor) (den * factor) = ofRatio negative num den := by
  rcases Nat.eq_zero_or_pos num with rfl | numerator
  · rw [Nat.zero_mul, ofRatio, ofRatio, if_pos rfl, if_pos rfl]
  · have expanded : 0 < num * factor := Nat.mul_pos numerator positive
    have same : exponentOf (num * factor) (den * factor) = exponentOf num den := by
      have factor_ : (factor : ℚ) ≠ 0 := by exact_mod_cast positive.ne'
      rw [exponentOf_eq expanded (Nat.mul_pos denominator positive),
        exponentOf_eq numerator denominator, Nat.cast_mul, Nat.cast_mul,
        mul_div_mul_right _ _ factor_]
    rw [ofRatio, ofRatio, if_neg expanded.ne', if_neg numerator.ne', same]
    dsimp only
    rw [scaled_eq, expanded_mul, ← scaled_eq]
    dsimp only
    rw [roundDiv_mul positive]

/-- Rounding depends on the value alone. -/
theorem ofRatio_congr {num' den' : Nat} (denominator : 0 < den) (denominator' : 0 < den')
    (same : (num : ℚ) / den = num' / den') (negative : Bool) :
    ofRatio negative num den = ofRatio negative num' den' := by
  have cross : num * den' = num' * den := by
    rw [div_eq_div_iff (by exact_mod_cast denominator.ne') (by exact_mod_cast denominator'.ne')]
      at same
    exact_mod_cast same
  calc ofRatio negative num den = ofRatio negative (num * den') (den * den') :=
        (ofRatio_mul denominator' denominator negative num).symm
    _ = ofRatio negative (num' * den) (den' * den) := by rw [cross, Nat.mul_comm den]
    _ = ofRatio negative num' den' := ofRatio_mul denominator denominator' negative num'

/-- The sign is carried along. -/
theorem ofRatio_sign (found : ofRatio false num den = .finite false mantissa exponent)
    (negative : Bool) : ofRatio negative num den = .finite negative mantissa exponent := by
  unfold ofRatio at found ⊢
  dsimp only at found ⊢
  generalize (if roundDiv _ _ = _ then _ else _ : Nat × Int) = parts at found ⊢
  by_cases zero : num = 0
  · rw [if_pos zero] at found ⊢
    cases found
    rfl
  · rw [if_neg zero] at found ⊢
    by_cases large : 971 < parts.2
    · rw [if_pos large] at found
      cases found
    · rw [if_neg large] at found ⊢
      cases found
      rfl

/-! ## Numbers of the format -/

/-- The parts of a number of the format other than zero: of the ways to write its value with a
mantissa that is small enough, the one with the least exponent. -/
structure Held (mantissa : Nat) (exponent : Int) : Prop where
  positive : 0 < mantissa
  below : mantissa < mantissaBound
  least : -1074 ≤ exponent
  greatest : exponent ≤ 971
  full : exponent = -1074 ∨ mantissaBound ≤ 2 * mantissa

/-- A number is one that the format has. A zero is held without an exponent. -/
def IsCanonical : Binary64 → Prop
  | .finite _ mantissa exponent => (mantissa = 0 ∧ exponent = 0) ∨ Held mantissa exponent
  | _ => True

/-! ## What is near a number -/

/-- A value is at most one part in `2 * 10 ^ 16` away from a number. -/
def Near (value : ℚ) (mantissa : Nat) (exponent : Int) : Prop :=
  |value - mantissa * 2 ^ exponent| ≤ mantissa * 2 ^ exponent / (2 * 10 ^ 16)

/-- What is near a number can be measured in units of any power of two. -/
theorem Near.units (near : Near value mantissa exponent) (unit : Int) :
    |value * 2 ^ (-unit) - mantissa * 2 ^ (exponent - unit)| ≤
      mantissa * 2 ^ (exponent - unit) / (2 * 10 ^ 16) := by
  have size : (0 : ℚ) < 2 ^ (-unit) := by positivity
  have whole : (mantissa : ℚ) * 2 ^ (exponent - unit) = mantissa * 2 ^ exponent * 2 ^ (-unit) := by
    rw [sub_eq_add_neg, zpow_add₀ two_ne_zero, mul_assoc]
  rw [whole, ← sub_mul, abs_mul, abs_of_pos size, mul_div_right_comm]
  exact mul_le_mul_of_nonneg_right near size.le

theorem Held.pos (held : Held mantissa exponent) : (0 : ℚ) < mantissa * 2 ^ exponent :=
  mul_pos (by exact_mod_cast held.positive) (by positivity)

/-- What is near a number is positive, and neither twice as large nor half as large. -/
theorem Near.within (held : Held mantissa exponent) (near : Near value mantissa exponent) :
    0 < value ∧ mantissa * 2 ^ exponent < 2 * value ∧ value < 2 * (mantissa * 2 ^ exponent) := by
  have positive := held.pos
  obtain ⟨lower, upper⟩ := abs_le.mp near
  refine ⟨?_, ?_, ?_⟩ <;> linarith

/-- The exponent of what is near a number is that of the number, unless the value is below a number
with the least mantissa of 53 bits. -/
theorem exponentOf_of_near (held : Held mantissa exponent) (numerator : 0 < num)
    (denominator : 0 < den) (near : Near (num / den) mantissa exponent) :
    exponentOf num den = exponent ∨
      exponentOf num den = exponent - 1 ∧ 2 * mantissa = mantissaBound := by
  have positive := (near.within held).1
  rw [exponentOf_eq numerator denominator]
  generalize (num : ℚ) / den = value at near positive
  have units := near.units exponent
  rw [sub_self, zpow_zero, mul_one] at units
  obtain ⟨lower, upper⟩ := abs_le.mp units
  have least := held.least
  have small : (mantissa + 1 : ℚ) ≤ 2 ^ 53 := by
    exact_mod_cast (held.below : mantissa + 1 ≤ 2 ^ 53)
  have less : Int.log 2 value < exponent + 53 := by
    rw [log_lt_iff positive, zpow_ofNat]
    linarith
  rcases held.full with subnormal | normal
  · exact .inl (by omega)
  · by_cases fewest : 2 * mantissa = mantissaBound
    · have size : (2 * mantissa : ℚ) = 2 ^ 53 := by exact_mod_cast (fewest : 2 * mantissa = 2 ^ 53)
      have more : exponent + 51 ≤ Int.log 2 value := by
        rw [le_log_iff positive, zpow_ofNat]
        linarith
      omega
    · have size : (2 ^ 53 + 2 : ℚ) ≤ 2 * mantissa := by
        change 2 ^ 53 ≤ 2 * mantissa at normal
        change ¬ 2 * mantissa = 2 ^ 53 at fewest
        exact_mod_cast (by omega : 2 ^ 53 + 2 ≤ 2 * mantissa)
      have more : exponent + 52 ≤ Int.log 2 value := by
        rw [le_log_iff positive, zpow_ofNat]
        linarith
      exact .inl (by omega)

/-- What is near a number is rounded to its mantissa in units in which the mantissa is an integer of
at most 53 bits, or the least one of 54. -/
theorem roundDiv_scaled_of_near (denominator : 0 < den) (near : Near (num / den) mantissa exponent)
    {unit : Int} {nearest : Nat} (few : nearest ≤ mantissaBound)
    (whole : (mantissa : ℚ) * 2 ^ (exponent - unit) = nearest) :
    roundDiv (scaled num den (-unit)).1 (scaled num den (-unit)).2 = nearest := by
  have units := near.units unit
  have few_ : (nearest : ℚ) ≤ 2 ^ 53 := by exact_mod_cast (few : nearest ≤ 2 ^ 53)
  rw [← scaled_value, whole] at units
  refine roundDiv_of_near (scaled_pos denominator num (-unit)) (units.trans_lt ?_)
  linarith

/-- **What is near a number of the format is rounded to it.** -/
theorem ofRatio_of_near (held : Held mantissa exponent) (denominator : 0 < den)
    (near : Near (num / den) mantissa exponent) (negative : Bool) :
    ofRatio negative num den = .finite negative mantissa exponent := by
  have numerator : num ≠ 0 := by
    rintro rfl
    have positive := (near.within held).1
    simp at positive
  rw [ofRatio, if_neg numerator]
  dsimp only
  rcases exponentOf_of_near held (Nat.pos_of_ne_zero numerator) denominator near with
    same | ⟨lower, fewest⟩
  · rw [same, roundDiv_scaled_of_near denominator near held.below.le (by simp),
      if_neg held.below.ne, if_neg (not_lt.mpr held.greatest)]
  · have whole : (mantissa : ℚ) * 2 ^ (exponent - (exponent - 1)) = mantissaBound := by
      rw [sub_sub_cancel, zpow_one, ← fewest, mul_comm]
      norm_cast
    rw [lower, roundDiv_scaled_of_near denominator near le_rfl whole, if_pos rfl, ← fewest]
    dsimp only
    rw [sub_add_cancel, Nat.mul_div_cancel_left mantissa (by omega),
      if_neg (not_lt.mpr held.greatest)]

end CharTally.Binary64
