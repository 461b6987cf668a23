import CharTally.Stamp

/-!
# Instants with a stamp

`Dated` are the instants whose second, once they are rounded, lies in the years from 1 to
9999. Each of them has a stamp (`exists_stamp`), and what a column gives back of an
instant has the stamp of the instant (`text_stored`).
-/

namespace CharTally.Stamp

variable {instant : Instant} {day : Int}

/-- The first second of the year 1, counted from the first of January 1970. -/
def firstSecond : Int := -62135596800

/-- The last second of the year 9999. -/
def lastSecond : Int := 253402300799

/-- An instant in the years that stamps show. -/
def Dated (instant : Instant) : Prop :=
  ∃ s, second instant = .ok s ∧ firstSecond ≤ s ∧ s ≤ lastSecond

/-- The year of every day of these years is one of them. -/
theorem year_dateOf (first : -719162 ≤ day) (last : day ≤ 2932896) :
    1 ≤ (dateOf day).year ∧ (dateOf day).year ≤ 9999 := by
  unfold dateOf eraDays
  dsimp only
  split <;> omega

theorem checkYear_of_shown {year : Int} (first : 1 ≤ year) (last : year ≤ 9999) :
    checkYear year = .ok () := by
  have near : ¬ (0x80000000 ≤ (year - 1900).natAbs ∧ year - 1900 ≠ -0x80000000) := by omega
  rw [checkYear, if_neg near, if_pos ⟨first, last⟩]

/-- Every dated instant has a stamp. -/
theorem exists_stamp (dated : Dated instant) : ∃ stamp, text instant = .ok stamp := by
  obtain ⟨s, isSecond, first, last⟩ := dated
  rw [firstSecond] at first
  rw [lastSecond] at last
  obtain ⟨early, late⟩ := year_dateOf (by omega : -719162 ≤ s / 86400) (by omega)
  refine ⟨textOf (dateOf (s / 86400)) (s % 86400).toNat, ?_⟩
  rw [text, isSecond]
  simp only [bind, Except.bind, checkYear_of_shown early late]
  rfl

/-- A zero lies in the second zero, whatever its sign. -/
theorem second_of_zero {negative : Bool} {exponent : Int} (isNumber) :
    second ⟨.finite negative 0 exponent, isNumber⟩ = .ok 0 := by
  obtain ⟨den, zero⟩ : ∃ den, Binary64.ratio 0 exponent = (0, den) := by
    unfold Binary64.ratio Binary64.scaled
    split
    · exact ⟨_, rfl⟩
    · rw [Nat.zero_mul]
      exact ⟨_, rfl⟩
  have none_ : microseconds 0 den = 0 := by
    have isZero : Binary64.ofRatio false 0 den = .finite false 0 0 := if_pos rfl
    have parts : Binary64.ratio 0 0 = (0, 1) := rfl
    have rounded : Binary64.roundDiv 0 1 = 0 := by decide
    unfold microseconds
    rw [Nat.zero_mul, isZero]
    dsimp only
    rw [parts]
    exact rounded
  unfold second
  dsimp only
  rw [zero]
  dsimp only
  rw [Nat.zero_mod, none_]
  cases negative <;> simp

/-- A column gives back an instant of the same second, as it drops no more than a sign. -/
theorem second_stored (instant : Instant) : second instant.stored = second instant := by
  obtain ⟨value, isNumber⟩ := instant
  cases value with
  | infinite negative => rfl
  | nan => exact absurd rfl isNumber
  | finite negative mantissa exponent =>
    cases mantissa with
    | succ more => rfl
    | zero => exact (second_of_zero nofun).trans (second_of_zero isNumber).symm

theorem text_stored (instant : Instant) : text instant.stored = text instant := by
  rw [text, text, second_stored]

end CharTally.Stamp
