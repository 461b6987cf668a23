import CharTally.Binary64

/-!
Instants: points in time, in seconds since the epoch, as a clock reads them.
-/

namespace CharTally

/-- A reading of the clock. It may be infinite but it is always a number. -/
structure Instant where
  value : Binary64
  isNumber : value ≠ .nan
deriving DecidableEq, Repr

namespace Instant

/-- The instant of a number, unless it is not a number. -/
def of? (value : Binary64) : Option Instant :=
  if isNumber : value ≠ .nan then some ⟨value, isNumber⟩ else none

/-- The instant as a column of real numbers gives it back: a zero has no sign. -/
def stored (instant : Instant) : Instant where
  value := instant.value.withoutNegativeZero
  isNumber := by
    obtain ⟨value, isNumber⟩ := instant
    cases value with
    | finite negative mantissa exponent => cases mantissa <;> simp [Binary64.withoutNegativeZero]
    | infinite negative => simp [Binary64.withoutNegativeZero]
    | nan => exact absurd rfl isNumber

end Instant

end CharTally
