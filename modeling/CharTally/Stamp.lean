import CharTally.Failure

/-!
Stamps: instants as dates and times of day in UTC.

An instant is rounded to whole microseconds first, and the microseconds are then
dropped, so a stamp shows the second that the rounded instant lies in. Dates are
Gregorian; days are counted in eras of four hundred years that begin in March,
so that a leap day is the last day of its year.
-/

namespace CharTally.Stamp

/-! ## Seconds -/

/-- A positive fraction below one in microseconds. The product is a number of the format binary64
before it is rounded to an integer. -/
def microseconds (num den : Nat) : Nat :=
  match Binary64.ofRatio false (num * 1000000) den with
  | .finite _ mantissa exponent =>
    let (n, d) := Binary64.ratio mantissa exponent
    Binary64.roundDiv n d
  | _ => 0

/-- The second in which an instant lies once it is rounded to microseconds. -/
def second (instant : Instant) : Except StampFault Int :=
  match instant.value with
  | .finite negative mantissa exponent =>
    let (num, den) := Binary64.ratio mantissa exponent
    let whole : Int := num / den
    let micros := microseconds (num % den) den
    let second :=
      if negative then (if micros = 0 then -whole else -whole - 1)
      else if micros < 1000000 then whole
      else whole + 1
    if second.natAbs ≤ 0x8000000000000000 then .ok second else .error .outOfRange
  | _ => .error .outOfRange

/-! ## Dates -/

/-- A date of the Gregorian calendar. -/
structure Date where
  year : Int
  month : Nat
  day : Nat
deriving DecidableEq, Repr

/-- The number of days in four hundred years. -/
def eraDays : Int := 146097

/-- The date of a day, counted from the first of January 1970. -/
def dateOf (day : Int) : Date :=
  let shifted := day + 719468
  let era := shifted / eraDays
  let dayOfEra := (shifted % eraDays).toNat
  let yearOfEra := (dayOfEra - dayOfEra / 1460 + dayOfEra / 36524 - dayOfEra / 146096) / 365
  let dayOfYear := dayOfEra - (365 * yearOfEra + yearOfEra / 4 - yearOfEra / 100)
  let monthOfYear := (5 * dayOfYear + 2) / 153
  let month := if monthOfYear < 10 then monthOfYear + 3 else monthOfYear - 9
  let year := (yearOfEra : Int) + era * 400
  { year := if month ≤ 2 then year + 1 else year
    month
    day := dayOfYear - (153 * monthOfYear + 2) / 5 + 1 }

/-! ## Text -/

/-- The years that a stamp shows have four digits. -/
def checkYear (year : Int) : Except StampFault Unit :=
  if 0x80000000 ≤ (year - 1900).natAbs ∧ year - 1900 ≠ -0x80000000 then .error .tooLarge
  else if 1 ≤ year ∧ year ≤ 9999 then .ok ()
  else .error (.yearOutOfRange (year.bmod 0x100000000))

/-- A number in two digits. -/
def twoDigits (n : Nat) : Text := Numeral.padded 10 2 n

/-- The date and time of a second. -/
def textOf (date : Date) (secondOfDay : Nat) : Text :=
  Numeral.padded 10 4 date.year.toNat ++ "-" ++ twoDigits date.month ++ "-" ++
    twoDigits date.day ++ "T" ++ twoDigits (secondOfDay / 3600) ++ ":" ++
    twoDigits (secondOfDay / 60 % 60) ++ ":" ++ twoDigits (secondOfDay % 60) ++ "+00:00"

/-- The stamp of an instant. -/
def text (instant : Instant) : Except StampFault Text := do
  let second ← second instant
  let date := dateOf (second / 86400)
  checkYear date.year
  return textOf date (second % 86400).toNat

end CharTally.Stamp
