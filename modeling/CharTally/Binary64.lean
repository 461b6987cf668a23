import CharTally.Text.Numeral

/-!
Real numbers as the format binary64 holds them.

A finite number is a sign, a mantissa below `2 ^ 53` and a power of two, so its
value is an exact fraction and everything here is integer arithmetic. `ofRatio`
rounds a fraction to the nearest number of the format, a tie to the even
mantissa; `ofDecimal` reads a decimal by it; `shortest` finds the decimal with
the fewest digits that reads back.
-/

namespace CharTally

/-- A number of the format. A finite one is `mantissa * 2 ^ exponent`, with its sign. -/
inductive Binary64 where
  | finite (negative : Bool) (mantissa : Nat) (exponent : Int)
  | infinite (negative : Bool)
  | nan
deriving DecidableEq, Repr

namespace Binary64

/-! ## Rounding a fraction -/

/-- Two to the power of 53, which every mantissa lies below. -/
def mantissaBound : Nat := 0x20000000000000

/-- The integer nearest to a fraction; a tie goes to the even one. -/
def roundDiv (num den : Nat) : Nat :=
  let quotient := num / den
  let rest := num % den
  if 2 * rest < den then quotient
  else if den < 2 * rest then quotient + 1
  else if quotient % 2 = 0 then quotient else quotient + 1

/-- A fraction multiplied by a power of two. -/
def scaled (num den : Nat) (exponent : Int) : Nat × Nat :=
  if exponent < 0 then (num, den * Nat.pow 2 (-exponent).toNat)
  else (num * Nat.pow 2 exponent.toNat, den)

/-- The exponent at which the mantissa of a positive fraction has 53 bits, or the least exponent of
the format if that is greater. -/
def exponentOf (num den : Nat) : Int :=
  let guess : Int := (num.log2 : Int) - den.log2 - 53
  let (n, d) := scaled num den (-guess)
  max (-1074) (if n / d < mantissaBound then guess else guess + 1)

/-- The number of the format nearest to a fraction. -/
def ofRatio (negative : Bool) (num den : Nat) : Binary64 :=
  if num = 0 then .finite negative 0 0
  else
    let exponent := exponentOf num den
    let (n, d) := scaled num den (-exponent)
    let mantissa := roundDiv n d
    let (mantissa, exponent) :=
      if mantissa = mantissaBound then (mantissaBound / 2, exponent + 1) else (mantissa, exponent)
    if 971 < exponent then .infinite negative else .finite negative mantissa exponent

/-- The number nearest to `digits * 10 ^ exponent`. Decimals far outside the range of the format are
recognised by their magnitude alone. -/
def ofDecimal (negative : Bool) (digits : Nat) (exponent : Int) : Binary64 :=
  let magnitude : Int := (Numeral.decimal digits).length + exponent
  if digits = 0 ∨ magnitude < -330 then .finite negative 0 0
  else if 310 < magnitude then .infinite negative
  else if exponent < 0 then ofRatio negative digits (Nat.pow 10 (-exponent).toNat)
  else ofRatio negative (digits * Nat.pow 10 exponent.toNat) 1

/-- The number nearest to an integer. -/
def ofInt (i : Int) : Binary64 := ofDecimal (i < 0) i.natAbs 0

/-! ## Parts of a number -/

/-- The magnitude of a finite number as a fraction. -/
def ratio (mantissa : Nat) (exponent : Int) : Nat × Nat := scaled mantissa 1 exponent

/-- The integer part of a finite number, rounded toward zero. -/
def truncate (negative : Bool) (mantissa : Nat) (exponent : Int) : Int :=
  let (n, d) := ratio mantissa exponent
  let magnitude : Int := n / d
  if negative then -magnitude else magnitude

/-- The number with the sign of a zero dropped. -/
def withoutNegativeZero : Binary64 → Binary64
  | .finite _ 0 _ => .finite false 0 0
  | x => x

/-! ## The shortest decimal -/

/-- The number of digits in front of the decimal point; for a fraction below one, minus the number
of zeros behind it. -/
def pointPosition (num den : Nat) : Int :=
  if den ≤ num then (Numeral.decimal (num / den)).length
  else 1 - (Numeral.decimal ((den - 1) / num)).length

/-- A positive fraction multiplied by a power of ten. -/
def scaledDecimal (num den : Nat) (exponent : Int) : Nat × Nat :=
  if exponent < 0 then (num, den * Nat.pow 10 (-exponent).toNat)
  else (num * Nat.pow 10 exponent.toNat, den)

/-- Of the two decimals of `width` digits around a positive fraction, the nearer one that `keep`
accepts, as its digits and its power of ten. -/
def neighbour? (keep : Nat → Int → Bool) (num den width : Nat) : Option (Nat × Int) :=
  let shift : Int := width - pointPosition num den
  let (n, d) := scaledDecimal num den shift
  let below := n / d
  let nearest := roundDiv n d
  let other := if nearest = below then below + 1 else below
  if keep nearest (-shift) then some (nearest, -shift)
  else if keep other (-shift) then some (other, -shift)
  else none

/-- The decimal of least width, from `width` on, that `keep` accepts; with no steps left, the
nearest one of that width. -/
def shortestFrom (keep : Nat → Int → Bool) (num den width : Nat) : Nat → Nat × Int
  | 0 =>
    let shift : Int := width - pointPosition num den
    let (n, d) := scaledDecimal num den shift
    (roundDiv n d, -shift)
  | steps + 1 =>
    match neighbour? keep num den width with
    | some found => found
    | none => shortestFrom keep num den (width + 1) steps

/-- The decimal with the fewest digits that reads back as the number, and nearest to it among
those. Seventeen digits always suffice. -/
def shortest (mantissa : Nat) (exponent : Int) : Nat × Int :=
  let (num, den) := ratio mantissa exponent
  let self := Binary64.finite false mantissa exponent
  shortestFrom (fun digits power => ofDecimal false digits power = self) num den 1 16

/-! ## Text -/

/-- A decimal written out: positional when its point lies at most sixteen places right and three
places left of the first digit, otherwise with an exponent of at least two digits. -/
def layout (digits : Text) (point : Int) : Text :=
  if -4 < point ∧ point ≤ 16 then
    if point ≤ 0 then "0." ++ List.replicate (-point).toNat (scalar '0') ++ digits
    else if digits.length ≤ point.toNat then
      digits ++ List.replicate (point.toNat - digits.length) (scalar '0') ++ ".0"
    else digits.take point.toNat ++ "." ++ digits.drop point.toNat
  else
    let exponent := point - 1
    let fraction : Text := if digits.length ≤ 1 then [] else scalar '.' :: digits.drop 1
    digits.take 1 ++ fraction ++ (if exponent < 0 then ("e-" : Text) else "e+") ++
      Numeral.padded 10 2 exponent.natAbs

/-- The shortest text of a finite number. -/
def finiteText (negative : Bool) (mantissa : Nat) (exponent : Int) : Text :=
  let body : Text :=
    if mantissa = 0 then "0.0"
    else
      let (number, power) := shortest mantissa exponent
      let digits := Numeral.decimal number
      layout (digits.reverse.dropWhile (· = scalar '0')).reverse (digits.length + power)
  if negative then '-' :: body else body

end Binary64

end CharTally
