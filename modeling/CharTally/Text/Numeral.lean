import CharTally.Text.DecimalDigit

/-!
Numerals: the texts that denote integers, in both directions.

Writing is decimal (or any base up to sixteen, padded, for codes). Reading comes
in two strengths: `ofDigits?` takes bare ASCII digits in a base, `readInteger?`
takes an optional sign, digits of any script with single underscores between
them, and spaces around the whole. Conversions between integers and decimal
numerals stop at `maxDigits` digits in either direction.
-/

namespace CharTally.Numeral

/-- The greatest number of decimal digits that is converted in either direction. -/
def maxDigits : Nat := 4300

/-! ## Digits -/

/-- The value of an ASCII letter or digit read as a digit: `0`–`9`, then the letters of either
case from ten on. -/
def digit? (c : CodePoint) : Option Nat :=
  let code := c.toNat
  if 0x30 ≤ code ∧ code ≤ 0x39 then some (code - 0x30)
  else if 0x41 ≤ code ∧ code ≤ 0x5A then some (code - 0x41 + 10)
  else if 0x61 ≤ code ∧ code ≤ 0x7A then some (code - 0x61 + 10)
  else none

/-- The value of a digit of the base. -/
def digitOf? (base : Nat) (c : CodePoint) : Option Nat := (digit? c).filter (· < base)

/-- The number that a list of digit values denotes, most significant first. -/
def value (base : Nat) (digits : List Nat) : Nat :=
  digits.foldl (fun high low => high * base + low) 0

/-- The digit values of a text of ASCII digits of the base. -/
def digits? (base : Nat) : Text → Option (List Nat)
  | [] => some []
  | c :: rest =>
    match digitOf? base c, digits? base rest with
    | some d, some ds => some (d :: ds)
    | _, _ => none

/-- The number denoted by a non-empty text of ASCII digits of the base. -/
def ofDigits? (base : Nat) (t : Text) : Option Nat :=
  if t.isEmpty then none else (digits? base t).map (value base)

/-! ## Writing -/

/-- The numeral of a natural number in a base. -/
def numeral (base n : Nat) : Text := (Nat.toDigits base n).map .scalar

/-- The decimal numeral of a natural number. -/
def decimal (n : Nat) : Text := numeral 10 n

/-- The numeral of a number in a base, filled up with zeros on the left to a width. -/
def padded (base width n : Nat) : Text :=
  let digits := numeral base n
  List.replicate (width - digits.length) (scalar '0') ++ digits

/-- The decimal numeral of an integer; a negative one begins with a hyphen. -/
def ofInt : Int → Text
  | .ofNat n => decimal n
  | .negSucc n => '-' :: decimal (n + 1)

/-- An integer whose numeral has at most `maxDigits` digits. -/
def isShort (i : Int) : Bool := i.natAbs < Nat.pow 10 maxDigits

/-- The decimal numeral of an integer, when it is short enough to be written. -/
def text? (i : Int) : Option Text := if isShort i then some (ofInt i) else none

/-! ## Reading an integer in its liberal form -/

/-- Digits of any script with single underscores between them. The flag says whether the
character before was a digit, so that no underscore stands first, last or beside another. -/
def grouped? : Bool → Text → Option (List Nat)
  | afterDigit, [] => if afterDigit then some [] else none
  | afterDigit, c :: rest =>
    if c = '_' then (if afterDigit then grouped? false rest else none)
    else
      match Text.decimalDigit? c, grouped? true rest with
      | some d, some ds => some (d :: ds)
      | _, _ => none

/-- The sign in front of a numeral, and what follows it. -/
def sign : Text → Bool × Text
  | '-' :: rest => (true, rest)
  | '+' :: rest => (false, rest)
  | t => (false, t)

/-- The integer denoted by a text: spaces around it, an optional sign, and one to `maxDigits`
digits of any script with single underscores between them. -/
def readInteger? (t : Text) : Option Int :=
  let (negative, body) := sign (Text.trim Text.isSpace t)
  match grouped? false body with
  | none => none
  | some digits =>
    if digits.length ≤ maxDigits then
      let magnitude : Int := value 10 digits
      some (if negative then -magnitude else magnitude)
    else none

end CharTally.Numeral
