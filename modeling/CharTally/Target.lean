import CharTally.Text.Numeral

/-!
Target literals: how the character to count is written, and how it is shown.

A target is the character itself, or its code: `x` and hexadecimal digits, or
`#` and decimal digits. Only ASCII characters are targets. `describe` shows a
character in a log line: as itself when it is visible, and otherwise as an `x`
literal that reads back.
-/

namespace CharTally.Target

/-! ## Reading -/

/-- The two ways to write a code. -/
inductive Radix where
  | hexadecimal
  | decimal
deriving DecidableEq, Repr

/-- The name of a radix in messages. -/
def Radix.name : Radix → Text
  | .hexadecimal => "hex"
  | .decimal => "decimal"

/-- Why a text is not a target. -/
inductive Refusal where
  | beyondAscii
  | invalid (how : Radix)
  | outOfRange (how : Radix) (code : Nat)
  | unrecognised
deriving DecidableEq, Repr

/-- The sentence about a refused literal. -/
def Refusal.message (literal : Text) : Refusal → Text
  | .beyondAscii => "Target '" ++ literal ++ "' is outside the ASCII range"
  | .invalid how => "invalid " ++ how.name ++ " literal '" ++ literal ++ "'"
  | .outOfRange how code =>
    "invalid " ++ how.name ++ " literal '" ++ literal ++ "': code " ++ Numeral.decimal code ++
      " is outside the ASCII range"
  | .unrecognised =>
    "Target must be a single character or an xNN/#NN literal, got '" ++ literal ++ "'"

/-- A literal is refused, or its code is so long that no sentence can hold it. -/
inductive Trouble where
  | refused (why : Refusal)
  | codeTooLong
deriving DecidableEq, Repr

/-- An ASCII letter or digit. -/
def isAlphanumeric (c : CodePoint) : Bool := (Numeral.digit? c).isSome

/-- A text without the line feed that may end it. -/
def withoutLineFeed (t : Text) : Text := if t.getLast? = some (scalar '\n') then t.dropLast else t

/-- The radix of a literal and the letters and digits behind its mark, of which there is at
least one. One line feed may end the literal. -/
def split? (literal : Text) : Option (Radix × Text) :=
  match withoutLineFeed literal with
  | [] => none
  | mark :: digits =>
    if digits.isEmpty || !digits.all isAlphanumeric then none
    else if mark = 'x' ∨ mark = 'X' then some (.hexadecimal, digits)
    else if mark = '#' then some (.decimal, digits)
    else none

/-- Hexadecimal digits may follow a further `0x`. -/
def withoutHexMark : Text → Text
  | '0' :: mark :: rest => if mark = 'x' ∨ mark = 'X' then rest else '0' :: mark :: rest
  | t => t

/-- The code that the digits of a literal denote. Decimal digits are limited in number,
hexadecimal ones are not. -/
def code? : Radix → Text → Option Nat
  | .hexadecimal, digits => Numeral.ofDigits? 16 (withoutHexMark digits)
  | .decimal, digits =>
    if digits.length ≤ Numeral.maxDigits then Numeral.ofDigits? 10 digits else none

/-- The character of a literal written as a code. -/
def ofCode (how : Radix) (digits : Text) : Except Trouble CodePoint :=
  match code? how digits with
  | none => .error (.refused (.invalid how))
  | some code =>
    if code ≤ Text.maxAscii then .ok (CodePoint.ofNat code)
    else if Numeral.isShort code then .error (.refused (.outOfRange how code))
    else .error .codeTooLong

/-- The character that a literal denotes. -/
def parse (literal : Text) : Except Trouble CodePoint :=
  match literal with
  | [c] => if c.toNat ≤ Text.maxAscii then .ok c else .error (.refused .beyondAscii)
  | _ =>
    match split? literal with
    | some (how, digits) => ofCode how digits
    | none => .error (.refused .unrecognised)

/-! ## Showing -/

/-- A character with a shape of its own in ASCII; the space counts as one. -/
def isVisible (c : CodePoint) : Bool := 0x20 ≤ c.toNat && c.toNat < Text.maxAscii

/-- A visible character as itself, any other as an `x` literal of at least two digits. -/
def describe (c : CodePoint) : Text :=
  if isVisible c then [c] else 'x' :: (Numeral.padded 16 2 c.toNat).map CodePoint.toUpper

/-- The description of a text that is one character. -/
def describe? : Text → Option Text
  | [c] => some (describe c)
  | _ => none

end CharTally.Target
