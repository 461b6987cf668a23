import CharTally.Text.Numeral
import CharTally.Text.Printable

/-!
Quoted text: a text on one line, between quotes, with everything that cannot be
shown written as an escape.

The quote is the apostrophe, unless the text holds an apostrophe and no double
quote. The quote and the backslash are escaped by a backslash, three controls
have letters of their own, and any other unprintable character is written with
its code in two, four or eight hexadecimal digits.
-/

namespace CharTally.Text

/-- The mark that stands at both ends. -/
def quoteMark (t : Text) : CodePoint :=
  if t.contains '\'' && !t.contains '"' then '"' else '\''

/-- One character between quotes. -/
def escaped (quote c : CodePoint) : Text :=
  if c = quote ∨ c = '\\' then ['\\', c]
  else if c = '\t' then "\\t"
  else if c = '\n' then "\\n"
  else if c = '\r' then "\\r"
  else if isPrintable c then [c]
  else if c.toNat ≤ 0xFF then "\\x" ++ Numeral.padded 16 2 c.toNat
  else if c.toNat ≤ 0xFFFF then "\\u" ++ Numeral.padded 16 4 c.toNat
  else "\\U" ++ Numeral.padded 16 8 c.toNat

/-- The text between quotes. -/
def quoted (t : Text) : Text :=
  let quote := quoteMark t
  quote :: (t.flatMap (escaped quote) ++ [quote])

/-- Texts one after another with a separator between them. -/
def joined (separator : Text) (ts : List Text) : Text := List.intercalate separator ts

/-- A list of texts, quoted, between square brackets. -/
def quotedList (ts : List Text) : Text := "[" ++ joined ", " (ts.map quoted) ++ "]"

end CharTally.Text
