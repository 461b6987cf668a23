import CharTally.Text.Numeral

/-!
What can be wrong with a JSON text, where, and how it is told.

A problem of form stands at an offset of the text; lines and columns are counted
from it. Two further ways to fail concern size: nesting deeper than the reader
goes, and an integer with more digits than are converted.
-/

namespace CharTally.Json

/-- A problem of form. -/
inductive Problem where
  | byteOrderMark
  | expectingValue
  | expectingName
  | expectingColon
  | expectingComma
  | unterminatedText
  | controlCharacter
  | badEscape
  | badUnicodeEscape
  | extraData
deriving DecidableEq, Repr

/-- The words for a problem. -/
def Problem.words : Problem → Text
  | .byteOrderMark => "Unexpected UTF-8 BOM (decode using utf-8-sig)"
  | .expectingValue => "Expecting value"
  | .expectingName => "Expecting property name enclosed in double quotes"
  | .expectingColon => "Expecting ':' delimiter"
  | .expectingComma => "Expecting ',' delimiter"
  | .unterminatedText => "Unterminated string starting at"
  | .controlCharacter => "Invalid control character at"
  | .badEscape => "Invalid \\escape"
  | .badUnicodeEscape => "Invalid \\uXXXX escape"
  | .extraData => "Extra data"

/-- The brackets that can nest. -/
inductive Bracket where
  | array
  | object
deriving DecidableEq, Repr

/-- Why a text was not read. -/
inductive Fault where
  | malformed (problem : Problem) (offset : Nat)
  | tooDeep (bracket : Bracket)
  | numeralTooLong (digits : Nat)
deriving DecidableEq, Repr

/-- The line of an offset, counted from one. -/
def lineOf (document : Text) (offset : Nat) : Nat := (document.take offset).count (scalar '\n') + 1

/-- The column of an offset, counted from one after the line feed before it. -/
def columnOf (document : Text) (offset : Nat) : Nat :=
  ((document.take offset).reverse.takeWhile (· ≠ scalar '\n')).length + 1

/-- The sentence about a problem of form. -/
def Problem.message (document : Text) (offset : Nat) (problem : Problem) : Text :=
  problem.words ++ ": line " ++ Numeral.decimal (lineOf document offset) ++
    " column " ++ Numeral.decimal (columnOf document offset) ++
    " (char " ++ Numeral.decimal offset ++ ")"

end CharTally.Json
