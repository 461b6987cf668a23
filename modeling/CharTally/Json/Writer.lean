import CharTally.Json

/-!
Writing JSON on one line, in ASCII.

Members and items are separated by a comma and a space, a name and its value by
a colon and a space. A text is written between double quotes; control characters,
the one at the end of ASCII among them, and everything past ASCII are escaped by
their UTF-16 units, so a written value holds no line break.
-/

namespace CharTally.Json

/-- The escape of one UTF-16 unit. -/
def unitEscape (unit : Nat) : Text := "\\u" ++ Numeral.padded 16 4 unit

/-- One character between double quotes. -/
def escaped (c : CodePoint) : Text :=
  if c = '"' then "\\\""
  else if c = '\\' then "\\\\"
  else if c = '\n' then "\\n"
  else if c = '\r' then "\\r"
  else if c = '\t' then "\\t"
  else if c = '\x0c' then "\\f"
  else if c = '\x08' then "\\b"
  else if 0x20 ≤ c.toNat ∧ c.toNat < Text.maxAscii then [c]
  else if c.toNat < 0x10000 then unitEscape c.toNat
  else
    let offset := c.toNat - 0x10000
    unitEscape (0xD800 + offset / 0x400) ++ unitEscape (0xDC00 + offset % 0x400)

/-- A text between double quotes. -/
def renderText (t : Text) : Text := '"' :: (t.flatMap escaped ++ [scalar '"'])

/-- A number of the format binary64. -/
def renderReal : Binary64 → Text
  | .finite negative mantissa exponent => Binary64.finiteText negative mantissa exponent
  | .infinite false => "Infinity"
  | .infinite true => "-Infinity"
  | .nan => "NaN"

mutual

/-- The text of a value. -/
def render : Json → Text
  | .null => "null"
  | .bool true => "true"
  | .bool false => "false"
  | .integer value => Numeral.ofInt value
  | .real value => renderReal value
  | .text value => renderText value
  | .array items => '[' :: (renderItems items ++ "]")
  | .object members => '\x7b' :: (renderMembers members ++ "\x7d")

/-- The items of an array. -/
def renderItems : List Json → Text
  | [] => []
  | [item] => render item
  | item :: next :: rest => render item ++ ", " ++ renderItems (next :: rest)

/-- The members of an object. -/
def renderMembers : List (Text × Json) → Text
  | [] => []
  | [(name, value)] => renderText name ++ ": " ++ render value
  | (name, value) :: next :: rest =>
    renderText name ++ ": " ++ render value ++ ", " ++ renderMembers (next :: rest)

end

end CharTally.Json
