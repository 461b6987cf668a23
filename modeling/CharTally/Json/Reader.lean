import CharTally.Json
import CharTally.Json.Fault

/-!
Reading JSON.

A reader takes a `Cursor`, the rest of the text and the offset at which it
starts, and answers with a value and the cursor behind it, or with a `Fault`.
`readItems` and `readMembers` are readers for what stands between brackets, made
from a reader for what stands between the commas; `readValue` ties them to
itself one nesting level further down, so it recurs on the depth that is left.

Besides the numbers of the standard, `NaN` and the two infinities are values.
Two escapes that are the halves of a surrogate pair stand for its character; a
half that lacks the other one stands for itself.
-/

namespace CharTally.Json

/-- The rest of a text and the offset at which it starts. -/
structure Cursor where
  offset : Nat
  rest : Text
deriving DecidableEq, Repr

/-- The cursor some characters further on. -/
def Cursor.advance (cursor : Cursor) (count : Nat) : Cursor :=
  ⟨cursor.offset + count, cursor.rest.drop count⟩

/-- The space between tokens. -/
def isSpacing (c : CodePoint) : Bool := c = ' ' || c = '\t' || c = '\n' || c = '\r'

/-- The cursor behind the spacing. -/
def Cursor.skip (cursor : Cursor) : Cursor :=
  cursor.advance (cursor.rest.takeWhile isSpacing).length

/-- The outcome of a reader: a value and the cursor behind it, or a fault. -/
abbrev Outcome (α : Type) := Except Fault (α × Cursor)

/-- A problem of form at an offset. -/
def malformed {α : Type} (problem : Problem) (offset : Nat) : Except Fault α :=
  .error (.malformed problem offset)

/-! ## Texts -/

/-- The character that a one-letter escape stands for. -/
def escape? (c : CodePoint) : Option CodePoint :=
  if c = '"' ∨ c = '\\' ∨ c = '/' then some c
  else if c = 'b' then some '\x08'
  else if c = 'f' then some '\x0c'
  else if c = 'n' then some '\n'
  else if c = 'r' then some '\r'
  else if c = 't' then some '\t'
  else none

/-- The number that four hexadecimal digits denote. -/
def unit? (a b c d : CodePoint) : Option Nat := Numeral.ofDigits? 16 [a, b, c, d]

/-- The first half of a surrogate pair. -/
def isHighHalf (unit : Nat) : Bool := 0xD800 ≤ unit && unit ≤ 0xDBFF

/-- The second half of a surrogate pair. -/
def isLowHalf (unit : Nat) : Bool := 0xDC00 ≤ unit && unit ≤ 0xDFFF

/-- The character of a surrogate pair. -/
def ofPair (high low : Nat) : CodePoint :=
  CodePoint.ofNat (0x10000 + (high - 0xD800) * 0x400 + (low - 0xDC00))

/-- The code points read so far, in reverse order, once it is clear that the half read last has no
partner and stands for itself. -/
def settle (half : Option Nat) (done : Text) : Text :=
  match half with
  | none => done
  | some high => CodePoint.ofNat high :: done

/-- Adds a unit that is not a first half. -/
def addUnit (half : Option Nat) (unit : Nat) (done : Text) : Text :=
  match half with
  | some high =>
    if isLowHalf unit then ofPair high unit :: done else CodePoint.ofNat unit :: settle half done
  | none => CodePoint.ofNat unit :: done

/-- Reads a text up to its closing quote. `opening` is the offset of the opening quote, `done` holds
the characters read so far in reverse order, and `half` a first half that was just read. A unicode
escape needs a character behind its four digits. -/
def readText (opening : Nat) (done : Text) (half : Option Nat) (offset : Nat) : Text → Outcome Text
  | [] => malformed .unterminatedText opening
  | '"' :: rest => .ok ((settle half done).reverse, ⟨offset + 1, rest⟩)
  | '\\' :: [] => malformed .unterminatedText opening
  | '\\' :: 'u' :: a :: b :: c :: d :: more =>
    if more.isEmpty then malformed .badUnicodeEscape (offset + 1)
    else
      match unit? a b c d with
      | none => malformed .badUnicodeEscape (offset + 1)
      | some unit =>
        if isHighHalf unit then readText opening (settle half done) (some unit) (offset + 6) more
        else readText opening (addUnit half unit done) none (offset + 6) more
  | '\\' :: 'u' :: _ => malformed .badUnicodeEscape (offset + 1)
  | '\\' :: letter :: rest =>
    match escape? letter with
    | some c => readText opening (c :: settle half done) none (offset + 2) rest
    | none => malformed .badEscape offset
  | c :: rest =>
    if c.toNat < 0x20 then malformed .controlCharacter offset
    else readText opening (c :: settle half done) none (offset + 1) rest

/-! ## Numbers and words -/

/-- The digits in front of a number's fraction: one zero, or digits that begin with another. -/
def integerDigits (t : Text) : Text :=
  match t with
  | '0' :: _ => ['0']
  | t => t.takeWhile CodePoint.isDigit

/-- The digits of a fraction, when a point and a digit begin it. -/
def fractionDigits : Text → Text
  | '.' :: rest => rest.takeWhile CodePoint.isDigit
  | _ => []

/-- The length of an exponent with its mark, and its value. An exponent without digits is none. -/
def exponentOf? : Text → Option (Nat × Int)
  | mark :: rest =>
    if mark = 'e' ∨ mark = 'E' then
      let (negative, body) := Numeral.sign rest
      let digits := body.takeWhile CodePoint.isDigit
      match Numeral.ofDigits? 10 digits with
      | none => none
      | some magnitude =>
        some (1 + (rest.length - body.length) + digits.length,
          if negative then -(magnitude : Int) else magnitude)
    else none
  | [] => none

/-- The number that digits denote. -/
def magnitudeOf (digits : Text) : Nat := (Numeral.ofDigits? 10 digits).getD 0

/-- Whether a hyphen begins a number, and what stands behind it. -/
def unsigned : Text → Bool × Text
  | '-' :: rest => (true, rest)
  | t => (false, t)

/-- Reads a number. -/
def readNumber (cursor : Cursor) : Outcome Json :=
  let (negative, body) := unsigned cursor.rest
  let whole := integerDigits body
  if whole.isEmpty then malformed .expectingValue cursor.offset
  else
    let width := (if negative then 1 else 0) + whole.length
    let behind := body.drop whole.length
    let fraction := fractionDigits behind
    let fractionWidth := if fraction.isEmpty then 0 else fraction.length + 1
    let exponent := exponentOf? (behind.drop fractionWidth)
    if fraction.isEmpty ∧ exponent = none then
      if Numeral.maxDigits < whole.length then .error (.numeralTooLong whole.length)
      else
        let magnitude : Int := magnitudeOf whole
        .ok (.integer (if negative then -magnitude else magnitude), cursor.advance width)
    else
      let (exponentWidth, power) := exponent.getD (0, 0)
      .ok
        (.real (Binary64.ofDecimal negative (magnitudeOf (whole ++ fraction))
          (power - fraction.length)),
         cursor.advance (width + fractionWidth + exponentWidth))

/-- The values that are words. -/
def words : List (Text × Json) :=
  [("null", .null), ("true", .bool true), ("false", .bool false), ("NaN", .real .nan),
   ("Infinity", .real (.infinite false)), ("-Infinity", .real (.infinite true))]

/-- Reads a word or a number. -/
def readScalar (cursor : Cursor) : Outcome Json :=
  match words.find? fun (word, _) => word.isPrefixOf cursor.rest with
  | some (word, value) => .ok (value, cursor.advance word.length)
  | none => readNumber cursor

/-! ## Brackets -/

/-- Reads the items of an array up to its closing bracket, given a reader for one item. An item
takes at least a character, so the length of the rest is room enough. -/
def readItems (item : Cursor → Outcome Json) (done : List Json) : Nat → Cursor → Outcome Json
  | 0, cursor => malformed .expectingValue cursor.offset
  | room + 1, cursor =>
    match item cursor with
    | .error fault => .error fault
    | .ok (value, cursor) =>
      let cursor := cursor.skip
      match cursor.rest with
      | ']' :: _ => .ok (.array (value :: done).reverse, cursor.advance 1)
      | ',' :: _ => readItems item (value :: done) room (cursor.advance 1).skip
      | _ => malformed .expectingComma cursor.offset

/-- Reads the members of an object up to its closing bracket, given a reader for one value. -/
def readMembers (item : Cursor → Outcome Json) (done : List (Text × Json)) :
    Nat → Cursor → Outcome Json
  | 0, cursor => malformed .expectingName cursor.offset
  | room + 1, cursor =>
    match cursor.rest with
    | '"' :: rest =>
      match readText cursor.offset [] none (cursor.offset + 1) rest with
      | .error fault => .error fault
      | .ok (name, cursor) =>
        let cursor := cursor.skip
        match cursor.rest with
        | ':' :: _ =>
          match item (cursor.advance 1).skip with
          | .error fault => .error fault
          | .ok (value, cursor) =>
            let cursor := cursor.skip
            match cursor.rest with
            | '\x7d' :: _ => .ok (.object (put name value done), cursor.advance 1)
            | ',' :: _ => readMembers item (put name value done) room (cursor.advance 1).skip
            | _ => malformed .expectingComma cursor.offset
        | _ => malformed .expectingColon cursor.offset
    | _ => malformed .expectingName cursor.offset

/-- Reads a value with at most `depth` brackets inside one another. -/
def readValue : Nat → Cursor → Outcome Json
  | depth, cursor =>
    match cursor.rest with
    | [] => malformed .expectingValue cursor.offset
    | '"' :: rest =>
      match readText cursor.offset [] none (cursor.offset + 1) rest with
      | .error fault => .error fault
      | .ok (value, cursor) => .ok (.text value, cursor)
    | '[' :: _ =>
      match depth with
      | 0 => .error (.tooDeep .array)
      | depth + 1 =>
        let inside := (cursor.advance 1).skip
        match inside.rest with
        | ']' :: _ => .ok (.array [], inside.advance 1)
        | _ => readItems (readValue depth) [] (inside.rest.length + 1) inside
    | '\x7b' :: _ =>
      match depth with
      | 0 => .error (.tooDeep .object)
      | depth + 1 =>
        let inside := (cursor.advance 1).skip
        match inside.rest with
        | '\x7d' :: _ => .ok (.object [], inside.advance 1)
        | _ => readMembers (readValue depth) [] (inside.rest.length + 1) inside
    | _ => readScalar cursor

/-- How many brackets may stand inside one another. -/
def maxDepth : Nat := 985

/-- Reads a text that holds one value and spacing around it. -/
def read (document : Text) : Except Fault Json :=
  match document with
  | '\ufeff' :: _ => malformed .byteOrderMark 0
  | _ =>
    match readValue maxDepth (Cursor.skip ⟨0, document⟩) with
    | .error fault => .error fault
    | .ok (value, cursor) =>
      let cursor := cursor.skip
      if cursor.rest.isEmpty then .ok value else malformed .extraData cursor.offset

end CharTally.Json
