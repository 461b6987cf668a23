import CharTally.Text

/-!
UTF-8 in both directions.

Only characters have bytes of their own. `unencodable?` finds the halves of surrogate
pairs for which a text is refused where one is asked for bytes; `encode` is applied to
what passed.

`decode` reads bytes one at a time; an unfinished sequence is kept as `Pending`
with the range that its next byte must lie in, which is all it takes to refuse
overlong forms, surrogates and codes past the last plane. What is refused is
refused at the first byte that cannot belong, and the `Fault` says where the
sequence began, how many of its bytes were good, and where the reader stood.
-/

namespace CharTally.Utf8

/-! ## Encoding -/

/-- The bytes of one code point. Those of half a surrogate pair are refused when they are decoded.
-/
def encodeChar (c : CodePoint) : List UInt8 :=
  let code := c.toNat
  let tail (n : Nat) : UInt8 := UInt8.ofNat (0x80 + n % 0x40)
  if code < 0x80 then [UInt8.ofNat code]
  else if code < 0x800 then [UInt8.ofNat (0xC0 + code / 0x40), tail code]
  else if code < 0x10000 then
    [UInt8.ofNat (0xE0 + code / 0x1000), tail (code / 0x40), tail code]
  else
    [UInt8.ofNat (0xF0 + code / 0x40000), tail (code / 0x1000), tail (code / 0x40), tail code]

/-- The bytes of a text. -/
def encode (t : Text) : List UInt8 := t.flatMap encodeChar

/-- Why a text cannot be encoded: the first code point that has no bytes, its offset, and the length
of the run of halves that it begins. -/
structure Unencodable where
  first : CodePoint
  start : Nat
  width : Nat
deriving DecidableEq, Repr

/-- Looks for halves that are not spared, with the number of code points in front. -/
def unencodableFrom (spared : CodePoint → Bool) (offset : Nat) : Text → Option Unencodable
  | [] => none
  | c :: rest =>
    if c.isHalf && !spared c then
      some ⟨c, offset, ((c :: rest).takeWhile CodePoint.isHalf).length⟩
    else unencodableFrom spared (offset + 1) rest

/-- What keeps a text from being encoded, where some halves may be spared. -/
def unencodable? (t : Text) (spared : CodePoint → Bool := fun _ => false) : Option Unencodable :=
  unencodableFrom spared 0 t

/-! ## Decoding -/

/-- Why a byte sequence is refused. -/
inductive Reason where
  | invalidStart
  | invalidContinuation
  | unexpectedEnd
deriving DecidableEq, Repr

/-- A refused sequence: where it starts, its first byte, how many of its bytes were read before
the fault, and the offset at which the fault showed. -/
structure Fault where
  start : Nat
  first : UInt8
  width : Nat
  reason : Reason
  shown : Nat
deriving DecidableEq, Repr

/-- A sequence that is not finished: the code read so far, how many bytes it still needs, and the
range of the next one. -/
structure Pending where
  start : Nat
  first : UInt8
  width : Nat
  needed : Nat
  low : Nat
  high : Nat
  code : Nat
deriving DecidableEq, Repr

/-- What the first byte of a sequence announces: how many bytes follow, the range of the next
one, and the bits it contributes. -/
def lead? (byte : Nat) : Option (Nat × Nat × Nat × Nat) :=
  if 0xC2 ≤ byte ∧ byte ≤ 0xDF then some (1, 0x80, 0xBF, byte - 0xC0)
  else if byte = 0xE0 then some (2, 0xA0, 0xBF, 0)
  else if byte = 0xED then some (2, 0x80, 0x9F, 0xD)
  else if 0xE1 ≤ byte ∧ byte ≤ 0xEF then some (2, 0x80, 0xBF, byte - 0xE0)
  else if byte = 0xF0 then some (3, 0x90, 0xBF, 0)
  else if byte = 0xF4 then some (3, 0x80, 0x8F, 4)
  else if 0xF1 ≤ byte ∧ byte ≤ 0xF3 then some (3, 0x80, 0xBF, byte - 0xF0)
  else none

/-- Decodes what is left, with the characters read so far in reverse order. -/
def decodeFrom (offset : Nat) (done : Text) : Option Pending → List UInt8 → Except Fault Text
  | none, [] => .ok done.reverse
  | some p, [] => .error ⟨p.start, p.first, p.width, .unexpectedEnd, offset⟩
  | none, byte :: rest =>
    let b := byte.toNat
    if b < 0x80 then decodeFrom (offset + 1) (CodePoint.ofNat b :: done) none rest
    else
      match lead? b with
      | none => .error ⟨offset, byte, 1, .invalidStart, offset⟩
      | some (needed, low, high, code) =>
        decodeFrom (offset + 1) done (some ⟨offset, byte, 1, needed, low, high, code⟩) rest
  | some p, byte :: rest =>
    let b := byte.toNat
    if p.low ≤ b ∧ b ≤ p.high then
      let code := p.code * 0x40 + (b - 0x80)
      if p.needed = 1 then decodeFrom (offset + 1) (CodePoint.ofNat code :: done) none rest
      else
        decodeFrom (offset + 1) done
          (some { p with width := p.width + 1, needed := p.needed - 1,
                         low := 0x80, high := 0xBF, code }) rest
    else .error ⟨p.start, p.first, p.width, .invalidContinuation, offset⟩

/-- The text that the bytes encode. -/
def decode (bytes : List UInt8) : Except Fault Text := decodeFrom 0 [] none bytes

end CharTally.Utf8
