/-!
Text as the rest of the library sees it: a list of code points.

Every length, offset and column in this project counts code points, so a text is
the list of them and nothing else. A code point is a character, or else one half of
a surrogate pair that stands alone: texts may hold such halves, although no
encoding has bytes for them. Characters and literals in double quotes may stand
wherever a code point or a text is expected. Beside the types stand the few
operations that have no home of their own: the ASCII test, the order of texts,
membership in a table of code point ranges, blanks, and trimming.
-/

namespace CharTally

/-! ## Code points -/

/-- A code point: a character, or half a surrogate pair. -/
inductive CodePoint where
  | scalar (c : Char)
  | half (offset : Fin 0x800)
deriving DecidableEq, Repr, Inhabited

export CodePoint (scalar)

/-- A character is a code point. -/
instance : Coe Char CodePoint := ⟨.scalar⟩

namespace CodePoint

/-- The code where the halves of surrogate pairs begin. -/
def firstHalf : Nat := 0xD800

/-- The number of a code point. -/
def toNat : CodePoint → Nat
  | .scalar c => c.toNat
  | .half offset => firstHalf + offset

/-- The code point of a number. -/
def ofNat (code : Nat) : CodePoint :=
  if h : firstHalf ≤ code ∧ code - firstHalf < 0x800 then .half ⟨code - firstHalf, h.2⟩
  else .scalar (Char.ofNat code)

/-- Half of a surrogate pair. -/
def isHalf : CodePoint → Bool
  | .scalar _ => false
  | .half _ => true

/-- An ASCII decimal digit. -/
def isDigit (c : CodePoint) : Bool := 0x30 ≤ c.toNat && c.toNat ≤ 0x39

/-- The capital letter of an ASCII letter. -/
def toUpper : CodePoint → CodePoint
  | .scalar c => c.toUpper
  | .half offset => .half offset

@[simp] theorem toNat_scalar (c : Char) : (scalar c).toNat = c.toNat := rfl

@[simp] theorem toNat_half (offset : Fin 0x800) : (half offset).toNat = firstHalf + offset := rfl

theorem exists_scalar {c : CodePoint} (whole : c.isHalf = false) : ∃ d : Char, c = d := by
  cases c with
  | scalar d => exact ⟨d, rfl⟩
  | half => cases whole

/-- A character lies outside of the halves. -/
theorem not_half_toNat (c : Char) : ¬ (firstHalf ≤ c.toNat ∧ c.toNat - firstHalf < 0x800) := by
  have valid := c.valid
  have same : c.val.toNat = c.toNat := rfl
  rw [UInt32.isValidChar, Nat.isValidChar, same] at valid
  rw [firstHalf]
  omega

theorem toNat_lt (c : CodePoint) : c.toNat < 0x110000 := by
  cases c with
  | scalar c =>
    have valid := c.valid
    have same : c.val.toNat = c.toNat := rfl
    rw [UInt32.isValidChar, Nat.isValidChar, same] at valid
    rw [toNat_scalar]
    omega
  | half offset =>
    rw [toNat_half, firstHalf]
    omega

@[simp] theorem ofNat_toNat (c : CodePoint) : ofNat c.toNat = c := by
  cases c with
  | scalar c => rw [toNat_scalar, ofNat, dif_neg (not_half_toNat c), Char.ofNat_toNat]
  | half offset =>
    have within : firstHalf ≤ firstHalf + offset ∧ firstHalf + offset - firstHalf < 0x800 := by
      omega
    rw [toNat_half, ofNat, dif_pos within]
    simp

theorem toNat_ofNat {code : Nat} (below : code < 0x110000) : (ofNat code).toNat = code := by
  rw [ofNat]
  split
  case isTrue within =>
    exact Nat.add_sub_cancel' within.1
  case isFalse outside =>
    have valid : code.isValidChar := by
      rw [firstHalf] at outside
      rw [Nat.isValidChar]
      omega
    rw [toNat_scalar, Char.ofNat, dif_pos valid]
    rfl

theorem toNat_inj {c d : CodePoint} : c.toNat = d.toNat ↔ c = d := by
  constructor
  · intro same
    rw [← ofNat_toNat c, same, ofNat_toNat]
  · rintro rfl
    rfl

end CodePoint

/-! ## Texts -/

/-- A text is the list of its code points. -/
abbrev Text := List CodePoint

/-- A literal in double quotes denotes the text of its characters. -/
instance : Coe String Text := ⟨fun literal => literal.toList.map .scalar⟩

namespace Text

/-! ## ASCII -/

/-- The highest code of an ASCII character. -/
def maxAscii : Nat := 0x7F

/-- A text is ASCII when every code in it is at most `maxAscii`. -/
def isAscii (t : Text) : Bool := t.all fun c => c.toNat ≤ maxAscii

@[simp] theorem isAscii_nil : isAscii [] = true := rfl

theorem isAscii_cons (c : CodePoint) (t : Text) :
    isAscii (c :: t) = (decide (c.toNat ≤ maxAscii) && isAscii t) := rfl

/-! ## Whole texts -/

/-- A text is whole if no half of a surrogate pair stands alone in it. -/
def isWhole (t : Text) : Bool := t.all fun c => !c.isHalf

@[simp] theorem isWhole_nil : isWhole [] = true := rfl

theorem isWhole_cons (c : CodePoint) (t : Text) : isWhole (c :: t) = (!c.isHalf && isWhole t) := rfl

theorem isWhole_append (s t : Text) : isWhole (s ++ t) = (isWhole s && isWhole t) := by
  simp [isWhole]

@[simp] theorem isWhole_map_scalar (cs : List Char) : isWhole (cs.map .scalar) = true := by
  simp [isWhole, CodePoint.isHalf]

theorem isWhole_of_suffix {s t : Text} (whole : t.isWhole = true) (ends : s <:+ t) :
    s.isWhole = true := by
  rw [isWhole, List.all_eq_true] at whole ⊢
  exact fun c member => whole c (ends.subset member)

theorem isWhole_of_isAscii {t : Text} (ascii : t.isAscii = true) : t.isWhole = true := by
  rw [isAscii, List.all_eq_true] at ascii
  rw [isWhole, List.all_eq_true]
  intro c member
  cases c with
  | scalar c => rfl
  | half offset =>
    have small := ascii _ member
    rw [decide_eq_true_eq, maxAscii, CodePoint.toNat_half, CodePoint.firstHalf] at small
    omega

/-! ## Order -/

/-- Texts are ordered by the numbers of their code points; a beginning stands before the whole. -/
def upTo : Text → Text → Bool
  | [], _ => true
  | _ :: _, [] => false
  | c :: s, d :: t => if c = d then upTo s t else c.toNat < d.toNat

/-! ## Blanks -/

/-- A code lies in a table of inclusive ranges. -/
def inRanges (table : List (Nat × Nat)) (code : Nat) : Bool :=
  table.any fun (low, high) => low ≤ code && code ≤ high

/-- The code points with the Unicode property `White_Space`. -/
def whiteSpace : List (Nat × Nat) :=
  [(0x09, 0x0D), (0x20, 0x20), (0x85, 0x85), (0xA0, 0xA0), (0x1680, 0x1680),
   (0x2000, 0x200A), (0x2028, 0x2029), (0x202F, 0x202F), (0x205F, 0x205F), (0x3000, 0x3000)]

/-- A space character in the sense of Unicode. -/
def isSpace (c : CodePoint) : Bool := inRanges whiteSpace c.toNat

/-- A blank is a space or one of the four information separators. -/
def isBlank (c : CodePoint) : Bool := isSpace c || inRanges [(0x1C, 0x1F)] c.toNat

/-- The text without the characters of a class at its two ends. -/
def trim (drop : CodePoint → Bool) (t : Text) : Text :=
  ((t.dropWhile drop).reverse.dropWhile drop).reverse

/-- The text without the blanks at its two ends. -/
def strip (t : Text) : Text := trim isBlank t

end Text

end CharTally
