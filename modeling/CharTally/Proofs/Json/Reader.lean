import CharTally.Json.Reader
import CharTally.Proofs.Text.Boundary
import Mathlib.Data.List.Find
import Mathlib.Data.List.TakeWhile

/-!
# Written texts and numbers in front of other text

A text that was written is read up to its closing quote, whatever stands behind it
(`readText_flatMap_escaped`); the escapes of a character past the first plane are
two halves that are put together again (`halves_of_code`). The same happens to two
halves that stand beside one another in the text itself: it is read with its halves
joined (`joinHalves`), and as it is if it has none. Where a number or a word
ends depends on what follows. `EndsValue` says what may follow a value, and then a
number is read as it is read alone (`readNumber_append`), and so is a word
(`readScalar_append`). `Reads` says this of any reader.
-/

namespace CharTally.Json

variable {opening offset : Nat} {done more : Text} {half : Option Nat}

/-! ## Texts -/

/-- The four digits of a unit denote it. -/
theorem unit?_padded {unit : Nat} (small : unit < 0x10000) :
    ∃ a b c d, Numeral.padded 16 4 unit = [a, b, c, d] ∧ unit? a b c d = some unit := by
  have width : (Numeral.padded 16 4 unit).length = 4 :=
    Numeral.length_padded (by decide) (by decide) small
  have read := Numeral.ofDigits?_padded (by decide : 1 < 16) (by decide) 4 unit
  match Numeral.padded 16 4 unit, width, read with
  | [a, b, c, d], _, read => exact ⟨a, b, c, d, rfl, read⟩

/-- A unicode escape is read as its unit, unless the text ends behind it. -/
theorem readText_unitEscape {unit : Nat} (small : unit < 0x10000) (inside : more ≠ []) :
    readText opening done half offset (unitEscape unit ++ more) =
      if isHighHalf unit then readText opening (settle half done) (some unit) (offset + 6) more
      else readText opening (addUnit half unit done) none (offset + 6) more := by
  obtain ⟨a, b, c, d, digits, read⟩ := unit?_padded small
  have spelled : unitEscape unit ++ more = scalar '\\' :: 'u' :: a :: b :: c :: d :: more := by
    rw [unitEscape, digits]
    rfl
  have goesOn : more.isEmpty = false := by simp [inside]
  rw [spelled, readText]
  · rw [goesOn, read]
    rfl

/-- A code that is not a second half is added behind what was read so far. -/
theorem addUnit_of_not_low {c : CodePoint} (notLow : isLowHalf c.toNat = false) :
    addUnit half c.toNat done = c :: settle half done := by
  cases half with
  | none => rw [addUnit, CodePoint.ofNat_toNat]; rfl
  | some high =>
    rw [addUnit, notLow, CodePoint.ofNat_toNat]
    exact if_neg Bool.false_ne_true

/-- Outside of the halves, a code is neither a first nor a second one. -/
theorem not_half_of_outside {code : Nat} (outside : code < 0xD800 ∨ 0xDFFF < code) :
    isHighHalf code = false ∧ isLowHalf code = false := by
  rw [isHighHalf, isLowHalf, Bool.and_eq_false_iff, Bool.and_eq_false_iff]
  simp only [decide_eq_false_iff_not]
  omega

/-- Past the first plane, a code is split into the two halves of a pair. -/
theorem halves_of_code {c : CodePoint} (beyond : 0x10000 ≤ c.toNat) :
    ∃ high low, high = 0xD800 + (c.toNat - 0x10000) / 0x400 ∧
      low = 0xDC00 + (c.toNat - 0x10000) % 0x400 ∧ high < 0x10000 ∧ low < 0x10000 ∧
      isHighHalf high = true ∧ isHighHalf low = false ∧ isLowHalf low = true ∧
      ofPair high low = c := by
  have valid : c.toNat < 0x110000 := c.toNat_lt
  refine ⟨_, _, rfl, rfl, by omega, by omega, ?_, ?_, ?_, ?_⟩
  · rw [isHighHalf, Bool.and_eq_true, decide_eq_true_eq, decide_eq_true_eq]
    omega
  · rw [isHighHalf, Bool.and_eq_false_iff, decide_eq_false_iff_not, decide_eq_false_iff_not]
    omega
  · rw [isLowHalf, Bool.and_eq_true, decide_eq_true_eq, decide_eq_true_eq]
    omega
  · have whole : 0x10000 + (0xD800 + (c.toNat - 0x10000) / 0x400 - 0xD800) * 0x400 +
        (0xDC00 + (c.toNat - 0x10000) % 0x400 - 0xDC00) = c.toNat := by omega
    rw [ofPair, whole, CodePoint.ofNat_toNat]

theorem length_unitEscape {unit : Nat} (small : unit < 0x10000) : (unitEscape unit).length = 6 := by
  obtain ⟨a, b, c, d, digits, _⟩ := unit?_padded small
  rw [unitEscape, digits]
  rfl

/-- What is written for a code point is read like its unit. -/
theorem readText_escaped (c : CodePoint) (inside : more ≠ []) :
    readText opening done half offset (escaped c ++ more) =
      if isHighHalf c.toNat then
        readText opening (settle half done) (some c.toNat) (offset + (escaped c).length) more
      else readText opening (addUnit half c.toNat done) none
        (offset + (escaped c).length) more := by
  unfold escaped
  by_cases quote : c = '"'
  · subst quote; cases half <;> rfl
  by_cases backslash : c = '\\'
  · subst backslash; cases half <;> rfl
  by_cases lineFeed : c = '\n'
  · subst lineFeed; cases half <;> rfl
  by_cases carriageReturn : c = '\r'
  · subst carriageReturn; cases half <;> rfl
  by_cases tab : c = '\t'
  · subst tab; cases half <;> rfl
  by_cases formFeed : c = '\x0c'
  · subst formFeed; cases half <;> rfl
  by_cases backspace : c = '\x08'
  · subst backspace; cases half <;> rfl
  rw [if_neg quote, if_neg backslash, if_neg lineFeed, if_neg carriageReturn, if_neg tab,
    if_neg formFeed, if_neg backspace]
  by_cases visible : 0x20 ≤ c.toNat ∧ c.toNat < Text.maxAscii
  · have printed : ¬ c.toNat < 0x20 := by omega
    obtain ⟨notHigh, notLow⟩ : isHighHalf c.toNat = false ∧ isLowHalf c.toNat = false := by
      rw [Text.maxAscii] at visible
      exact not_half_of_outside (by omega)
    rw [if_pos visible, List.singleton_append, readText, if_neg printed, notHigh,
      addUnit_of_not_low notLow]
    · rfl
    · exact quote
    · exact fun same _ => backslash same
    · exact fun _ _ _ _ _ same _ => backslash same
    · exact fun _ same _ => backslash same
    · exact fun _ _ same _ => backslash same
  rw [if_neg visible]
  by_cases basic : c.toNat < 0x10000
  · rw [if_pos basic, readText_unitEscape basic inside, length_unitEscape basic]
  · obtain ⟨high, low, isHigh, isLow, smallHigh, smallLow, first, notFirst, second, pair⟩ :=
      halves_of_code (Nat.le_of_not_lt basic)
    have outside : c.toNat < 0xD800 ∨ 0xDFFF < c.toNat := by omega
    obtain ⟨notHigh, notLow⟩ := not_half_of_outside outside
    have goesOn : unitEscape low ++ more ≠ [] := by simp [inside]
    rw [if_neg basic]
    dsimp only
    rw [← isHigh, ← isLow, List.append_assoc, readText_unitEscape smallHigh goesOn, first,
      if_pos rfl, readText_unitEscape smallLow inside, notFirst, addUnit, second, if_pos rfl, pair,
      List.length_append, length_unitEscape smallHigh, length_unitEscape smallLow, notHigh,
      addUnit_of_not_low notLow]
    rfl

/-- The text in which a first and a second half beside one another are the character of their
pair. -/
def joinHalves : Text → Text
  | c :: d :: rest =>
    if isHighHalf c.toNat && isLowHalf d.toNat then ofPair c.toNat d.toNat :: joinHalves rest
    else c :: joinHalves (d :: rest)
  | t => t

theorem joinHalves_cons_of_not_high {c : CodePoint} (notHigh : isHighHalf c.toNat = false)
    (t : Text) : joinHalves (c :: t) = c :: joinHalves t := by
  cases t with
  | nil => rfl
  | cons d rest => rw [joinHalves, notHigh]; rfl

theorem joinHalves_cons_of_not_low {d : CodePoint} (notLow : isLowHalf d.toNat = false)
    (c : CodePoint) (t : Text) : joinHalves (c :: d :: t) = c :: joinHalves (d :: t) := by
  rw [joinHalves, notLow, Bool.and_false]
  rfl

/-- A text without halves has none to be joined. -/
theorem joinHalves_of_isWhole {t : Text} (whole : t.isWhole = true) : joinHalves t = t := by
  induction t with
  | nil => rfl
  | cons c rest ih =>
    rw [Text.isWhole_cons, Bool.and_eq_true, Bool.not_eq_true'] at whole
    obtain ⟨d, rfl⟩ := CodePoint.exists_scalar whole.1
    have outside := CodePoint.not_half_toNat d
    rw [CodePoint.firstHalf] at outside
    have notHigh : isHighHalf (CodePoint.scalar d).toNat = false :=
      (not_half_of_outside (by rw [CodePoint.toNat_scalar]; omega)).1
    rw [joinHalves_cons_of_not_high notHigh, ih whole.2]

/-- A written text is read with its halves joined. A first half that was read just before counts to
it. -/
theorem readText_flatMap_escaped (t rest : Text) (isHigh : ∀ high ∈ half, isHighHalf high = true) :
    readText opening done half offset (t.flatMap escaped ++ scalar '"' :: rest) =
      .ok (done.reverse ++ joinHalves (half.toList.map CodePoint.ofNat ++ t),
        ⟨offset + (t.flatMap escaped).length + 1, rest⟩) := by
  induction t generalizing done half offset with
  | nil =>
    rw [List.flatMap_nil, List.nil_append, readText]
    cases half with
    | none => simp [settle, joinHalves]
    | some high => simp [settle, joinHalves]
  | cons c more ih =>
    have inside : more.flatMap escaped ++ scalar '"' :: rest ≠ [] := by simp
    rw [List.flatMap_cons, List.append_assoc, readText_escaped c inside, List.length_append,
      ← Nat.add_assoc]
    cases high : isHighHalf c.toNat with
    | true =>
      have notLow : isLowHalf c.toNat = false := by
        rw [isHighHalf, Bool.and_eq_true, decide_eq_true_eq, decide_eq_true_eq] at high
        rw [isLowHalf, Bool.and_eq_false_iff, decide_eq_false_iff_not, decide_eq_false_iff_not]
        omega
      rw [if_pos rfl, ih fun _ same => Option.some.inj same ▸ high]
      cases half with
      | none => simp [settle]
      | some first => simp [settle, joinHalves_cons_of_not_low notLow]
    | false =>
      rw [if_neg Bool.false_ne_true, ih (by simp)]
      cases half with
      | none => simp [addUnit, joinHalves_cons_of_not_high high]
      | some first =>
        have isFirst := isHigh first rfl
        have code : (CodePoint.ofNat first).toNat = first := by
          rw [isHighHalf, Bool.and_eq_true, decide_eq_true_eq, decide_eq_true_eq] at isFirst
          exact CodePoint.toNat_ofNat (by omega)
        cases low : isLowHalf c.toNat with
        | true => simp [addUnit, low, joinHalves, code, isFirst]
        | false =>
          simp [addUnit, low, settle, joinHalves_cons_of_not_low low,
            joinHalves_cons_of_not_high high]

/-! ## Numbers -/

/-- A character with which a number or a word may go on: a digit, a mark, or a letter. -/
def goesOn (c : CodePoint) : Bool := isMark c || Text.inRanges [(0x41, 0x5A), (0x61, 0x7A)] c.toNat

/-- What may stand behind a value: nothing, or a character with which neither a number nor a word
goes on. -/
def EndsValue (rest : Text) : Prop := ∀ c ∈ rest.head?, goesOn c = false

theorem EndsValue.nil : EndsValue [] := fun _ none_ => nomatch none_

theorem EndsValue.cons {c : CodePoint} (ends : goesOn c = false) (rest : Text) :
    EndsValue (c :: rest) := by
  rintro _ ⟨⟩
  exact ends

theorem goesOn_of_isDigit {c : CodePoint} (digit : c.isDigit = true) : goesOn c = true := by
  rw [CodePoint.isDigit] at digit
  simp only [goesOn, isMark, digit, Bool.true_or]

variable {rest t : Text} {value : Json} {depth : Nat}

/-- What ends a value begins no part of a number. -/
theorem EndsValue.stops (ends : EndsValue rest) :
    rest.takeWhile CodePoint.isDigit = [] ∧ integerDigits rest = [] ∧ fractionDigits rest = [] ∧
      Numeral.sign rest = (false, rest) ∧ exponentOf? rest = none ∧
        unsigned rest = (false, rest) := by
  cases rest with
  | nil => exact ⟨rfl, rfl, rfl, rfl, rfl, rfl⟩
  | cons c more =>
    have stops := ends c rfl
    have differs {d : CodePoint} (goes : goesOn d = true) : c ≠ d := by
      rintro rfl
      rw [stops] at goes
      cases goes
    have noDigit : ¬ c.isDigit = true := fun digit => differs (goesOn_of_isDigit digit) rfl
    have noMark : ¬ (c = 'e' ∨ c = 'E') := not_or.mpr ⟨differs (by decide), differs (by decide)⟩
    have noDigits : (c :: more).takeWhile CodePoint.isDigit = [] :=
      List.takeWhile_cons_of_neg noDigit
    refine ⟨noDigits, ?_, ?_, ?_, ?_, ?_⟩
    · rw [integerDigits, noDigits]
      exact fun _ same => differs (by decide) (List.cons.inj same).1
    · rw [fractionDigits]
      exact fun _ same => differs (by decide) (List.cons.inj same).1
    · rw [Numeral.sign]
      · exact fun _ same => differs (by decide) (List.cons.inj same).1
      · exact fun _ same => differs (by decide) (List.cons.inj same).1
    · rw [exponentOf?, if_neg noMark]
    · rw [unsigned]
      exact fun _ same => differs (by decide) (List.cons.inj same).1

/-- Digits are read up to the end of a value. -/
theorem takeWhile_isDigit_append (ends : EndsValue rest) (t : Text) :
    (t ++ rest).takeWhile CodePoint.isDigit = t.takeWhile CodePoint.isDigit := by
  induction t with
  | nil => exact ends.stops.1
  | cons c more ih => rw [List.cons_append, List.takeWhile_cons, List.takeWhile_cons, ih]

theorem integerDigits_append (ends : EndsValue rest) (t : Text) :
    integerDigits (t ++ rest) = integerDigits t := by
  obtain ⟨_, nothing, _⟩ := ends.stops
  cases t with
  | nil => exact nothing
  | cons c more =>
    by_cases zero : c = '0'
    · subst zero
      rfl
    · rw [List.cons_append, integerDigits, integerDigits, ← List.cons_append,
        takeWhile_isDigit_append ends]
      · exact fun _ same => zero (List.cons.inj same).1
      · exact fun _ same => zero (List.cons.inj same).1

theorem fractionDigits_append (ends : EndsValue rest) (t : Text) :
    fractionDigits (t ++ rest) = fractionDigits t := by
  obtain ⟨_, _, nothing, _⟩ := ends.stops
  cases t with
  | nil => exact nothing
  | cons c more =>
    by_cases point : c = '.'
    · subst point
      exact takeWhile_isDigit_append ends more
    · rw [List.cons_append, fractionDigits, fractionDigits]
      · exact fun _ same => point (List.cons.inj same).1
      · exact fun _ same => point (List.cons.inj same).1

theorem sign_append (ends : EndsValue rest) (t : Text) :
    Numeral.sign (t ++ rest) = ((Numeral.sign t).1, (Numeral.sign t).2 ++ rest) := by
  obtain ⟨_, _, _, unsigned_, _⟩ := ends.stops
  cases t with
  | nil => exact unsigned_
  | cons c more =>
    by_cases minus : c = '-'
    · subst minus
      rfl
    by_cases plus : c = '+'
    · subst plus
      rfl
    rw [List.cons_append, Numeral.sign, Numeral.sign]
    · rfl
    · exact fun _ same => minus (List.cons.inj same).1
    · exact fun _ same => plus (List.cons.inj same).1
    · exact fun _ same => minus (List.cons.inj same).1
    · exact fun _ same => plus (List.cons.inj same).1

theorem exponentOf?_append (ends : EndsValue rest) (t : Text) :
    exponentOf? (t ++ rest) = exponentOf? t := by
  obtain ⟨_, _, _, _, nothing, _⟩ := ends.stops
  cases t with
  | nil => exact nothing
  | cons mark more =>
    rw [List.cons_append, exponentOf?, exponentOf?, sign_append ends]
    dsimp only
    rw [takeWhile_isDigit_append ends, List.length_append, List.length_append,
      Nat.add_sub_add_right]

theorem length_integerDigits_le (t : Text) : (integerDigits t).length ≤ t.length := by
  unfold integerDigits
  split
  · simp
  · exact List.takeWhile_sublist CodePoint.isDigit |>.length_le

theorem length_fractionDigits_le (t : Text) :
    (if (fractionDigits t).isEmpty then 0 else (fractionDigits t).length + 1) ≤ t.length := by
  unfold fractionDigits
  split
  case h_1 digits =>
    have := (List.takeWhile_sublist CodePoint.isDigit (l := digits)).length_le
    split
    · simp
    · simp
      omega
  case h_2 => simp

theorem exponentOf?_le {width : Nat} {power : Int} (found : exponentOf? t = some (width, power)) :
    width ≤ t.length := by
  cases t with
  | nil => cases found
  | cons mark more =>
    have digits := (List.takeWhile_sublist CodePoint.isDigit (l := (Numeral.sign more).2)).length_le
    have signed : (Numeral.sign more).2.length ≤ more.length := by
      unfold Numeral.sign
      split <;> simp
    rw [exponentOf?] at found
    dsimp only at found
    split at found
    case isFalse => cases found
    case isTrue =>
      split at found
      case h_1 => cases found
      case h_2 =>
        cases found
        rw [List.length_cons]
        omega

theorem unsigned_append (ends : EndsValue rest) (t : Text) :
    unsigned (t ++ rest) = ((unsigned t).1, (unsigned t).2 ++ rest) := by
  obtain ⟨_, _, _, _, _, unsigned_⟩ := ends.stops
  cases t with
  | nil => exact unsigned_
  | cons c more =>
    by_cases minus : c = '-'
    · subst minus
      rfl
    rw [List.cons_append, unsigned, unsigned]
    · rfl
    · exact fun _ same => minus (List.cons.inj same).1
    · exact fun _ same => minus (List.cons.inj same).1

theorem length_unsigned (t : Text) :
    t.length = (if (unsigned t).1 then 1 else 0) + (unsigned t).2.length := by
  unfold unsigned
  split
  · simp [Nat.add_comm]
  · simp

/-- A cursor that reaches the end of a text stops in front of what follows it. -/
theorem advance_append {width offset' : Nat} (fits : width ≤ t.length)
    (reached : (Cursor.mk offset t).advance width = ⟨offset', []⟩) (other : Nat) (rest : Text) :
    (Cursor.mk other (t ++ rest)).advance width = ⟨other + t.length, rest⟩ := by
  have whole : t.drop width = [] := (Cursor.mk.inj reached).2
  have long := List.drop_eq_nil_iff.mp whole
  have same : width = t.length := Nat.le_antisymm fits long
  rw [same, Cursor.advance, List.drop_left]

/-- Behind a number, a value may end: the number is read over the same width in front of what ends
it, and at any offset. -/
theorem readNumber_append {behind : Cursor} (ends : EndsValue rest)
    (read : readNumber ⟨offset, t⟩ = .ok (value, behind)) (other : Nat) :
    ∃ width ≤ t.length, (Cursor.mk offset t).advance width = behind ∧
      readNumber ⟨other, t ++ rest⟩ = .ok (value, (Cursor.mk other (t ++ rest)).advance width) := by
  have size := length_unsigned t
  unfold readNumber at read ⊢
  dsimp only at read ⊢
  rw [unsigned_append ends]
  generalize unsigned t = parts at read size ⊢
  obtain ⟨negative, body⟩ := parts
  dsimp only at read size ⊢
  have bounded := length_integerDigits_le body
  rw [integerDigits_append ends, List.drop_append_of_le_length bounded, fractionDigits_append ends]
  generalize integerDigits body = whole at read bounded ⊢
  have below : (body.drop whole.length).length = body.length - whole.length := List.length_drop
  generalize body.drop whole.length = behind at read below ⊢
  have bounded' := length_fractionDigits_le behind
  rw [List.drop_append_of_le_length bounded', exponentOf?_append ends]
  generalize fractionDigits behind = fraction at read bounded' ⊢
  generalize (if negative = true then 1 else 0) = signWidth at read size ⊢
  generalize (if fraction.isEmpty = true then 0 else fraction.length + 1) = fractionWidth
    at read bounded' ⊢
  have bounded'' : ((exponentOf? (behind.drop fractionWidth)).getD (0, 0)).1 ≤
      behind.length - fractionWidth := by
    cases found : exponentOf? (behind.drop fractionWidth) with
    | none => exact Nat.zero_le _
    | some parts =>
      have fits := exponentOf?_le found
      rw [List.length_drop] at fits
      exact fits
  generalize exponentOf? (behind.drop fractionWidth) = exponent at read bounded'' ⊢
  by_cases nothing : whole.isEmpty = true
  · rw [if_pos nothing] at read
    cases read
  rw [if_neg nothing] at read ⊢
  by_cases isInteger : fraction.isEmpty = true ∧ exponent = none
  · rw [if_pos isInteger] at read ⊢
    by_cases long : Numeral.maxDigits < whole.length
    · rw [if_pos long] at read
      cases read
    rw [if_neg long] at read ⊢
    obtain ⟨rfl, reached⟩ := Prod.mk.inj (Except.ok.inj read)
    exact ⟨signWidth + whole.length, by omega, reached, rfl⟩
  · rw [if_neg isInteger] at read ⊢
    obtain ⟨rfl, reached⟩ := Prod.mk.inj (Except.ok.inj read)
    exact ⟨_, by omega, reached, rfl⟩

/-! ## Scalars -/

/-- A word goes on up to its end, so it does not end behind what ends a value. -/
theorem isPrefixOf_append (ends : EndsValue rest) {word : Text} (goes : Only goesOn word)
    (t : Text) : word.isPrefixOf (t ++ rest) = word.isPrefixOf t := by
  induction word generalizing t with
  | nil => rfl
  | cons c more ih =>
    have goes' : Only goesOn more := goes.of_subset (List.subset_cons_self c more)
    cases t with
    | nil =>
      cases rest with
      | nil => rfl
      | cons d rest =>
        have differs : c ≠ d := by
          rintro rfl
          have stops := ends c rfl
          rw [goes c List.mem_cons_self] at stops
          cases stops
        simp [List.isPrefixOf, differs]
    | cons d t => rw [List.cons_append, List.isPrefixOf, List.isPrefixOf, ih goes']

theorem words_find?_append (ends : EndsValue rest) (t : Text) :
    (words.find? fun (word, _) => word.isPrefixOf (t ++ rest)) =
      words.find? fun (word, _) => word.isPrefixOf t := by
  have inside : ∀ entry ∈ words, Only goesOn entry.1 := by decide
  refine List.find?_congr ?_
  intro entry member
  exact isPrefixOf_append ends (inside entry member) t

/-- The same holds of words and numbers. -/
theorem readScalar_append {behind : Cursor} (ends : EndsValue rest)
    (read : readScalar ⟨offset, t⟩ = .ok (value, behind)) (other : Nat) :
    ∃ width ≤ t.length, (Cursor.mk offset t).advance width = behind ∧
      readScalar ⟨other, t ++ rest⟩ = .ok (value, (Cursor.mk other (t ++ rest)).advance width) := by
  unfold readScalar at read ⊢
  dsimp only at read ⊢
  rw [words_find?_append ends]
  cases found : words.find? fun (word, _) => word.isPrefixOf t with
  | none =>
    rw [found] at read
    exact readNumber_append ends read other
  | some entry =>
    obtain ⟨word, meaning⟩ := entry
    rw [found] at read
    have isPrefix : word.isPrefixOf t = true := by
      have holds := List.find?_some found
      exact holds
    obtain ⟨rfl, reached⟩ := Prod.mk.inj (Except.ok.inj read)
    exact ⟨word.length, (List.isPrefixOf_iff_prefix.mp isPrefix).length_le, reached, rfl⟩

/-- What consists of digits and marks begins with no word. -/
theorem words_find?_of_marks (marks : Only isMark t) :
    (words.find? fun (word, _) => word.isPrefixOf t) = none := by
  have letters : ∀ entry ∈ words, ¬ Only isMark entry.1 := by decide
  refine List.find?_eq_none.mpr ?_
  intro entry member isPrefix
  have inText := (List.isPrefixOf_iff_prefix.mp isPrefix).subset
  exact letters entry member (marks.of_subset inText)

/-- A reader reads a text as a value, wherever the text stands and however the value ends. -/
def Reads (reader : Cursor → Outcome Json) (t : Text) (value : Json) : Prop :=
  ∀ offset rest, EndsValue rest →
    reader ⟨offset, t ++ rest⟩ = .ok (value, ⟨offset + t.length, rest⟩)

/-- What begins with no quote and no bracket is a word or a number. -/
theorem readValue_of_scalar {c : CodePoint} (plain : c ≠ '"' ∧ c ≠ '[' ∧ c ≠ '\x7b') (t : Text)
    (depth offset : Nat) : readValue depth ⟨offset, c :: t⟩ = readScalar ⟨offset, c :: t⟩ := by
  obtain ⟨notQuote, notBracket, notBrace⟩ := plain
  unfold readValue
  split
  case h_1 none_ => cases none_
  case h_2 same => exact absurd (List.cons.inj same).1 notQuote
  case h_3 same => exact absurd (List.cons.inj same).1 notBracket
  case h_4 same => exact absurd (List.cons.inj same).1 notBrace
  case h_5 => rfl

theorem reads_scalar {c : CodePoint} {offset' : Nat} (plain : c ≠ '"' ∧ c ≠ '[' ∧ c ≠ '\x7b')
    (read : readScalar ⟨0, c :: t⟩ = .ok (value, ⟨offset', []⟩)) (depth : Nat) :
    Reads (readValue depth) (c :: t) value := by
  intro offset rest ends
  obtain ⟨width, fits, reached, again⟩ := readScalar_append ends read offset
  rw [List.cons_append, readValue_of_scalar plain, ← List.cons_append, again,
    advance_append fits reached]

/-- The characters of numbers open neither texts nor brackets. -/
theorem plain_of_isMark {c : CodePoint} (mark : isMark c = true) :
    c ≠ '"' ∧ c ≠ '[' ∧ c ≠ '\x7b' := by
  refine ⟨?_, ?_, ?_⟩
  · rintro rfl
    cases mark
  · rintro rfl
    cases mark
  · rintro rfl
    cases mark

/-! ### Integers -/

theorem integerDigits_decimal (n : Nat) :
    integerDigits (Numeral.decimal n) = Numeral.decimal n := by
  by_cases zero : n = 0
  · subst zero
    rfl
  · obtain ⟨d, rest, nonzero, _, shape⟩ := Numeral.decimal_of_pos (Nat.pos_of_ne_zero zero)
    have notZero : d.digitChar ≠ '0' := by
      rw [Ne, Nat.digitChar_eq_zero]
      omega
    have digits : ∀ c ∈ Numeral.decimal n, c.isDigit = true :=
      fun _ => Numeral.isDigit_of_mem_decimal
    rw [shape] at digits ⊢
    rw [integerDigits]
    · exact List.takeWhile_eq_self_iff.mpr digits
    · exact fun _ same => notZero (CodePoint.scalar.inj (List.cons.inj same).1)

/-- A number has no sign to take off, whatever follows its numeral. -/
theorem unsigned_decimal (n : Nat) (rest : Text) :
    unsigned (Numeral.decimal n ++ rest) = (false, Numeral.decimal n ++ rest) := by
  rw [unsigned]
  exact fun more => Numeral.decimal_append_ne n rest more

theorem unsigned_ofInt (i : Int) (rest : Text) :
    unsigned (Numeral.ofInt i ++ rest) = (decide (i < 0), Numeral.decimal i.natAbs ++ rest) := by
  cases i with
  | ofNat n =>
    have notNegative : ¬ Int.ofNat n < 0 := Int.not_lt.mpr (Int.natCast_nonneg n)
    rw [decide_eq_false notNegative]
    exact unsigned_decimal n rest
  | negSucc n =>
    rw [decide_eq_true (Int.negSucc_lt_zero n)]
    rfl

/-- Digits behind an optional hyphen are read as an integer. -/
theorem readNumber_of_unsigned {negative : Bool} {n : Nat}
    (parts : unsigned t = (negative, Numeral.decimal n))
    (short : (Numeral.decimal n).length ≤ Numeral.maxDigits) (offset : Nat) :
    readNumber ⟨offset, t⟩ =
      .ok (.integer (if negative then -(n : Int) else n), ⟨offset + t.length, []⟩) := by
  have size := length_unsigned t
  have nonempty : (Numeral.decimal n).isEmpty = false := by
    rw [Numeral.decimal]
    simp [Numeral.numeral_ne_nil]
  have denotes : magnitudeOf (Numeral.decimal n) = n := by
    rw [magnitudeOf, Numeral.decimal, Numeral.ofDigits?_numeral (by omega) (by omega)]
    rfl
  rw [parts] at size
  unfold readNumber
  dsimp only at size ⊢
  rw [parts]
  dsimp only
  rw [integerDigits_decimal, nonempty, List.drop_length, denotes, ← size,
    if_neg Bool.false_ne_true, if_pos ⟨rfl, by rw [List.drop_nil]; rfl⟩,
    if_neg (Nat.not_lt.mpr short), Cursor.advance, List.drop_length]

theorem readNumber_ofInt {i : Int} (short : Numeral.isShort i = true) (offset : Nat) :
    readNumber ⟨offset, Numeral.ofInt i⟩ =
      .ok (.integer i, ⟨offset + (Numeral.ofInt i).length, []⟩) := by
  have parts := unsigned_ofInt i []
  rw [List.append_nil, List.append_nil] at parts
  have read := readNumber_of_unsigned parts (Numeral.length_decimal_of_isShort short) offset
  rwa [Numeral.signed_natAbs] at read

end CharTally.Json
