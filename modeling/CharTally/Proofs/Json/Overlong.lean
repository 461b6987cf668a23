import CharTally.Proofs.Json.Real
import CharTally.Proofs.Json.Spelling

/-!
# An integer that is too long

A reader leaves a piece at the end of what it was given (`Trims`), so the room that the members of
an object are given never runs out, and a member is reached whenever those in front of it are read
(`ReachesMember`). Where its value is an integer with more digits than are converted, the whole
document fails with nothing but their number (`read_of_overlong`), whatever stands behind.
-/

namespace CharTally.Json

variable {item : Cursor → Outcome Json} {cursor behind start : Cursor} {value : Json}
  {name t rest : Text}

/-! ## Readers trim -/

theorem Cursor.advance_suffix (cursor : Cursor) (count : Nat) :
    (cursor.advance count).rest <:+ cursor.rest :=
  List.drop_suffix count cursor.rest

theorem Cursor.skip_suffix (cursor : Cursor) : cursor.skip.rest <:+ cursor.rest :=
  cursor.advance_suffix _

/-- A reader leaves a piece at the end of what it was given. -/
def Trims (item : Cursor → Outcome Json) : Prop :=
  ∀ cursor value behind, item cursor = .ok (value, behind) → behind.rest <:+ cursor.rest

theorem readText_suffix {opening offset : Nat} {done text : Text} {half : Option Nat}
    (ran : readText opening done half offset t = .ok (text, behind)) : behind.rest <:+ t := by
  fun_induction readText opening done half offset t
  case case2 rest => cases ran; exact List.suffix_cons _ rest
  case case6 a b c d _ _ _ _ _ ih => exact (ih ran).trans ⟨['\\', 'u', a, b, c, d], rfl⟩
  case case7 a b c d _ _ _ _ _ ih => exact (ih ran).trans ⟨['\\', 'u', a, b, c, d], rfl⟩
  case case9 letter _ _ _ _ _ ih => exact (ih ran).trans ⟨['\\', letter], rfl⟩
  case case12 c _ _ _ _ _ _ _ ih => exact (ih ran).trans (List.suffix_cons c _)
  all_goals cases ran

theorem readNumber_suffix (ran : readNumber cursor = .ok (value, behind)) :
    behind.rest <:+ cursor.rest := by
  unfold readNumber at ran
  generalize unsigned cursor.rest = parts at ran
  obtain ⟨negative, body⟩ := parts
  dsimp only at ran
  generalize (if negative = true then 1 else 0) = signWidth at ran
  generalize (if (fractionDigits _).isEmpty = true then 0 else _) = width at ran
  split at ran
  case isTrue => cases ran
  case isFalse =>
    split at ran
    case isTrue =>
      split at ran
      case isTrue => cases ran
      case isFalse => cases ran; exact cursor.advance_suffix _
    case isFalse => cases ran; exact cursor.advance_suffix _

theorem readScalar_suffix (ran : readScalar cursor = .ok (value, behind)) :
    behind.rest <:+ cursor.rest := by
  unfold readScalar at ran
  split at ran
  case h_1 => cases ran; exact cursor.advance_suffix _
  case h_2 => exact readNumber_suffix ran

theorem readItems_suffix (trims : Trims item) {done : List Json} {room : Nat}
    (ran : readItems item done room cursor = .ok (value, behind)) :
    behind.rest <:+ cursor.rest := by
  induction room generalizing done cursor with
  | zero => cases ran
  | succ room ih =>
    rw [readItems] at ran
    split at ran
    case h_1 => cases ran
    case h_2 _ next read =>
      have left : next.skip.rest <:+ cursor.rest := next.skip_suffix.trans (trims _ _ _ read)
      dsimp only at ran
      split at ran
      case h_1 => cases ran; exact (next.skip.advance_suffix 1).trans left
      case h_2 =>
        exact ((ih ran).trans (Cursor.skip_suffix _)).trans
          ((next.skip.advance_suffix 1).trans left)
      case h_3 => cases ran

/-- The value of a member begins behind its name. -/
theorem NameAt.suffix (named : NameAt cursor name start) : start.rest <:+ cursor.rest := by
  obtain ⟨letters, colon, _, quote, read, _, rfl⟩ := named
  rw [quote]
  exact (((Cursor.skip_suffix _).trans (Cursor.advance_suffix _ _)).trans
    (colon.skip_suffix.trans (readText_suffix read))).trans (List.suffix_cons _ _)

theorem readMembers_suffix (trims : Trims item) {done : List (Text × Json)} {room : Nat}
    (ran : readMembers item done room cursor = .ok (value, behind)) :
    behind.rest <:+ cursor.rest := by
  induction room generalizing done cursor with
  | zero => cases ran
  | succ room ih =>
    rw [readMembers] at ran
    split at ran
    case h_2 => cases ran
    case h_1 letters quote =>
      split at ran
      case h_1 => cases ran
      case h_2 name colon named =>
        dsimp only at ran
        split at ran
        case h_2 => cases ran
        case h_1 more isColon =>
          split at ran
          case h_1 => cases ran
          case h_2 _ next read =>
            have left : next.skip.rest <:+ cursor.rest :=
              next.skip_suffix.trans ((trims _ _ _ read).trans
                (NameAt.suffix ⟨letters, colon, more, quote, named, isColon, rfl⟩))
            split at ran
            case h_1 => cases ran; exact (next.skip.advance_suffix 1).trans left
            case h_2 =>
              exact ((ih ran).trans (Cursor.skip_suffix _)).trans
                ((next.skip.advance_suffix 1).trans left)
            case h_3 => cases ran

/-- A reader trims, if this is so one bracket further down. -/
theorem readValue_suffix {depth : Nat}
    (below : ∀ less, depth = less + 1 → Trims (readValue less))
    (ran : readValue depth cursor = .ok (value, behind)) : behind.rest <:+ cursor.rest := by
  have inside : (cursor.advance 1).skip.rest <:+ cursor.rest :=
    (Cursor.skip_suffix _).trans (cursor.advance_suffix 1)
  unfold readValue at ran
  split at ran
  case h_1 => cases ran
  case h_2 letters quote =>
    split at ran
    case h_1 => cases ran
    case h_2 read =>
      cases ran
      rw [quote]
      exact (readText_suffix read).trans (List.suffix_cons _ _)
  case h_3 =>
    cases depth with
    | zero => cases ran
    | succ depth =>
      dsimp only at ran
      split at ran
      case h_1 => cases ran; exact (Cursor.advance_suffix _ 1).trans inside
      case h_2 => exact (readItems_suffix (below depth rfl) ran).trans inside
  case h_4 =>
    cases depth with
    | zero => cases ran
    | succ depth =>
      dsimp only at ran
      split at ran
      case h_1 => cases ran; exact (Cursor.advance_suffix _ 1).trans inside
      case h_2 => exact (readMembers_suffix (below depth rfl) ran).trans inside
  case h_5 => exact readScalar_suffix ran

/-- At every depth, the reader trims. -/
theorem trims_readValue (depth : Nat) : Trims (readValue depth) := by
  induction depth with
  | zero =>
    intro cursor value behind ran
    refine readValue_suffix ?_ ran
    intro less above
    omega
  | succ depth ih =>
    intro cursor value behind ran
    refine readValue_suffix ?_ ran
    intro less above
    rw [← Nat.succ_inj.mp above]
    exact ih

/-! ## A member that is reached -/

/-- Behind members that are read, and the comma behind each, a member of a name stands; its value
begins at a cursor. -/
inductive ReachesMember (item : Cursor → Outcome Json) (name : Text) : Cursor → Cursor → Prop
  | here {cursor start : Cursor} (named : NameAt cursor name start) :
      ReachesMember item name cursor start
  | later {cursor first behind start : Cursor} {other more : Text} {value : Json}
      (named : NameAt cursor other first) (read : item first = .ok (value, behind))
      (goesOn : behind.skip.rest = scalar ',' :: more)
      (further : ReachesMember item name (behind.skip.advance 1).skip start) :
      ReachesMember item name cursor start

/-- What fails in a member that is reached fails in the object. -/
theorem readMembers_of_reached {fault : Fault} (trims : Trims item)
    (reached : ReachesMember item name cursor start) (failed : item start = .error fault)
    {room : Nat} (enough : cursor.rest.length < room) (done : List (Text × Json)) :
    readMembers item done room cursor = .error fault := by
  induction reached generalizing room done with
  | here named =>
    obtain ⟨room, rfl⟩ : ∃ less, room = less + 1 := ⟨room - 1, by omega⟩
    obtain ⟨letters, colon, more, quote, read, isColon, rfl⟩ := named
    rw [readMembers]
    simp only [quote, read, isColon, failed]
  | @later cursor first behind start other more value named read goesOn further ih =>
    obtain ⟨room, rfl⟩ : ∃ less, room = less + 1 := ⟨room - 1, by omega⟩
    -- The comma is behind the name, so less is left for the members that follow.
    have left : behind.skip.rest <:+ cursor.rest :=
      behind.skip_suffix.trans ((trims _ _ _ read).trans named.suffix)
    have shorter : (behind.skip.advance 1).skip.rest.length < room := by
      have size := left.length_le
      have behindComma := (Cursor.skip_suffix (behind.skip.advance 1)).length_le
      rw [Cursor.advance, goesOn] at behindComma
      rw [goesOn, List.length_cons] at size
      rw [Cursor.advance, goesOn]
      simp only [List.drop_succ_cons, List.drop_zero] at behindComma ⊢
      omega
    obtain ⟨letters, colon, _, quote, spelled, isColon, rfl⟩ := named
    rw [readMembers]
    simp only [quote, spelled, isColon, read, goesOn]
    exact ih failed shorter _

/-- In the object that a document is, a member of a name is reached; its value begins at a
cursor. -/
def Reaches (document name : Text) (start : Cursor) : Prop :=
  ∃ depth inside, maxDepth = depth + 1 ∧
    (Cursor.skip ⟨0, document⟩).rest = scalar '\x7b' :: inside ∧
    ReachesMember (readValue depth) name ((Cursor.skip ⟨0, document⟩).advance 1).skip start

/-- What fails in a member that is reached fails in the document. -/
theorem read_of_reached {document : Text} {fault : Fault} (reached : Reaches document name start)
    (failed : ∀ depth, readValue depth start = .error fault) : read document = .error fault := by
  obtain ⟨depth, inside, isDepth, opened, member⟩ := reached
  generalize found : Cursor.skip ⟨0, document⟩ = first at opened member
  have unmarked : ∀ more, document ≠ scalar '\ufeff' :: more := by
    rintro more rfl
    rw [skip_cons (by decide)] at found
    rw [← found] at opened
    cases opened
  have isOpen : ∀ more, (first.advance 1).skip.rest ≠ scalar '\x7d' :: more := by
    intro more closed
    cases member with
    | here named => obtain ⟨_, _, _, quote, _⟩ := named; rw [closed] at quote; cases quote
    | later named => obtain ⟨_, _, _, quote, _⟩ := named; rw [closed] at quote; cases quote
  have fails : readValue maxDepth first = .error fault := by
    rw [isDepth]
    unfold readValue
    simp only [opened]
    exact readMembers_of_reached (trims_readValue depth) member (failed depth)
      (Nat.lt_succ_self _) []
  rw [read, found, fails]
  exact unmarked

/-! ## Numerals -/

/-- What may follow the value of a member: nothing, spacing, a comma or the closing brace. -/
def EndsMember (rest : Text) : Prop :=
  ∀ c ∈ rest.head?, isSpacing c = true ∨ c = ',' ∨ c = '\x7d'

theorem EndsMember.cases (ends : EndsMember rest) :
    rest = [] ∨ ∃ c more, rest = c :: more ∧ c ∈ ([' ', '\t', '\n', '\r', ',', '\x7d'] : Text) := by
  cases rest with
  | nil => exact Or.inl rfl
  | cons c more =>
    have first := ends c rfl
    simp only [isSpacing, Bool.or_eq_true, decide_eq_true_eq] at first
    refine Or.inr ⟨c, more, rfl, ?_⟩
    simp only [List.mem_cons, List.not_mem_nil, or_false]
    tauto

/-- What ends a member belongs to no number. -/
theorem EndsMember.stops (ends : EndsMember rest) :
    (∀ c ∈ rest.head?, c.isDigit = false) ∧ fractionDigits rest = [] ∧ exponentOf? rest = none := by
  rcases ends.cases with rfl | ⟨c, more, rfl, among⟩
  · exact ⟨nofun, rfl, rfl⟩
  · simp only [List.mem_cons, List.not_mem_nil, or_false] at among
    rcases among with rfl | rfl | rfl | rfl | rfl | rfl <;>
      simp [fractionDigits, exponentOf?, CodePoint.isDigit]

/-- No word begins a text of marks that is longer than the words, whatever follows it. -/
theorem words_find?_of_long_marks (marks : Only isMark t) (long : 9 ≤ t.length) (rest : Text) :
    (words.find? fun (word, _) => word.isPrefixOf (t ++ rest)) = none := by
  have letters : ∀ entry ∈ words, entry.1.length ≤ 9 ∧ ¬ Only isMark entry.1 := by decide
  apply List.find?_eq_none.mpr
  intro entry member begins
  obtain ⟨short, notMarks⟩ := letters entry member
  have inText := List.prefix_of_prefix_length_le (List.isPrefixOf_iff_prefix.mp begins)
    (List.prefix_append t rest) (short.trans long)
  exact notMarks (marks.of_subset inText.subset)

/-- An integer with more digits than are converted is not read. -/
theorem readNumber_of_overlong {integer : Int}
    (long : Numeral.maxDigits < (Numeral.decimal integer.natAbs).length) (ends : EndsMember rest)
    (offset : Nat) :
    readNumber ⟨offset, Numeral.ofInt integer ++ rest⟩ =
      .error (.numeralTooLong (Numeral.decimal integer.natAbs).length) := by
  have parts := unsigned_ofInt integer rest
  have positive : 0 < integer.natAbs := by
    apply Nat.pos_of_ne_zero
    intro zero
    rw [zero] at long
    exact absurd long (by decide)
  have digits : ∀ c ∈ Numeral.decimal integer.natAbs, c.isDigit = true :=
    fun _ => Numeral.isDigit_of_mem_decimal
  obtain ⟨d, more, nonzero, _, shape⟩ := Numeral.decimal_of_pos positive
  generalize Numeral.decimal integer.natAbs = whole at parts long digits shape ⊢
  have notZero : d.digitChar ≠ '0' := by
    rw [Ne, Nat.digitChar_eq_zero]
    omega
  obtain ⟨noDigit, noFraction, noExponent⟩ := ends.stops
  have isWhole : integerDigits (whole ++ rest) = whole := by
    rw [shape] at digits ⊢
    exact integerDigits_of_digits (mt CodePoint.scalar.inj notZero) digits noDigit
  unfold readNumber
  dsimp only
  rw [parts]
  dsimp only
  have filled : ¬ whole.isEmpty = true := by simp [shape]
  have tail : exponentOf? (rest.drop 0) = none := noExponent
  rw [isWhole, List.drop_left, noFraction, if_neg filled, if_pos ⟨rfl, tail⟩, if_pos long]

/-- The same holds of values. -/
theorem readValue_of_overlong {integer : Int}
    (long : Numeral.maxDigits < (Numeral.decimal integer.natAbs).length) (ends : EndsMember rest)
    (depth offset : Nat) :
    readValue depth ⟨offset, Numeral.ofInt integer ++ rest⟩ =
      .error (.numeralTooLong (Numeral.decimal integer.natAbs).length) := by
  have marks := Numeral.only_ofInt integer
  have wide : 9 ≤ (Numeral.ofInt integer).length := by
    have digits : 9 ≤ (Numeral.decimal integer.natAbs).length := by
      rw [Numeral.maxDigits] at long
      omega
    cases integer with
    | ofNat n => exact digits
    | negSucc n => exact Nat.le_succ_of_le digits
  have none_ := words_find?_of_long_marks marks wide rest
  have number := readNumber_of_overlong long ends offset
  generalize Numeral.ofInt integer = t at marks wide none_ number ⊢
  cases t with
  | nil => cases wide
  | cons c more =>
    rw [List.cons_append, readValue_of_scalar (plain_of_isMark (marks c List.mem_cons_self)),
      readScalar, ← List.cons_append]
    dsimp only
    rw [none_]
    exact number

/-- A member of a name is written as an integer with more digits than are converted. -/
def HasOverlong (document name : Text) (digits : Nat) : Prop :=
  ∃ start integer rest, Reaches document name start ∧ start.rest = Numeral.ofInt integer ++ rest ∧
    EndsMember rest ∧ digits = (Numeral.decimal integer.natAbs).length ∧ Numeral.maxDigits < digits

/-- **A document with an integer that is too long in a member is not read**, for no reason but the
number of its digits. -/
theorem read_of_overlong {document : Text} {digits : Nat}
    (overlong : HasOverlong document name digits) :
    read document = .error (.numeralTooLong digits) := by
  obtain ⟨⟨offset, written⟩, integer, rest, reached, rfl, ends, rfl, long⟩ := overlong
  exact read_of_reached reached fun depth => readValue_of_overlong long ends depth offset

end CharTally.Json
