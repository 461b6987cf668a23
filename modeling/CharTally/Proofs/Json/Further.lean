import CharTally.Proofs.Json.Overlong

/-!
# A value with more behind it

A reader that has read a value has looked no further than what ends it: with more text at the end of
its cursor it reads the same value and leaves the rest in front of that text (`Contained`,
`contained_readValue`). Texts and brackets close themselves; a number or a word has to be followed
by something with which it does not go on.

So a text that holds one value and is followed by something that is no spacing is no JSON any more,
and the fault is at what follows (`read_append_of_read`).
-/

namespace CharTally.Json

variable {item : Cursor → Outcome Json} {cursor behind : Cursor} {value : Json} {more : Text}

/-- The cursor with more at the end of its text. -/
def Cursor.before (cursor : Cursor) (more : Text) : Cursor := ⟨cursor.offset, cursor.rest ++ more⟩

theorem Cursor.advance_before {count : Nat} (fits : count ≤ cursor.rest.length) (more : Text) :
    (cursor.before more).advance count = (cursor.advance count).before more := by
  rw [advance, before, List.drop_append_of_le_length fits]
  rfl

/-- Spacing that is followed by something goes no further. -/
theorem Cursor.skip_before (some_ : cursor.skip.rest ≠ []) (more : Text) :
    (cursor.before more).skip = cursor.skip.before more := by
  have shorter : (cursor.rest.takeWhile isSpacing).length < cursor.rest.length := by
    rw [skip, advance] at some_
    exact Nat.lt_of_not_le (mt List.drop_eq_nil_iff.mpr some_)
  have same : (cursor.rest ++ more).takeWhile isSpacing = cursor.rest.takeWhile isSpacing := by
    rw [List.takeWhile_append, if_neg (Nat.ne_of_lt shorter)]
  have fits := advance_before shorter.le more
  rw [skip, before, same]
  exact fits

/-- A reader needs something to read, and looks no further than what ends its value. -/
structure Contained (item : Cursor → Outcome Json) : Prop where
  begins : ∀ {cursor value behind}, item cursor = .ok (value, behind) → cursor.rest ≠ []
  before : ∀ {cursor value behind more}, item cursor = .ok (value, behind) → EndsValue more →
    item (cursor.before more) = .ok (value, behind.before more)

theorem readText_before {opening offset : Nat} {done text t : Text} {half : Option Nat}
    (ran : readText opening done half offset t = .ok (text, behind)) (more : Text) :
    readText opening done half offset (t ++ more) = .ok (text, behind.before more) := by
  have longer {t : Text} (goesOn : ¬ t.isEmpty = true) : ¬ (t ++ more).isEmpty = true := by
    rw [List.isEmpty_iff] at goesOn ⊢
    exact List.append_ne_nil_of_left_ne_nil goesOn more
  fun_induction readText opening done half offset t
  case case2 rest => cases ran; rfl
  case case6 goesOn unit isUnit high ih =>
    rw [List.cons_append, List.cons_append, List.cons_append, List.cons_append, List.cons_append,
      List.cons_append, readText, if_neg (longer goesOn), isUnit]
    dsimp only
    rw [if_pos high, ih ran]
  case case7 goesOn unit isUnit low ih =>
    rw [List.cons_append, List.cons_append, List.cons_append, List.cons_append, List.cons_append,
      List.cons_append, readText, if_neg (longer goesOn), isUnit]
    dsimp only
    rw [if_neg low, ih ran]
  case case9 letter rest notUnit notLetter c isEscape ih =>
    rw [List.cons_append, List.cons_append, readText, isEscape]
    · exact ih ran
    · exact fun a b c d more isLetter => absurd isLetter notLetter
    · exact notLetter
  case case12 c rest notQuote notEnd _ _ notEscape printed ih =>
    have notBackslash : c ≠ '\\' := by
      intro isBackslash
      cases rest with
      | nil => exact notEnd isBackslash rfl
      | cons letter rest => exact notEscape letter rest isBackslash rfl
    rw [List.cons_append, readText, if_neg printed, ih ran]
    · exact notQuote
    · exact fun isBackslash => absurd isBackslash notBackslash
    · exact fun a b c d more isBackslash => absurd isBackslash notBackslash
    · exact fun more isBackslash => absurd isBackslash notBackslash
    · exact fun letter rest isBackslash => absurd isBackslash notBackslash
  all_goals cases ran

theorem readScalar_before (ran : readScalar cursor = .ok (value, behind)) (ends : EndsValue more) :
    readScalar (cursor.before more) = .ok (value, behind.before more) := by
  obtain ⟨width, fits, reached, again⟩ := readScalar_append ends ran cursor.offset
  rw [Cursor.before, again, ← reached, ← Cursor.advance_before fits]
  rfl

/-- A character stays in its place, and what is behind it has more at its end. -/
theorem Cursor.rest_before {c : CodePoint} {rest : Text} (here : cursor.rest = c :: rest) :
    (cursor.before more).rest = c :: (rest ++ more) := by
  rw [before, here]
  rfl

theorem Cursor.advance_one_before {c : CodePoint} {rest : Text} (here : cursor.rest = c :: rest) :
    (cursor.before more).advance 1 = (cursor.advance 1).before more :=
  advance_before (by rw [here]; exact Nat.le_add_left 1 rest.length) more

theorem Cursor.skip_before_of_cons {c : CodePoint} {rest : Text}
    (here : cursor.skip.rest = c :: rest) :
    (cursor.before more).skip = cursor.skip.before more :=
  skip_before (by rw [here]; exact List.cons_ne_nil c rest) more

/-! ## Brackets -/

theorem readItems_begins (contained : Contained item) {done : List Json} {room : Nat}
    (ran : readItems item done room cursor = .ok (value, behind)) : cursor.rest ≠ [] := by
  cases room with
  | zero => cases ran
  | succ room =>
    rw [readItems] at ran
    split at ran
    case h_1 => cases ran
    case h_2 read => exact contained.begins read

theorem readItems_before (contained : Contained item) (ends : EndsValue more) {done : List Json}
    {room wider : Nat} (ran : readItems item done room cursor = .ok (value, behind))
    (enough : room ≤ wider) :
    readItems item done wider (cursor.before more) = .ok (value, behind.before more) := by
  induction room generalizing done cursor wider with
  | zero => cases ran
  | succ room ih =>
    obtain ⟨wider, rfl⟩ : ∃ less, wider = less + 1 := ⟨wider - 1, by omega⟩
    rw [readItems] at ran ⊢
    split at ran
    case h_1 => cases ran
    case h_2 found next read =>
      rw [contained.before read ends]
      dsimp only at ran ⊢
      split at ran
      case h_1 rest here =>
        cases ran
        rw [Cursor.skip_before_of_cons here, Cursor.advance_one_before here]
        simp only [Cursor.rest_before here]
      case h_2 rest here =>
        have inside := Cursor.skip_before (readItems_begins contained ran) more
        rw [Cursor.skip_before_of_cons here, Cursor.advance_one_before here, inside]
        simp only [Cursor.rest_before here]
        exact ih ran (Nat.le_of_succ_le_succ enough)
      case h_3 => cases ran

theorem readMembers_begins {done : List (Text × Json)} {room : Nat}
    (ran : readMembers item done room cursor = .ok (value, behind)) : cursor.rest ≠ [] := by
  intro none_
  cases room with
  | zero => cases ran
  | succ room =>
    rw [readMembers, none_] at ran
    cases ran

theorem readMembers_before (contained : Contained item) (ends : EndsValue more)
    {done : List (Text × Json)} {room wider : Nat}
    (ran : readMembers item done room cursor = .ok (value, behind)) (enough : room ≤ wider) :
    readMembers item done wider (cursor.before more) = .ok (value, behind.before more) := by
  induction room generalizing done cursor wider with
  | zero => cases ran
  | succ room ih =>
    obtain ⟨wider, rfl⟩ : ∃ less, wider = less + 1 := ⟨wider - 1, by omega⟩
    rw [readMembers] at ran ⊢
    split at ran
    case h_2 => cases ran
    case h_1 letters quote =>
      split at ran
      case h_1 => cases ran
      case h_2 name colon named =>
        have named' : readText (cursor.before more).offset [] none
            ((cursor.before more).offset + 1) (letters ++ more) = .ok (name, colon.before more) :=
          readText_before named more
        simp only [Cursor.rest_before quote, named']
        dsimp only at ran
        split at ran
        case h_2 => cases ran
        case h_1 rest isColon =>
          split at ran
          case h_1 => cases ran
          case h_2 found next read =>
            have start := Cursor.skip_before (contained.begins read) more
            rw [Cursor.skip_before_of_cons isColon, Cursor.advance_one_before isColon, start]
            simp only [Cursor.rest_before isColon, contained.before read ends]
            split at ran
            case h_1 rest here =>
              cases ran
              rw [Cursor.skip_before_of_cons here, Cursor.advance_one_before here]
              simp only [Cursor.rest_before here]
            case h_2 rest here =>
              have inside := Cursor.skip_before (readMembers_begins ran) more
              rw [Cursor.skip_before_of_cons here, Cursor.advance_one_before here, inside]
              simp only [Cursor.rest_before here]
              exact ih ran (Nat.le_of_succ_le_succ enough)
            case h_3 => cases ran

/-! ## Values -/

theorem readValue_begins {depth : Nat} (ran : readValue depth cursor = .ok (value, behind)) :
    cursor.rest ≠ [] := by
  intro none_
  unfold readValue at ran
  rw [none_] at ran
  cases ran

/-- A reader is contained, if this is so one bracket further down. -/
theorem readValue_before {depth : Nat}
    (below : ∀ less, depth = less + 1 → Contained (readValue less)) (ends : EndsValue more)
    (ran : readValue depth cursor = .ok (value, behind)) :
    readValue depth (cursor.before more) = .ok (value, behind.before more) := by
  have wider (inside : Cursor) :
      inside.rest.length + 1 ≤ (inside.before more).rest.length + 1 := by
    rw [Cursor.before, List.length_append]
    omega
  unfold readValue at ran
  split at ran
  case h_1 => cases ran
  case h_2 letters quote =>
    split at ran
    case h_1 => cases ran
    case h_2 text next read =>
      cases ran
      have again : readText (cursor.before more).offset [] none
          ((cursor.before more).offset + 1) (letters ++ more) = .ok (text, behind.before more) :=
        readText_before read more
      unfold readValue
      simp only [Cursor.rest_before quote, again]
  case h_3 letters bracket =>
    cases depth with
    | zero => cases ran
    | succ depth =>
      have contained := below depth rfl
      unfold readValue
      simp only [Cursor.rest_before bracket, Cursor.advance_one_before bracket]
      dsimp only at ran
      split at ran
      case h_1 rest here =>
        cases ran
        rw [Cursor.skip_before_of_cons here, Cursor.advance_one_before here]
        simp only [Cursor.rest_before here]
      case h_2 notClosed =>
        have begins := readItems_begins contained ran
        have again := readItems_before contained ends ran (wider _)
        obtain ⟨c, rest, here⟩ := List.exists_cons_of_ne_nil begins
        rw [Cursor.skip_before begins]
        split
        case h_1 same =>
          rw [Cursor.rest_before here] at same
          exact absurd (here.trans (congrArg (· :: rest) (List.cons.inj same).1)) (notClosed _)
        case h_2 => exact again
  case h_4 letters brace =>
    cases depth with
    | zero => cases ran
    | succ depth =>
      have contained := below depth rfl
      unfold readValue
      simp only [Cursor.rest_before brace, Cursor.advance_one_before brace]
      dsimp only at ran
      split at ran
      case h_1 rest here =>
        cases ran
        rw [Cursor.skip_before_of_cons here, Cursor.advance_one_before here]
        simp only [Cursor.rest_before here]
      case h_2 notClosed =>
        have begins := readMembers_begins ran
        have again := readMembers_before contained ends ran (wider _)
        obtain ⟨c, rest, here⟩ := List.exists_cons_of_ne_nil begins
        rw [Cursor.skip_before begins]
        split
        case h_1 same =>
          rw [Cursor.rest_before here] at same
          exact absurd (here.trans (congrArg (· :: rest) (List.cons.inj same).1)) (notClosed _)
        case h_2 => exact again
  case h_5 notEmpty notQuote notBracket notBrace =>
    obtain ⟨offset, t⟩ := cursor
    cases t with
    | nil => exact absurd rfl notEmpty
    | cons c rest =>
      have plain : c ≠ '"' ∧ c ≠ '[' ∧ c ≠ '\x7b' := by
        refine ⟨?_, ?_, ?_⟩
        · rintro rfl
          exact notQuote rest rfl
        · rintro rfl
          exact notBracket rest rfl
        · rintro rfl
          exact notBrace rest rfl
      have again := readScalar_before ran ends
      exact (readValue_of_scalar plain (rest ++ more) depth offset).trans again

/-- **A value is read the same with more behind it**, if that ends it. -/
theorem contained_readValue (depth : Nat) : Contained (readValue depth) := by
  induction depth with
  | zero =>
    refine ⟨readValue_begins, fun ran ends => readValue_before ?_ ends ran⟩
    intro less above
    omega
  | succ depth ih =>
    refine ⟨readValue_begins, fun ran ends => readValue_before ?_ ends ran⟩
    intro less above
    rw [← Nat.succ_inj.mp above]
    exact ih

/-! ## Whole texts -/

/-- Blanks end a value. -/
theorem goesOn_of_isBlank {c : CodePoint} (blank : Text.isBlank c = true) : goesOn c = false := by
  cases goes : goesOn c with
  | false => rfl
  | true =>
    have within : 0x2B ≤ c.toNat ∧ c.toNat ≤ 0x7A := by
      simp only [goesOn, isMark, Text.inRanges, List.any_cons, List.any_nil, Bool.or_eq_true,
        Bool.and_eq_true, decide_eq_true_eq, Bool.or_false] at goes
      rcases goes with ((((digit | rfl) | rfl) | rfl) | rfl) | upper | lower
      · omega
      · decide
      · decide
      · decide
      · decide
      · omega
      · omega
    have apart : c.toNat ≤ 0x20 ∨ 0x85 ≤ c.toNat := by
      simp only [Text.isBlank, Text.isSpace, Text.inRanges, Text.whiteSpace, List.any_cons,
        List.any_nil, Bool.or_eq_true, Bool.and_eq_true, decide_eq_true_eq, Bool.false_eq_true,
        or_false] at blank
      omega
    omega

/-- Spacing that is skipped ends in front of what is none. -/
theorem Cursor.skip_ne_nil {c : CodePoint} (member : c ∈ cursor.rest) (ink : isSpacing c = false) :
    cursor.skip.rest ≠ [] := by
  intro none_
  have long := List.drop_eq_nil_iff.mp none_
  have whole := (List.takeWhile_prefix isSpacing).eq_of_length_le long
  have spacing := List.takeWhile_eq_self_iff.mp whole c member
  rw [ink] at spacing
  cases spacing

/-- **Behind the value of a text stands nothing but spacing**: a text that is read is not read any
more with something else behind it. -/
theorem read_append_of_read {t : Text} (ran : read t = .ok value) (ends : EndsValue more)
    {c : CodePoint}
    (member : c ∈ more) (ink : isSpacing c = false) :
    ∃ offset, read (t ++ more) = malformed .extraData offset := by
  unfold read at ran
  split at ran
  case h_1 => cases ran
  case h_2 unmarked =>
    split at ran
    case h_1 => cases ran
    case h_2 found behind first =>
      have again : readValue maxDepth (Cursor.mk 0 (t ++ more)).skip =
          .ok (found, behind.before more) := by
        have skipped := Cursor.skip_before (readValue_begins first) more
        have same := (contained_readValue maxDepth).before first ends
        rw [← skipped] at same
        exact same
      have left : (behind.before more).skip.rest.isEmpty = false :=
        List.isEmpty_eq_false_iff.mpr
          (Cursor.skip_ne_nil (List.mem_append_right behind.rest member) ink)
      have unmarked' : ∀ rest, t ++ more ≠ scalar '\ufeff' :: rest := by
        intro rest same
        cases t with
        | nil => exact readValue_begins first rfl
        | cons d letters => exact unmarked letters (congrArg (· :: letters) (List.cons.inj same).1)
      refine ⟨(behind.before more).skip.offset, ?_⟩
      unfold read
      split
      case h_1 same => exact absurd same (unmarked' _)
      case h_2 =>
        rw [again]
        dsimp only
        rw [left]
        rfl

end CharTally.Json
