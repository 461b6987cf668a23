import CharTally.Proofs.Json.Overlong
import CharTally.Proofs.Json.RoundTrip
import Mathlib.Data.List.Chain

/-!
# Halves in what is read

A reader joins the two halves of a pair that an escape spells one by one. So in what is read from
a text without halves, no first half stands in front of a second one (`Unpaired`), and joining its
halves changes nothing: a value that was read is read back as it is when it is written
(`joined_of_read`). The text of a string is followed through the states of its reader, which keeps
a first half back until it sees what comes behind it; the values follow the recursion of theirs.
-/

namespace CharTally.Json

variable {t text : Text} {value : Json} {cursor behind start : Cursor}
  {members : List (Text × Json)}
  {name : Text}

/-! ## Texts -/

/-- The two code points are the halves of a pair. -/
def IsPair (c d : CodePoint) : Prop := isHighHalf c.toNat = true ∧ isLowHalf d.toNat = true

/-- No first half stands in front of a second one. -/
def Unpaired (t : Text) : Prop := t.IsChain fun c d => ¬ IsPair c d

theorem length_joinHalves_le (t : Text) : (joinHalves t).length ≤ t.length := by
  fun_induction joinHalves t with
  | case1 c d rest pair ih =>
    rw [List.length_cons, List.length_cons, List.length_cons]
    omega
  | case2 c d rest _ ih => exact Nat.succ_le_succ ih
  | case3 => exact Nat.le_refl _

/-- The texts that joining leaves alone are those without pairs. -/
theorem joinHalves_eq_self : joinHalves t = t ↔ Unpaired t := by
  fun_induction joinHalves t with
  | case1 c d rest pair ih =>
    rw [Bool.and_eq_true] at pair
    constructor
    · intro same
      have shorter := length_joinHalves_le rest
      have equal := congrArg List.length same
      rw [List.length_cons, List.length_cons, List.length_cons] at equal
      omega
    · intro unpaired
      exact absurd pair (List.isChain_cons_cons.mp unpaired).1
  | case2 c d rest noPair ih =>
    rw [Bool.and_eq_true] at noPair
    rw [Unpaired, List.isChain_cons_cons, List.cons_inj_right, ih]
    exact ⟨fun unpaired => ⟨noPair, unpaired⟩, And.right⟩
  | case3 t short =>
    refine ⟨fun _ => ?_, fun _ => rfl⟩
    match t, short with
    | [], _ => exact .nil
    | [c], _ => exact .singleton c
    | c :: d :: rest, short => exact absurd rfl (short c d rest)

theorem Unpaired.of_infix {part : Text} (unpaired : Unpaired t) (inside : part <:+: t) :
    Unpaired part :=
  List.IsChain.infix unpaired inside

theorem Unpaired.strip (unpaired : Unpaired t) : Unpaired t.strip := by
  apply unpaired.of_infix
  rw [Text.strip, Text.trim]
  have front := List.dropWhile_suffix Text.isBlank (l := (t.dropWhile Text.isBlank).reverse)
  have kept := List.reverse_prefix.mpr front
  rw [List.reverse_reverse] at kept
  exact kept.isInfix.trans (List.dropWhile_suffix Text.isBlank).isInfix

/-! ## Reading texts -/

/-- The code points read so far, in reverse order, make no pair with one another, nor will the last
one make one with what comes next, unless it is kept back. -/
structure Settled (half : Option Nat) (done : Text) : Prop where
  isHigh : ∀ high ∈ half, isHighHalf high = true
  unpaired : done.IsChain fun d c => ¬ IsPair c d
  ends : half = none → ∀ c ∈ done.head?, isHighHalf c.toNat = false

variable {half : Option Nat} {done : Text} {unit : Nat} {c : CodePoint}

theorem not_low_of_high (isHigh : isHighHalf unit = true) : isLowHalf unit = false := by
  rw [isHighHalf, Bool.and_eq_true, decide_eq_true_eq, decide_eq_true_eq] at isHigh
  rw [isLowHalf, Bool.and_eq_false_iff, decide_eq_false_iff_not, decide_eq_false_iff_not]
  omega

theorem toNat_of_high (isHigh : isHighHalf unit = true) : (CodePoint.ofNat unit).toNat = unit := by
  rw [isHighHalf, Bool.and_eq_true, decide_eq_true_eq, decide_eq_true_eq] at isHigh
  exact CodePoint.toNat_ofNat (by omega)

/-- What is no second half makes no pair with what stands before it. -/
theorem isChain_cons (unpaired : done.IsChain fun d c => ¬ IsPair c d)
    (notLow : isLowHalf c.toNat = false) : (c :: done).IsChain fun d c => ¬ IsPair c d := by
  refine List.isChain_cons.mpr ⟨fun _ _ pair => ?_, unpaired⟩
  rw [pair.2] at notLow
  cases notLow

/-- A first half that was kept back stands for itself. -/
theorem Settled.settle (settled : Settled half done) :
    (settle half done).IsChain fun d c => ¬ IsPair c d := by
  cases half with
  | none => exact settled.unpaired
  | some high =>
    have isHigh := settled.isHigh high rfl
    refine isChain_cons settled.unpaired ?_
    rw [toNat_of_high isHigh]
    exact not_low_of_high isHigh

theorem Settled.keep (settled : Settled half done) (isHigh : isHighHalf unit = true) :
    Settled (some unit) (Json.settle half done) where
  isHigh _ same := Option.some.inj same ▸ isHigh
  unpaired := settled.settle
  ends none_ := nomatch none_

theorem Settled.cons (settled : Settled half done) (notHigh : isHighHalf c.toNat = false)
    (notLow : isLowHalf c.toNat = false) : Settled none (c :: Json.settle half done) where
  isHigh _ none_ := nomatch none_
  unpaired := isChain_cons settled.settle notLow
  ends _ _ same := Option.some.inj same ▸ notHigh

/-- The character of a pair is no half. -/
theorem not_half_ofPair {high low : Nat} (isHigh : isHighHalf high = true)
    (isLow : isLowHalf low = true) :
    isHighHalf (ofPair high low).toNat = false ∧ isLowHalf (ofPair high low).toNat = false := by
  rw [isHighHalf, Bool.and_eq_true, decide_eq_true_eq, decide_eq_true_eq] at isHigh
  rw [isLowHalf, Bool.and_eq_true, decide_eq_true_eq, decide_eq_true_eq] at isLow
  apply not_half_of_outside
  rw [ofPair, CodePoint.toNat_ofNat (by omega)]
  omega

theorem Settled.addUnit (settled : Settled half done) (small : unit < 0x10000)
    (notHigh : isHighHalf unit = false) : Settled none (addUnit half unit done) := by
  have code : (CodePoint.ofNat unit).toNat = unit := CodePoint.toNat_ofNat (by omega)
  cases half with
  | none =>
    refine ⟨nofun, List.isChain_cons.mpr ⟨fun c first pair => ?_, settled.unpaired⟩, ?_⟩
    · rw [IsPair, settled.ends rfl c first] at pair
      cases pair.1
    · intro _ _ same
      rw [← Option.some.inj same, code]
      exact notHigh
  | some high =>
    rw [Json.addUnit]
    by_cases isLow : isLowHalf unit = true
    · obtain ⟨pairHigh, pairLow⟩ := not_half_ofPair (settled.isHigh high rfl) isLow
      rw [if_pos isLow]
      refine ⟨nofun, isChain_cons settled.unpaired pairLow, ?_⟩
      intro _ _ same
      rw [← Option.some.inj same]
      exact pairHigh
    · rw [if_neg isLow]
      refine settled.cons ?_ ?_
      · rw [code]
        exact notHigh
      · rw [code]
        exact eq_false_of_ne_true isLow

theorem not_half_of_isWhole (whole : c.isHalf = false) :
    isHighHalf c.toNat = false ∧ isLowHalf c.toNat = false := by
  obtain ⟨d, rfl⟩ := CodePoint.exists_scalar whole
  have outside := CodePoint.not_half_toNat d
  rw [CodePoint.firstHalf] at outside
  apply not_half_of_outside
  rw [CodePoint.toNat_scalar]
  omega

theorem not_half_of_escape {letter : CodePoint} (isEscape : escape? letter = some c) :
    isHighHalf c.toNat = false ∧ isLowHalf c.toNat = false := by
  unfold escape? at isEscape
  split at isEscape
  case isTrue itself =>
    cases isEscape
    rcases itself with rfl | rfl | rfl <;> decide
  case isFalse =>
    iterate 5
      split at isEscape
      · cases isEscape
        decide
    cases isEscape

theorem unit?_lt {a b c d : CodePoint} (isUnit : unit? a b c d = some unit) : unit < 0x10000 := by
  have few : unit < Nat.pow 16 4 := Numeral.ofDigits?_lt isUnit
  exact few.trans_eq (by decide)

/-- What is read up to a closing quote has no pairs. -/
theorem unpaired_of_readText {opening offset : Nat} (whole : t.isWhole = true)
    (settled : Settled half done)
    (ran : readText opening done half offset t = .ok (text, behind)) : Unpaired text := by
  fun_induction readText opening done half offset t
  case case2 =>
    cases ran
    exact List.isChain_reverse.mpr settled.settle
  case case6 a b c d more _ _ _ isHigh ih =>
    exact ih (Text.isWhole_of_suffix whole ⟨['\\', 'u', a, b, c, d], rfl⟩) (settled.keep isHigh) ran
  case case7 a b c d more _ _ isUnit notHigh ih =>
    exact ih (Text.isWhole_of_suffix whole ⟨['\\', 'u', a, b, c, d], rfl⟩)
      (settled.addUnit (unit?_lt isUnit) (eq_false_of_ne_true notHigh)) ran
  case case9 letter rest _ _ c isEscape ih =>
    obtain ⟨notHigh, notLow⟩ := not_half_of_escape isEscape
    exact ih (Text.isWhole_of_suffix whole ⟨['\\', letter], rfl⟩) (settled.cons notHigh notLow) ran
  case case12 c rest _ _ _ _ _ _ ih =>
    rw [Text.isWhole_cons, Bool.and_eq_true, Bool.not_eq_true'] at whole
    obtain ⟨notHigh, notLow⟩ := not_half_of_isWhole whole.1
    exact ih whole.2 (settled.cons notHigh notLow) ran
  all_goals cases ran

theorem joinHalves_of_readText {opening offset : Nat} (whole : t.isWhole = true)
    (ran : readText opening [] none offset t = .ok (text, behind)) : joinHalves text = text := by
  have start : Settled none [] := ⟨nofun, .nil, fun _ => nofun⟩
  exact joinHalves_eq_self.mpr (unpaired_of_readText whole start ran)

/-! ## Reading values -/

theorem joined_of_isScalar (isScalar : value.IsScalar) : value.joined = value := by
  cases value with
  | text value => cases isScalar
  | array items => cases isScalar
  | object members => cases isScalar
  | _ => rfl

theorem joinedItems_reverse (items : List Json) :
    joinedItems items.reverse = (joinedItems items).reverse := by
  rw [joinedItems_eq_map, joinedItems_eq_map, List.map_reverse]

theorem joinedMembers_put (joinedName : joinHalves name = name) (joinedValue : value.joined = value)
    (joined : joinedMembers members = members) :
    joinedMembers (put name value members) = put name value members := by
  induction members with
  | nil => rw [put, joinedMembers, joinedName, joinedValue, joinedMembers]
  | cons member rest ih =>
    obtain ⟨known, old⟩ := member
    rw [joinedMembers, List.cons.injEq, Prod.mk.injEq] at joined
    obtain ⟨⟨sameName, sameValue⟩, sameRest⟩ := joined
    rw [put]
    by_cases same : known = name
    · rw [if_pos same, joinedMembers, joinedName, joinedValue, sameRest]
    · rw [if_neg same, joinedMembers, sameName, sameValue, ih sameRest]

/-- A reader that joins: what it reads from a text without halves has none to be joined. -/
def Joins (item : Cursor → Outcome Json) : Prop :=
  ∀ cursor value behind, cursor.rest.isWhole = true → item cursor = .ok (value, behind) →
    value.joined = value

variable {item : Cursor → Outcome Json} {room depth : Nat}

theorem Cursor.isWhole_skip (whole : cursor.rest.isWhole = true) :
    cursor.skip.rest.isWhole = true :=
  Text.isWhole_of_suffix whole cursor.skip_suffix

theorem Cursor.isWhole_advance (whole : cursor.rest.isWhole = true) (count : Nat) :
    (cursor.advance count).rest.isWhole = true :=
  Text.isWhole_of_suffix whole (cursor.advance_suffix count)

theorem joined_of_readItems (trims : Trims item) (joins : Joins item) {done : List Json}
    (whole : cursor.rest.isWhole = true) (joined : joinedItems done = done)
    (ran : readItems item done room cursor = .ok (value, behind)) : value.joined = value := by
  induction room generalizing done cursor with
  | zero => cases ran
  | succ room ih =>
    rw [readItems] at ran
    split at ran
    case h_1 => cases ran
    case h_2 first next read =>
      have joinedFirst := joins _ _ _ whole read
      have joinedDone : joinedItems (first :: done) = first :: done := by
        rw [joinedItems, joinedFirst, joined]
      dsimp only at ran
      split at ran
      case h_1 =>
        cases ran
        rw [Json.joined, joinedItems_reverse, joinedDone]
      case h_2 =>
        have left := Text.isWhole_of_suffix whole (trims _ _ _ read)
        exact ih (Cursor.isWhole_skip (Cursor.isWhole_advance (Cursor.isWhole_skip left) 1))
          joinedDone ran
      case h_3 => cases ran

theorem joined_of_readMembers (trims : Trims item) (joins : Joins item)
    {done : List (Text × Json)} (whole : cursor.rest.isWhole = true)
    (joined : joinedMembers done = done)
    (ran : readMembers item done room cursor = .ok (value, behind)) : value.joined = value := by
  induction room generalizing done cursor with
  | zero => cases ran
  | succ room ih =>
    rw [readMembers] at ran
    split at ran
    case h_2 => cases ran
    case h_1 letters quote =>
      split at ran
      case h_1 => cases ran
      case h_2 name colon named =>
        have inside : Text.isWhole letters = true :=
          Text.isWhole_of_suffix whole (quote ▸ List.suffix_cons _ _)
        have joinedName := joinHalves_of_readText inside named
        dsimp only at ran
        split at ran
        case h_2 => cases ran
        case h_1 more isColon =>
          have starts := Text.isWhole_of_suffix whole
            (NameAt.suffix ⟨letters, colon, more, quote, named, isColon, rfl⟩)
          split at ran
          case h_1 => cases ran
          case h_2 first next read =>
            have joinedDone := joinedMembers_put joinedName (joins _ _ _ starts read) joined
            have left := Text.isWhole_of_suffix starts (trims _ _ _ read)
            split at ran
            case h_1 =>
              cases ran
              rw [Json.joined, joinedDone]
            case h_2 =>
              exact ih (Cursor.isWhole_skip (Cursor.isWhole_advance (Cursor.isWhole_skip left) 1))
                joinedDone ran
            case h_3 => cases ran

/-- A reader joins, if this is so one bracket further down. -/
theorem joined_of_readValue (below : ∀ less, depth = less + 1 → Joins (readValue less))
    (whole : cursor.rest.isWhole = true)
    (ran : readValue depth cursor = .ok (value, behind)) : value.joined = value := by
  have inside : (cursor.advance 1).skip.rest.isWhole = true :=
    Cursor.isWhole_skip (Cursor.isWhole_advance whole 1)
  unfold readValue at ran
  split at ran
  case h_1 => cases ran
  case h_2 letters quote =>
    split at ran
    case h_1 => cases ran
    case h_2 read =>
      cases ran
      rw [joined, joinHalves_of_readText
        (Text.isWhole_of_suffix whole (quote ▸ List.suffix_cons _ _)) read]
  case h_3 =>
    cases depth with
    | zero => cases ran
    | succ depth =>
      dsimp only at ran
      split at ran
      case h_1 => cases ran; rfl
      case h_2 =>
        exact joined_of_readItems (trims_readValue depth) (below depth rfl) inside rfl ran
  case h_4 =>
    cases depth with
    | zero => cases ran
    | succ depth =>
      dsimp only at ran
      split at ran
      case h_1 => cases ran; rfl
      case h_2 =>
        exact joined_of_readMembers (trims_readValue depth) (below depth rfl) inside rfl ran
  case h_5 => exact joined_of_isScalar (isScalar_of_readScalar ran)

/-- At every depth, the reader joins. -/
theorem joins_readValue (depth : Nat) : Joins (readValue depth) := by
  induction depth with
  | zero =>
    intro cursor value behind whole ran
    refine joined_of_readValue ?_ whole ran
    intro less above
    omega
  | succ depth ih =>
    intro cursor value behind whole ran
    refine joined_of_readValue ?_ whole ran
    intro less above
    rw [← Nat.succ_inj.mp above]
    exact ih

/-- **What is read has no halves to be joined**, if there are none in the text. -/
theorem joined_of_read (whole : t.isWhole = true) (ran : read t = .ok value) :
    value.joined = value := by
  unfold read at ran
  split at ran
  case h_1 => cases ran
  case h_2 =>
    cases found : readValue maxDepth (Cursor.mk 0 t).skip with
    | error fault => rw [found] at ran; cases ran
    | ok result =>
      obtain ⟨inner, behind⟩ := result
      have joined := joins_readValue maxDepth _ _ _ (Cursor.isWhole_skip whole) found
      rw [found] at ran
      dsimp only at ran
      split at ran
      case isTrue => cases ran; exact joined
      case isFalse => cases ran

end CharTally.Json
