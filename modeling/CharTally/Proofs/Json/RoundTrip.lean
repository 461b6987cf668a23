import CharTally.Proofs.Json.Reader
import Mathlib.Data.List.Forall2

/-!
# JSON is read as it was written

`Fits` says which values are read back: integers that are short enough to be
written, numbers whose text reads back, objects whose names are distinct, and no
more brackets inside one another than the depth. Such a value is read with the
halves of surrogate pairs in its texts joined (`joined`). `reads_render` reads it in
front of anything that may stand behind it, by induction on what makes it fit, with
one lemma for the items of an array and one for the members of an object; and
`read_render` reads it as a whole text.
-/

namespace CharTally.Json

variable {offset depth : Nat} {value found : Json} {t rest : Text}

/-! ## Cursors -/

theorem skip_cons {c : CodePoint} (ink : isSpacing c = false) :
    (Cursor.mk offset (c :: t)).skip = ⟨offset, c :: t⟩ := by
  rw [Cursor.skip, List.takeWhile_cons_of_neg (by simp [ink])]
  rfl

theorem skip_space {c : CodePoint} (ink : isSpacing c = false) :
    (Cursor.mk offset (' ' :: c :: t)).skip = ⟨offset + 1, c :: t⟩ := by
  rw [Cursor.skip, List.takeWhile_cons_of_pos (by decide),
    List.takeWhile_cons_of_neg (by simp [ink])]
  rfl

theorem isSpacing_of_isMark {c : CodePoint} (mark : isMark c = true) : isSpacing c = false := by
  cases spacing : isSpacing c with
  | false => rfl
  | true =>
    simp only [isSpacing, Bool.or_eq_true, decide_eq_true_eq] at spacing
    rcases spacing with ((rfl | rfl) | rfl) | rfl <;> cases mark

theorem skip_of_marks (marks : Only isMark t) : (Cursor.mk offset t).skip = ⟨offset, t⟩ := by
  cases t with
  | nil => rfl
  | cons c rest => exact skip_cons (isSpacing_of_isMark (marks c List.mem_cons_self))

/-! ## Numbers that read back -/

/-- The text of a number is read as the number. -/
def ReadsBack (number : Binary64) : Prop := read (renderReal number) = .ok (.real number)

/-- A text of digits and marks that is read as a value is read to its end. -/
theorem readScalar_of_read {c : CodePoint} (marks : Only isMark (c :: t))
    (ran : read (c :: t) = .ok value) :
    ∃ offset', readScalar ⟨0, c :: t⟩ = .ok (value, ⟨offset', []⟩) := by
  have mark := marks c List.mem_cons_self
  unfold read at ran
  split at ran
  case h_1 same =>
    rw [(List.cons.inj same).1] at mark
    cases mark
  case h_2 =>
    rw [skip_of_marks marks, readValue_of_scalar (plain_of_isMark mark)] at ran
    cases found : readScalar ⟨0, c :: t⟩ with
    | error fault => rw [found] at ran; cases ran
    | ok result =>
      obtain ⟨word, behind⟩ := result
      obtain ⟨width, _, reached, _⟩ := readScalar_append .nil found 0
      have left : Only isMark ((c :: t).drop width) := marks.of_subset (List.drop_subset width _)
      rw [found, ← reached, Cursor.advance] at ran
      dsimp only at ran
      rw [skip_of_marks left] at ran
      by_cases none_ : ((c :: t).drop width).isEmpty = true
      · rw [if_pos none_] at ran
        cases ran
        rw [← reached, Cursor.advance]
        dsimp only
        rw [List.isEmpty_iff.mp none_]
        exact ⟨_, rfl⟩
      · rw [if_neg none_] at ran
        cases ran

/-- A number that reads back is read in front of anything that ends a value. -/
theorem reads_renderReal {number : Binary64} (readsBack : ReadsBack number) (depth : Nat) :
    Reads (readValue depth) (renderReal number) (.real number) := by
  cases number with
  | infinite negative => cases negative <;> exact reads_scalar (by decide) rfl depth
  | nan => exact reads_scalar (by decide) rfl depth
  | finite negative mantissa exponent =>
    have marks : Only isMark (renderReal (.finite negative mantissa exponent)) :=
      Binary64.only_finiteText negative mantissa exponent
    rw [ReadsBack] at readsBack
    generalize renderReal (.finite negative mantissa exponent) = t at marks readsBack ⊢
    cases t with
    | nil => cases readsBack
    | cons c more =>
      obtain ⟨offset', ran⟩ := readScalar_of_read marks readsBack
      exact reads_scalar (plain_of_isMark (marks c List.mem_cons_self)) ran depth

/-! ## Values that are read back -/

mutual

/-- The value with the halves in its texts joined. -/
def joined : Json → Json
  | .null => .null
  | .bool value => .bool value
  | .integer value => .integer value
  | .real value => .real value
  | .text value => .text (joinHalves value)
  | .array items => .array (joinedItems items)
  | .object members => .object (joinedMembers members)

/-- The items of an array, with the halves in their texts joined. -/
def joinedItems : List Json → List Json
  | [] => []
  | item :: rest => item.joined :: joinedItems rest

/-- The members of an object, with the halves in their names and texts joined. -/
def joinedMembers : List (Text × Json) → List (Text × Json)
  | [] => []
  | (name, value) :: rest => (joinHalves name, value.joined) :: joinedMembers rest

end

theorem joinedItems_eq_map (items : List Json) : joinedItems items = items.map joined := by
  induction items with
  | nil => rfl
  | cons item rest ih => rw [joinedItems, ih, List.map_cons]

theorem joinedMembers_eq_map (members : List (Text × Json)) :
    joinedMembers members = members.map fun member => (joinHalves member.1, member.2.joined) := by
  induction members with
  | nil => rfl
  | cons member rest ih => rw [joinedMembers, ih, List.map_cons]

/-- What is read back at a depth. -/
inductive Fits : Nat → Json → Prop
  | null {depth : Nat} : Fits depth .null
  | bool {depth : Nat} {value : Bool} : Fits depth (.bool value)
  | integer {depth : Nat} {value : Int} (short : Numeral.isShort value = true) :
      Fits depth (.integer value)
  | real {depth : Nat} {value : Binary64} (readsBack : ReadsBack value) : Fits depth (.real value)
  | text {depth : Nat} {value : Text} : Fits depth (.text value)
  | array {depth : Nat} {items : List Json} (fit : ∀ item ∈ items, Fits depth item) :
      Fits (depth + 1) (.array items)
  | object {depth : Nat} {members : List (Text × Json)}
      (fit : ∀ member ∈ members, Fits depth member.2)
      (distinct : (members.map fun member => joinHalves member.1).Nodup) :
      Fits (depth + 1) (.object members)

/-- A text that begins neither with spacing nor with a closing bracket. -/
def Begins (t : Text) : Prop := ∃ c more, t = c :: more ∧ isSpacing c = false ∧ c ≠ ']'

theorem begins_of_marks (marks : Only isMark t) (some_ : t ≠ []) : Begins t := by
  cases t with
  | nil => exact absurd rfl some_
  | cons c more =>
    have mark := marks c List.mem_cons_self
    refine ⟨c, more, rfl, isSpacing_of_isMark mark, ?_⟩
    rintro rfl
    cases mark

/-- The text of a value that fits begins with something to read. -/
theorem Fits.begins (fits : Fits depth value) : Begins (render value) := by
  cases fits with
  | null => exact ⟨_, _, rfl, by decide, by decide⟩
  | @bool _ value => cases value <;> exact ⟨_, _, rfl, by decide, by decide⟩
  | @integer _ value short =>
    rw [render]
    exact begins_of_marks (Numeral.only_ofInt value) (Numeral.ofInt_ne_nil value)
  | @real _ value readsBack =>
    rw [render]
    cases value with
    | finite negative mantissa exponent =>
      refine begins_of_marks (Binary64.only_finiteText negative mantissa exponent) ?_
      intro none_
      rw [ReadsBack, none_] at readsBack
      cases readsBack
    | infinite negative => cases negative <;> exact ⟨_, _, rfl, by decide, by decide⟩
    | nan => exact ⟨_, _, rfl, by decide, by decide⟩
  | text => exact ⟨_, _, rfl, by decide, by decide⟩
  | array fit => exact ⟨_, _, rfl, by decide, by decide⟩
  | object fit distinct => exact ⟨_, _, rfl, by decide, by decide⟩

theorem readValue_quote (depth offset : Nat) (t : Text) :
    readValue depth ⟨offset, '"' :: t⟩ =
      match readText offset [] none (offset + 1) t with
      | .error fault => .error fault
      | .ok (spelled, behind) => .ok (.text spelled, behind) := by
  rw [readValue.eq_def]
  rfl

theorem readValue_noItems (depth offset : Nat) (t : Text) :
    readValue (depth + 1) ⟨offset, '[' :: ']' :: t⟩ = .ok (.array [], ⟨offset + 2, t⟩) := by
  rw [readValue.eq_def]
  rfl

theorem readValue_noMembers (depth offset : Nat) (t : Text) :
    readValue (depth + 1) ⟨offset, '\x7b' :: '\x7d' :: t⟩ = .ok (.object [], ⟨offset + 2, t⟩) := by
  rw [readValue.eq_def]
  rfl

theorem readValue_items {c : CodePoint} (ink : isSpacing c = false) (isOpen : c ≠ ']')
    (depth offset : Nat) (t : Text) :
    readValue (depth + 1) ⟨offset, '[' :: c :: t⟩ =
      readItems (readValue depth) [] ((c :: t).length + 1) ⟨offset + 1, c :: t⟩ := by
  have inside : ((Cursor.mk offset ('[' :: c :: t)).advance 1).skip = ⟨offset + 1, c :: t⟩ :=
    skip_cons ink
  rw [readValue.eq_def]
  dsimp only
  rw [inside]
  dsimp only
  split
  case h_1 same => cases same
  case h_2 same => exact absurd (List.cons.inj same).1 (by decide)
  case h_3 =>
    split
    case h_1 same => exact absurd (List.cons.inj same).1 isOpen
    case h_2 => rfl
  case h_4 same => exact absurd (List.cons.inj same).1 (by decide)
  case h_5 _ other _ => exact absurd rfl (other _)

theorem readValue_members {c : CodePoint} (ink : isSpacing c = false) (isOpen : c ≠ '\x7d')
    (depth offset : Nat) (t : Text) :
    readValue (depth + 1) ⟨offset, '\x7b' :: c :: t⟩ =
      readMembers (readValue depth) [] ((c :: t).length + 1) ⟨offset + 1, c :: t⟩ := by
  have inside : ((Cursor.mk offset ('\x7b' :: c :: t)).advance 1).skip = ⟨offset + 1, c :: t⟩ :=
    skip_cons ink
  rw [readValue.eq_def]
  dsimp only
  rw [inside]
  dsimp only
  split
  case h_1 same => cases same
  case h_2 same => exact absurd (List.cons.inj same).1 (by decide)
  case h_4 =>
    split
    case h_1 same => exact absurd (List.cons.inj same).1 isOpen
    case h_2 => rfl
  case h_3 same => exact absurd (List.cons.inj same).1 (by decide)
  case h_5 _ _ other => exact absurd rfl (other _)

/-- A text between quotes is read with its halves joined. -/
theorem readText_render (text rest : Text) (offset : Nat) :
    readText offset [] none (offset + 1) (text.flatMap escaped ++ scalar '"' :: rest) =
      .ok (joinHalves text, ⟨offset + (renderText text).length, rest⟩) := by
  have size : (renderText text).length = 1 + (text.flatMap escaped).length + 1 := by
    rw [renderText, List.length_cons, List.length_append, List.length_singleton]
    omega
  rw [readText_flatMap_escaped text rest (by simp), size]
  simp only [Nat.add_assoc]
  rfl

theorem reads_renderText (text : Text) (depth : Nat) :
    Reads (readValue depth) (renderText text) (.text (joinHalves text)) := by
  intro offset rest _
  have read := readText_render text rest offset
  generalize (renderText text).length = size at read ⊢
  rw [renderText, List.cons_append, List.append_assoc, List.singleton_append, readValue_quote, read]

theorem reads_renderInteger {number : Int} (short : Numeral.isShort number = true) (depth : Nat) :
    Reads (readValue depth) (Numeral.ofInt number) (.integer number) := by
  have marks := Numeral.only_ofInt number
  have read : readScalar ⟨0, Numeral.ofInt number⟩ =
      .ok (.integer number, ⟨0 + (Numeral.ofInt number).length, []⟩) := by
    unfold readScalar
    dsimp only
    rw [words_find?_of_marks marks]
    exact readNumber_ofInt short 0
  generalize Numeral.ofInt number = t at marks read ⊢
  cases t with
  | nil => cases read
  | cons c more => exact reads_scalar (plain_of_isMark (marks c List.mem_cons_self)) read depth

/-! ## Brackets -/

/-- The text of items begins with the text of the first one. -/
theorem begins_renderItems {item : Json} (begins : Begins (render item)) (more : List Json) :
    Begins (renderItems (item :: more)) := by
  obtain ⟨c, letters, shape, isFirst⟩ := begins
  cases more with
  | nil => exact ⟨c, letters, shape, isFirst⟩
  | cons next others =>
    rw [renderItems, shape]
    exact ⟨c, _, rfl, isFirst⟩

/-- The items of an array, each of which is read, are read up to the closing bracket. -/
theorem readItems_renderItems {reader : Cursor → Outcome Json} {items : List Json}
    (reads : ∀ item ∈ items, Reads reader (render item) item.joined)
    (begin_ : ∀ item ∈ items, Begins (render item)) (some_ : items ≠ []) (done : List Json)
    {room : Nat} (enough : (renderItems items).length < room) (offset : Nat) (rest : Text) :
    readItems reader done room ⟨offset, renderItems items ++ scalar ']' :: rest⟩ =
      .ok (.array (done.reverse ++ joinedItems items),
        ⟨offset + (renderItems items).length + 1, rest⟩) := by
  induction items generalizing done room offset with
  | nil => exact absurd rfl some_
  | cons item more ih =>
    obtain ⟨room, rfl⟩ : ∃ less, room = less + 1 := ⟨room - 1, by omega⟩
    have readsItem := reads item List.mem_cons_self
    cases more with
    | nil =>
      have ends : EndsValue (']' :: rest) := .cons (by decide) rest
      rw [renderItems, readItems, readsItem offset _ ends]
      dsimp only
      rw [skip_cons (by decide)]
      simp [Cursor.advance, joinedItems]
    | cons next others =>
      have readsMore : ∀ item ∈ next :: others, Reads reader (render item) item.joined :=
        fun other member => reads other (List.mem_cons_of_mem item member)
      have beginMore : ∀ item ∈ next :: others, Begins (render item) :=
        fun other member => begin_ other (List.mem_cons_of_mem item member)
      obtain ⟨c, letters, shape, ink, _⟩ :=
        begins_renderItems (beginMore next List.mem_cons_self) others
      have size : (renderItems (item :: next :: others)).length =
          (render item).length + 2 + (renderItems (next :: others)).length := by
        rw [renderItems, List.length_append, List.length_append]
        rfl
      have shorter : (renderItems (next :: others)).length < room := by omega
      have onward :=
        ih readsMore beginMore (List.cons_ne_nil next others) (item.joined :: done) shorter
        (offset + (render item).length + 2)
      have ends : EndsValue (',' :: ' ' :: (renderItems (next :: others) ++ scalar ']' :: rest)) :=
        .cons (by decide) _
      have whole : renderItems (item :: next :: others) ++ scalar ']' :: rest =
          render item ++
            scalar ',' :: ' ' :: (renderItems (next :: others) ++ scalar ']' :: rest) := by
        rw [renderItems]
        simp
      have comma : ((Cursor.mk (offset + (render item).length)
          (',' :: ' ' :: (renderItems (next :: others) ++ scalar ']' :: rest))).advance 1).skip =
          ⟨offset + (render item).length + 2,
            renderItems (next :: others) ++ scalar ']' :: rest⟩ := by
        rw [shape, List.cons_append]
        exact skip_space ink
      rw [whole, readItems, readsItem offset _ ends]
      dsimp only
      rw [skip_cons (by decide)]
      dsimp only
      rw [comma, onward, size]
      simp only [joinedItems, List.reverse_cons, List.append_assoc, List.singleton_append,
        Nat.add_assoc]

/-- A new name goes to the end. -/
theorem put_of_not_mem {name : Text} {members : List (Text × Json)}
    (fresh : name ∉ members.map (·.1)) (value : Json) :
    put name value members = members ++ [(name, value)] := by
  induction members with
  | nil => rfl
  | cons member more ih =>
    obtain ⟨known, old⟩ := member
    have differs : known ≠ name := Ne.symm (List.ne_of_not_mem_cons fresh)
    rw [put, if_neg differs, ih (List.not_mem_of_not_mem_cons fresh)]
    rfl

/-- A member is read, and then what stands behind it decides. -/
theorem readMembers_member {reader : Cursor → Outcome Json} (name : Text)
    (reads : Reads reader (render value) found) (begins : Begins (render value))
    (done : List (Text × Json)) (room offset : Nat) {tail : Text} (ends : EndsValue tail) :
    readMembers reader done (room + 1)
        ⟨offset, renderText name ++ scalar ':' :: ' ' :: (render value ++ tail)⟩ =
      let cursor :=
        (Cursor.mk (offset + (renderText name).length + 2 + (render value).length) tail).skip
      match cursor.rest with
      | '\x7d' :: _ => .ok (.object (put (joinHalves name) found done), cursor.advance 1)
      | ',' :: _ =>
        readMembers reader (put (joinHalves name) found done) room (cursor.advance 1).skip
      | _ => malformed .expectingComma cursor.offset := by
  have value_ : ((Cursor.mk (offset + (renderText name).length)
      (':' :: ' ' :: (render value ++ tail))).advance 1).skip =
      ⟨offset + (renderText name).length + 2, render value ++ tail⟩ := by
    obtain ⟨c, letters, shape, ink, _⟩ := begins
    rw [shape, List.cons_append]
    exact skip_space ink
  have whole : renderText name ++ scalar ':' :: ' ' :: (render value ++ tail) =
      scalar '"' :: (name.flatMap escaped ++
        scalar '"' :: scalar ':' :: ' ' :: (render value ++ tail)) := by
    rw [renderText]
    simp
  rw [whole, readMembers]
  dsimp only
  split
  case h_2 noQuote => exact absurd rfl (noQuote _)
  case h_1 inside same =>
    rw [← (List.cons.inj same).2, readText_render]
    dsimp only
    rw [skip_cons (by decide)]
    dsimp only
    rw [value_, reads _ tail ends]
    rfl

theorem renderMembers_head (member : Text × Json) (more : List (Text × Json)) :
    ∃ t, renderMembers (member :: more) = scalar '"' :: t := by
  obtain ⟨name, value⟩ := member
  cases more with
  | nil => exact ⟨_, rfl⟩
  | cons next others => exact ⟨_, rfl⟩

/-- A member is read under its name. -/
def ReadsMember (reader : Cursor → Outcome Json) (member found : Text × Json) : Prop :=
  joinHalves member.1 = found.1 ∧ Reads reader (render member.2) found.2

/-- The members of an object, whose names are new and whose values are read, are read up to the
closing bracket. -/
theorem readMembers_renderMembers {reader : Cursor → Outcome Json}
    {members readings : List (Text × Json)}
    (reads : List.Forall₂ (ReadsMember reader) members readings)
    (begin_ : ∀ member ∈ members, Begins (render member.2)) (some_ : members ≠ [])
    (done : List (Text × Json)) (distinct : ((done ++ readings).map (·.1)).Nodup) {room : Nat}
    (enough : (renderMembers members).length < room) (offset : Nat) (rest : Text) :
    readMembers reader done room ⟨offset, renderMembers members ++ scalar '\x7d' :: rest⟩ =
      .ok (.object (done ++ readings),
        ⟨offset + (renderMembers members).length + 1, rest⟩) := by
  induction reads generalizing done room offset with
  | nil => exact absurd rfl some_
  | @cons member reading more others readsMember readsMore ih =>
    obtain ⟨name, value⟩ := member
    obtain ⟨_, found⟩ := reading
    obtain ⟨rfl, readsValue⟩ := readsMember
    obtain ⟨room, rfl⟩ : ∃ less, room = less + 1 := ⟨room - 1, by omega⟩
    have beginsValue := begin_ (name, value) List.mem_cons_self
    dsimp only at readsValue
    have fresh : joinHalves name ∉ done.map (·.1) := by
      rw [List.map_append, List.map_cons] at distinct
      intro known
      exact (List.nodup_append.mp distinct).2.2 _ known _ List.mem_cons_self rfl
    cases readsMore with
    | nil =>
      have ends : EndsValue ('\x7d' :: rest) := .cons (by decide) rest
      have whole : renderMembers [(name, value)] ++ scalar '\x7d' :: rest =
          renderText name ++ scalar ':' :: ' ' :: (render value ++ scalar '\x7d' :: rest) := by
        rw [renderMembers]
        simp
      have size : (renderMembers [(name, value)]).length =
          (renderText name).length + 2 + (render value).length := by
        rw [renderMembers, List.length_append, List.length_append]
        rfl
      rw [whole, readMembers_member name readsValue beginsValue done room offset ends,
        skip_cons (by decide), size]
      dsimp only
      rw [put_of_not_mem fresh]
      simp [Cursor.advance, Nat.add_assoc]
    | @cons next reading more others readsNext readsMore =>
      have beginMore : ∀ member ∈ next :: more, Begins (render member.2) :=
        fun other isMember => begin_ other (List.mem_cons_of_mem _ isMember)
      have distinctMore :
          (((done ++ [(joinHalves name, found)]) ++ reading :: others).map (·.1)).Nodup := by
        rw [List.append_assoc, List.singleton_append]
        exact distinct
      have size : (renderMembers ((name, value) :: next :: more)).length =
          (renderText name).length + 2 + (render value).length + 2 +
            (renderMembers (next :: more)).length := by
        rw [renderMembers, List.length_append, List.length_append, List.length_append,
          List.length_append]
        rfl
      have shorter : (renderMembers (next :: more)).length < room := by omega
      have onward := ih beginMore (List.cons_ne_nil next more) (done ++ [(joinHalves name, found)])
        distinctMore shorter
        (offset + (renderText name).length + 2 + (render value).length + 2)
      have ends :
          EndsValue (',' :: ' ' :: (renderMembers (next :: more) ++ scalar '\x7d' :: rest)) :=
        .cons (by decide) _
      have whole : renderMembers ((name, value) :: next :: more) ++ scalar '\x7d' :: rest =
          renderText name ++ scalar ':' :: ' ' :: (render value ++
            scalar ',' :: ' ' :: (renderMembers (next :: more) ++ scalar '\x7d' :: rest)) := by
        rw [renderMembers]
        simp
      obtain ⟨quoted, begins⟩ := renderMembers_head next more
      have comma (here : Nat) : ((Cursor.mk here
          (',' :: ' ' :: (renderMembers (next :: more) ++ scalar '\x7d' :: rest))).advance 1).skip =
          ⟨here + 2, renderMembers (next :: more) ++ scalar '\x7d' :: rest⟩ := by
        rw [begins, List.cons_append]
        exact skip_space (by decide)
      rw [whole, readMembers_member name readsValue beginsValue done room offset ends,
        skip_cons (by decide)]
      dsimp only
      rw [comma, put_of_not_mem fresh, onward, size]
      simp only [List.append_assoc, List.singleton_append, Nat.add_assoc]

/-- An object with distinct names, each of whose values is read, is read. -/
theorem reads_object {members readings : List (Text × Json)}
    (reads : List.Forall₂ (ReadsMember (readValue depth)) members readings)
    (begin_ : ∀ member ∈ members, Begins (render member.2))
    (distinct : (readings.map (·.1)).Nodup) :
    Reads (readValue (depth + 1)) (render (.object members)) (.object readings) := by
  intro offset rest _
  cases members with
  | nil =>
    cases reads
    exact readValue_noMembers depth offset rest
  | cons member more =>
    have whole : render (.object (member :: more)) ++ rest =
        scalar '\x7b' :: (renderMembers (member :: more) ++ scalar '\x7d' :: rest) := by
      rw [render]
      simp
    have size : (render (.object (member :: more))).length =
        1 + (renderMembers (member :: more)).length + 1 := by
      rw [render, List.length_cons, List.length_append]
      exact Nat.add_comm _ 1
    obtain ⟨letters, shape⟩ := renderMembers_head member more
    have inside := readValue_members (by decide : isSpacing '"' = false) (by decide) depth offset
      (letters ++ scalar '\x7d' :: rest)
    rw [← List.cons_append, ← shape] at inside
    have enough : (renderMembers (member :: more)).length <
        (renderMembers (member :: more) ++ scalar '\x7d' :: rest).length + 1 := by
      rw [List.length_append]
      omega
    rw [whole, inside, size,
      readMembers_renderMembers reads begin_ (List.cons_ne_nil member more) [] distinct enough]
    simp only [List.nil_append, Nat.add_assoc]

/-! ## Whole values -/

/-- **A written value is read back**, in front of anything that may stand behind it. -/
theorem reads_render (fits : Fits depth value) :
    Reads (readValue depth) (render value) value.joined := by
  induction fits with
  | null => exact reads_scalar (by decide) rfl _
  | @bool _ value => cases value <;> exact reads_scalar (by decide) rfl _
  | integer short => exact reads_renderInteger short _
  | real readsBack => exact reads_renderReal readsBack _
  | text => exact reads_renderText _ _
  | @array depth items fit reads =>
    intro offset rest _
    have begin_ : ∀ item ∈ items, Begins (render item) :=
      fun item member => (fit item member).begins
    cases items with
    | nil => exact readValue_noItems depth offset rest
    | cons item more =>
      have whole : render (.array (item :: more)) ++ rest =
          scalar '[' :: (renderItems (item :: more) ++ scalar ']' :: rest) := by
        rw [render]
        simp
      have size : (render (.array (item :: more))).length =
          1 + (renderItems (item :: more)).length + 1 := by
        rw [render, List.length_cons, List.length_append]
        exact Nat.add_comm _ 1
      obtain ⟨c, letters, shape, ink, isOpen⟩ :=
        begins_renderItems (begin_ item List.mem_cons_self) more
      have inside := readValue_items ink isOpen depth offset (letters ++ scalar ']' :: rest)
      rw [← List.cons_append, ← shape] at inside
      have enough : (renderItems (item :: more)).length <
          (renderItems (item :: more) ++ scalar ']' :: rest).length + 1 := by
        rw [List.length_append]
        omega
      rw [whole, inside, size,
        readItems_renderItems reads begin_ (List.cons_ne_nil item more) [] enough]
      simp only [joined, List.reverse_nil, List.nil_append, Nat.add_assoc]
  | @object depth members fit distinct reads =>
    rw [joined, joinedMembers_eq_map]
    refine reads_object ?_ (fun member isMember => (fit member isMember).begins) ?_
    · exact List.forall₂_map_right_iff.mpr
        (List.forall₂_same.mpr fun member isMember => ⟨rfl, reads member isMember⟩)
    · rw [List.map_map]
      exact distinct

/-- What is read in front of anything is read as a whole text. -/
theorem read_of_reads (begins : Begins (render value))
    (reads : Reads (readValue maxDepth) (render value) found) :
    read (render value) = .ok found := by
  obtain ⟨c, letters, shape, ink, _⟩ := begins
  have plain := only_render value
  have whole := reads 0 [] .nil
  rw [List.append_nil] at whole
  rw [shape] at plain whole ⊢
  unfold read
  split
  case h_1 same =>
    rw [(List.cons.inj same).1] at plain
    cases plain _ List.mem_cons_self
  case h_2 =>
    rw [skip_cons ink, whole]
    rfl

/-- A written value that fits is the value of its text. -/
theorem read_render (fits : Fits maxDepth value) : read (render value) = .ok value.joined :=
  read_of_reads fits.begins (reads_render fits)

end CharTally.Json
