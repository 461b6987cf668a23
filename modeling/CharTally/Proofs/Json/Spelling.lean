import CharTally.Proofs.Json.Reader
import Mathlib.Data.List.Induction

/-!
# What stands in a JSON text

A value is read into members whose names are distinct, but in a text a name may stand
more than once. `Spells` relates a text to the tree of what stands in it, in which an
object has all its members, in the order of the text. `merged` is what is left of a
tree when every object takes its members one after another, and what is read from a
text is what every tree that the text spells comes to (`spells_of_read`).

What taking members one after another comes to is said in two ways: a name stands
where it stood first (`names_putAll`), and has the value that it had last
(`find?_putAll`).
-/

namespace CharTally.Json

/-! ## Members one after another -/

theorem names_put (name : Text) (value : Json) (members : List (Text × Json)) :
    (put name value members).map (·.1) =
      if name ∈ members.map (·.1) then members.map (·.1) else members.map (·.1) ++ [name] := by
  induction members with
  | nil => rfl
  | cons member rest ih =>
    obtain ⟨known, old⟩ := member
    by_cases same : known = name
    · subst same
      rw [put, if_pos rfl, List.map_cons, List.map_cons, if_pos List.mem_cons_self]
    · rw [put, if_neg same, List.map_cons, ih, List.map_cons]
      by_cases later : name ∈ rest.map (·.1)
      · rw [if_pos later, if_pos (List.mem_cons_of_mem known later)]
      · rw [if_neg later, if_neg (List.not_mem_cons_of_ne_of_not_mem (Ne.symm same) later),
          List.cons_append]

theorem putAll_concat (members : List (Text × Json)) (name : Text) (value : Json) :
    putAll [] (members ++ [(name, value)]) = put name value (putAll [] members) := by
  rw [putAll, List.foldl_append]
  rfl

/-- Each name stands where it stood first. -/
theorem names_putAll (members : List (Text × Json)) :
    (putAll [] members).map (·.1) = (members.map (·.1)).eraseDups := by
  induction members using List.reverseRecOn with
  | nil => rfl
  | append_singleton members member ih =>
    obtain ⟨name, value⟩ := member
    have alone : [name].removeAll (members.map (·.1)) =
        if name ∈ members.map (·.1) then [] else [name] := by
      by_cases known : name ∈ members.map (·.1)
      · simp [List.removeAll, known]
      · simp [List.removeAll, known]
    rw [putAll_concat, names_put, ih, List.map_append, List.eraseDups_append, List.map_singleton,
      alone]
    simp only [List.mem_eraseDups]
    by_cases known : name ∈ members.map (·.1)
    · rw [if_pos known, if_pos known, List.eraseDups_nil, List.append_nil]
    · rw [if_neg known, if_neg known]
      rfl

/-- Each name has the value that it had last. -/
theorem find?_putAll (name : Text) (members : List (Text × Json)) :
    find? name (putAll [] members) = find? name members.reverse := by
  induction members using List.reverseRecOn with
  | nil => rfl
  | append_singleton members member ih =>
    obtain ⟨known, value⟩ := member
    rw [putAll_concat, find?_put, List.reverse_append, List.reverse_singleton,
      List.singleton_append, find?_cons, ih]

/-- No name stands twice. -/
theorem nodup_names_putAll (members : List (Text × Json)) :
    ((putAll [] members).map (·.1)).Nodup := by
  induction members using List.reverseRecOn with
  | nil => exact List.nodup_nil
  | append_singleton members member ih =>
    obtain ⟨name, value⟩ := member
    rw [putAll_concat, names_put]
    split
    case isTrue => exact ih
    case isFalse new =>
      refine List.nodup_append.mpr ⟨ih, List.pairwise_singleton _ _, ?_⟩
      intro known among other alone
      rw [List.mem_singleton.mp alone]
      rintro rfl
      exact new among

/-- Where no name stands twice, each is found with the value that stands under it. -/
theorem find?_of_mem {name : Text} {value : Json} {members : List (Text × Json)}
    (distinct : (members.map (·.1)).Nodup) (member : (name, value) ∈ members) :
    find? name members = some value := by
  induction members with
  | nil => cases member
  | cons first rest ih =>
    obtain ⟨known, old⟩ := first
    rw [List.map_cons, List.nodup_cons] at distinct
    rw [find?_cons]
    rcases List.mem_cons.mp member with same | later
    · cases same
      rw [if_pos rfl]
    · have differs : name ≠ known := by
        rintro rfl
        exact distinct.1 (List.mem_map.mpr ⟨_, later, rfl⟩)
      rw [if_neg differs]
      exact ih distinct.2 later

/-! ## Trees -/

mutual

/-- A tree in which every object has taken its members one after another. -/
def merged : Json → Json
  | .array items => .array (mergedItems items)
  | .object members => .object (putAll [] (mergedMembers members))
  | value => value

/-- The items of an array, each of them merged. -/
def mergedItems : List Json → List Json
  | [] => []
  | item :: rest => merged item :: mergedItems rest

/-- The members of an object, the value of each of them merged. -/
def mergedMembers : List (Text × Json) → List (Text × Json)
  | [] => []
  | (name, value) :: rest => (name, merged value) :: mergedMembers rest

end

theorem mergedMembers_eq (members : List (Text × Json)) :
    mergedMembers members = members.map fun (name, value) => (name, merged value) := by
  induction members with
  | nil => rfl
  | cons member rest ih =>
    rw [mergedMembers, ih]
    rfl

theorem names_mergedMembers (members : List (Text × Json)) :
    (mergedMembers members).map (·.1) = members.map (·.1) := by
  rw [mergedMembers_eq, List.map_map]
  rfl

theorem find?_mergedMembers (name : Text) (members : List (Text × Json)) :
    find? name (mergedMembers members) = (find? name members).map merged := by
  induction members with
  | nil => rfl
  | cons member rest ih =>
    obtain ⟨known, value⟩ := member
    rw [mergedMembers, find?_cons, find?_cons, ih]
    by_cases same : name = known
    · rw [if_pos same, if_pos same]
      rfl
    · rw [if_neg same, if_neg same]

/-- A member of a merged object is the last one of its name in the tree. -/
theorem find?_merged (name : Text) (members : List (Text × Json)) :
    find? name (putAll [] (mergedMembers members)) = (find? name members.reverse).map merged := by
  rw [find?_putAll, ← find?_mergedMembers, mergedMembers_eq, mergedMembers_eq, List.map_reverse]

/-- What is merged into an object is an object. -/
theorem merged_eq_object {tree : Json} {members : List (Text × Json)}
    (same : tree.merged = .object members) :
    ∃ written, tree = .object written ∧ members = putAll [] (mergedMembers written) := by
  cases tree with
  | object written =>
    rw [merged] at same
    cases same
    exact ⟨written, rfl, rfl⟩
  | array items => rw [merged] at same; cases same
  | null => cases same
  | bool value => cases same
  | integer value => cases same
  | real value => cases same
  | text value => cases same

/-! ## Trees in texts -/

/-- A name stands at a cursor, and behind its colon the value begins. -/
def NameAt (cursor : Cursor) (name : Text) (value : Cursor) : Prop :=
  ∃ letters behind more, cursor.rest = scalar '"' :: letters ∧
    readText cursor.offset [] none (cursor.offset + 1) letters = .ok (name, behind) ∧
    behind.skip.rest = scalar ':' :: more ∧ value = (behind.skip.advance 1).skip

/-- Items stand at a cursor, with commas between them and a closing bracket behind the last. -/
inductive ItemsAt (item : Cursor → Json → Cursor → Prop) : Cursor → List Json → Cursor → Prop
  | last {cursor behind : Cursor} {tree : Json} {more : Text} (first : item cursor tree behind)
      (closed : behind.skip.rest = scalar ']' :: more) :
      ItemsAt item cursor [tree] (behind.skip.advance 1)
  | comma {cursor behind after : Cursor} {tree : Json} {trees : List Json} {more : Text}
      (first : item cursor tree behind) (goesOn : behind.skip.rest = scalar ',' :: more)
      (others : ItemsAt item (behind.skip.advance 1).skip trees after) :
      ItemsAt item cursor (tree :: trees) after

/-- Members stand at a cursor, with commas between them and a closing brace behind the last. -/
inductive MembersAt (item : Cursor → Json → Cursor → Prop) :
    Cursor → List (Text × Json) → Cursor → Prop
  | last {cursor value behind : Cursor} {name more : Text} {tree : Json}
      (named : NameAt cursor name value) (first : item value tree behind)
      (closed : behind.skip.rest = scalar '\x7d' :: more) :
      MembersAt item cursor [(name, tree)] (behind.skip.advance 1)
  | comma {cursor value behind after : Cursor} {name more : Text} {tree : Json}
      {members : List (Text × Json)} (named : NameAt cursor name value)
      (first : item value tree behind) (goesOn : behind.skip.rest = scalar ',' :: more)
      (others : MembersAt item (behind.skip.advance 1).skip members after) :
      MembersAt item cursor ((name, tree) :: members) after

/-- A tree stands at a cursor: a text, a word or a number, or what brackets hold. -/
inductive ValueAt : Cursor → Json → Cursor → Prop
  | text {cursor behind : Cursor} {letters text : Text}
      (quote : cursor.rest = scalar '"' :: letters)
      (read : readText cursor.offset [] none (cursor.offset + 1) letters = .ok (text, behind)) :
      ValueAt cursor (.text text) behind
  | scalar {cursor behind : Cursor} {value : Json}
      (plain : ∀ c ∈ cursor.rest.head?, c ≠ '"' ∧ c ≠ '[' ∧ c ≠ '\x7b')
      (read : readScalar cursor = .ok (value, behind)) : ValueAt cursor value behind
  | noItems {cursor : Cursor} {inside more : Text} (opened : cursor.rest = scalar '[' :: inside)
      (closed : (cursor.advance 1).skip.rest = scalar ']' :: more) :
      ValueAt cursor (.array []) ((cursor.advance 1).skip.advance 1)
  | items {cursor behind : Cursor} {inside : Text} {items : List Json}
      (opened : cursor.rest = scalar '[' :: inside)
      (stand : ItemsAt ValueAt (cursor.advance 1).skip items behind) :
      ValueAt cursor (.array items) behind
  | noMembers {cursor : Cursor} {inside more : Text}
      (opened : cursor.rest = scalar '\x7b' :: inside)
      (closed : (cursor.advance 1).skip.rest = scalar '\x7d' :: more) :
      ValueAt cursor (.object []) ((cursor.advance 1).skip.advance 1)
  | members {cursor behind : Cursor} {inside : Text} {members : List (Text × Json)}
      (opened : cursor.rest = scalar '\x7b' :: inside)
      (stand : MembersAt ValueAt (cursor.advance 1).skip members behind) :
      ValueAt cursor (.object members) behind

/-- A text holds a tree, and nothing else but spacing. -/
def Spells (document : Text) (tree : Json) : Prop :=
  document.head? ≠ some '\ufeff' ∧
    ∃ behind, ValueAt (Cursor.skip ⟨0, document⟩) tree behind ∧ behind.skip.rest = []

/-! ## What is read is what stands there -/

variable {item : Cursor → Outcome Json} {itemAt : Cursor → Json → Cursor → Prop} {room depth : Nat}
  {cursor behind : Cursor} {value : Json}

/-- A reader reads what stands at a cursor, and nothing else stands there. -/
structure ReadsTrees (item : Cursor → Outcome Json) (itemAt : Cursor → Json → Cursor → Prop) :
    Prop where
  stands : ∀ {cursor behind value}, item cursor = .ok (value, behind) →
    ∃ tree, itemAt cursor tree behind ∧ tree.merged = value
  only : ∀ {cursor behind after value tree}, item cursor = .ok (value, behind) →
    itemAt cursor tree after → tree.merged = value ∧ after = behind

theorem readItems_ok (reads : ReadsTrees item itemAt) {done : List Json}
    (ran : readItems item done room cursor = .ok (value, behind)) :
    (∃ trees, ItemsAt itemAt cursor trees behind ∧
        value = .array (done.reverse ++ mergedItems trees)) ∧
      ∀ trees after, ItemsAt itemAt cursor trees after →
        value = .array (done.reverse ++ mergedItems trees) ∧ after = behind := by
  induction room generalizing done cursor with
  | zero => cases ran
  | succ room ih =>
    rw [readItems] at ran
    split at ran
    case h_1 => cases ran
    case h_2 first next read =>
      obtain ⟨tree, stands, rfl⟩ := reads.stands read
      dsimp only at ran
      split at ran
      case h_1 more closed =>
        cases ran
        refine ⟨⟨[tree], .last stands closed, by simp [mergedItems]⟩, ?_⟩
        intro trees after others
        cases others with
        | last first _ =>
          obtain ⟨same, rfl⟩ := reads.only read first
          exact ⟨by simp [mergedItems, same], rfl⟩
        | comma first goesOn _ =>
          obtain ⟨_, rfl⟩ := reads.only read first
          rw [closed] at goesOn
          cases goesOn
      case h_2 more goesOn =>
        obtain ⟨⟨trees, others, rfl⟩, only⟩ := ih ran
        refine ⟨⟨tree :: trees, .comma stands goesOn others, by simp [mergedItems]⟩, ?_⟩
        intro trees' after others'
        cases others' with
        | last first closed =>
          obtain ⟨_, rfl⟩ := reads.only read first
          rw [goesOn] at closed
          cases closed
        | comma first _ later =>
          obtain ⟨same, rfl⟩ := reads.only read first
          obtain ⟨same', rfl⟩ := only _ _ later
          rw [same']
          exact ⟨by simp [mergedItems, same], rfl⟩
      case h_3 => cases ran

/-- A name that stands at a cursor is the one that is read there. -/
theorem NameAt.eq {name other letters : Text} {colon start : Cursor}
    (named : NameAt cursor other start) (quote : cursor.rest = scalar '"' :: letters)
    (read : readText cursor.offset [] none (cursor.offset + 1) letters = .ok (name, colon)) :
    other = name ∧ start = (colon.skip.advance 1).skip := by
  obtain ⟨letters', colon', _, quote', read', _, rfl⟩ := named
  rw [quote] at quote'
  cases quote'
  rw [read] at read'
  cases read'
  exact ⟨rfl, rfl⟩

theorem readMembers_ok (reads : ReadsTrees item itemAt) {done : List (Text × Json)}
    (ran : readMembers item done room cursor = .ok (value, behind)) :
    (∃ members, MembersAt itemAt cursor members behind ∧
        value = .object (putAll done (mergedMembers members))) ∧
      ∀ members after, MembersAt itemAt cursor members after →
        value = .object (putAll done (mergedMembers members)) ∧ after = behind := by
  induction room generalizing done cursor with
  | zero => cases ran
  | succ room ih =>
    rw [readMembers] at ran
    split at ran
    case h_2 => cases ran
    case h_1 letters quote =>
      split at ran
      case h_1 => cases ran
      case h_2 name colon named =>
        dsimp only at ran
        split at ran
        case h_2 => cases ran
        case h_1 more isColon =>
          have nameStands : NameAt cursor name (colon.skip.advance 1).skip :=
            ⟨letters, colon, more, quote, named, isColon, rfl⟩
          split at ran
          case h_1 => cases ran
          case h_2 first next read =>
            obtain ⟨tree, stands, rfl⟩ := reads.stands read
            split at ran
            case h_1 more closed =>
              cases ran
              refine ⟨⟨[(name, tree)], .last nameStands stands closed, rfl⟩, ?_⟩
              intro members after others
              cases others with
              | last named' first _ =>
                obtain ⟨rfl, rfl⟩ := named'.eq quote named
                obtain ⟨same, rfl⟩ := reads.only read first
                exact ⟨by simp [mergedMembers, same, putAll], rfl⟩
              | comma named' first goesOn _ =>
                obtain ⟨rfl, rfl⟩ := named'.eq quote named
                obtain ⟨_, rfl⟩ := reads.only read first
                rw [closed] at goesOn
                cases goesOn
            case h_2 more goesOn =>
              obtain ⟨⟨members, others, rfl⟩, only⟩ := ih ran
              refine ⟨⟨(name, tree) :: members, .comma nameStands stands goesOn others, rfl⟩, ?_⟩
              intro members' after others'
              cases others' with
              | last named' first closed =>
                obtain ⟨rfl, rfl⟩ := named'.eq quote named
                obtain ⟨_, rfl⟩ := reads.only read first
                rw [goesOn] at closed
                cases closed
              | comma named' first _ later =>
                obtain ⟨rfl, rfl⟩ := named'.eq quote named
                obtain ⟨same, rfl⟩ := reads.only read first
                obtain ⟨same', rfl⟩ := only _ _ later
                rw [same', mergedMembers, same]
                exact ⟨rfl, rfl⟩
            case h_3 => cases ran

/-- A number or a word. -/
def IsScalar : Json → Prop
  | .text _ | .array _ | .object _ => False
  | _ => True

theorem isScalar_of_readNumber (ran : readNumber cursor = .ok (value, behind)) :
    value.IsScalar := by
  unfold readNumber at ran
  generalize unsigned cursor.rest = parts at ran
  obtain ⟨negative, body⟩ := parts
  dsimp only at ran
  generalize integerDigits body = whole at ran
  generalize fractionDigits (body.drop whole.length) = fraction at ran
  generalize (if fraction.isEmpty = true then 0 else fraction.length + 1) = width at ran
  generalize exponentOf? ((body.drop whole.length).drop width) = exponent at ran
  by_cases nothing : whole.isEmpty = true
  · rw [if_pos nothing] at ran
    cases ran
  rw [if_neg nothing] at ran
  by_cases isInteger : fraction.isEmpty = true ∧ exponent = none
  · rw [if_pos isInteger] at ran
    by_cases long : Numeral.maxDigits < whole.length
    · rw [if_pos long] at ran
      cases ran
    · rw [if_neg long] at ran
      cases ran
      exact trivial
  · rw [if_neg isInteger] at ran
    cases ran
    exact trivial

theorem isScalar_of_readScalar (ran : readScalar cursor = .ok (value, behind)) :
    value.IsScalar := by
  have scalars : ∀ entry ∈ words, entry.2.IsScalar := by
    intro entry member
    simp only [words, List.mem_cons, List.not_mem_nil, or_false] at member
    rcases member with rfl | rfl | rfl | rfl | rfl | rfl <;> exact trivial
  unfold readScalar at ran
  split at ran
  case h_1 word meaning found =>
    cases ran
    exact scalars _ (List.mem_of_find?_eq_some found)
  case h_2 => exact isScalar_of_readNumber ran

theorem merged_of_readScalar (ran : readScalar cursor = .ok (value, behind)) :
    value.merged = value := by
  have isScalar := isScalar_of_readScalar ran
  cases value with
  | text value => cases isScalar
  | array items => cases isScalar
  | object members => cases isScalar
  | _ => rfl

/-- What is read from a cursor stands there, if this is so one bracket further down. -/
theorem stands_of_readValue
    (below : ∀ less, depth = less + 1 → ReadsTrees (readValue less) ValueAt)
    (ran : readValue depth cursor = .ok (value, behind)) :
    ∃ tree, ValueAt cursor tree behind ∧ tree.merged = value := by
  unfold readValue at ran
  split at ran
  case h_1 => cases ran
  case h_2 letters quote =>
    split at ran
    case h_1 => cases ran
    case h_2 text after read =>
      cases ran
      exact ⟨_, .text quote read, rfl⟩
  case h_3 inside opened =>
    cases depth with
    | zero => cases ran
    | succ depth =>
      dsimp only at ran
      split at ran
      case h_1 more closed =>
        cases ran
        exact ⟨_, .noItems opened closed, rfl⟩
      case h_2 =>
        obtain ⟨⟨trees, stand, rfl⟩, _⟩ := readItems_ok (below depth rfl) ran
        exact ⟨_, .items opened stand, rfl⟩
  case h_4 inside opened =>
    cases depth with
    | zero => cases ran
    | succ depth =>
      dsimp only at ran
      split at ran
      case h_1 more closed =>
        cases ran
        exact ⟨_, .noMembers opened closed, rfl⟩
      case h_2 =>
        obtain ⟨⟨members, stand, rfl⟩, _⟩ := readMembers_ok (below depth rfl) ran
        exact ⟨_, .members opened stand, rfl⟩
  case h_5 notQuote notBracket notBrace =>
    refine ⟨value, .scalar ?_ ran, merged_of_readScalar ran⟩
    intro c first
    obtain ⟨more, shape⟩ := List.head?_eq_some_iff.mp first
    refine ⟨?_, ?_, ?_⟩
    · rintro rfl
      exact notQuote more shape
    · rintro rfl
      exact notBracket more shape
    · rintro rfl
      exact notBrace more shape

/-- Nothing stands at a closing bracket. -/
theorem ItemsAt.not_closed {trees : List Json} (stand : ItemsAt ValueAt cursor trees behind)
    (more : Text) : cursor.rest ≠ scalar ']' :: more := by
  have value {tree : Json} {after : Cursor} (stands : ValueAt cursor tree after) :
      cursor.rest ≠ scalar ']' :: more := by
    intro closed
    cases stands with
    | text quote => rw [closed] at quote; cases quote
    | scalar _ read =>
      obtain ⟨offset, rest⟩ := cursor
      cases closed
      cases read
    | noItems opened => rw [closed] at opened; cases opened
    | items opened => rw [closed] at opened; cases opened
    | noMembers opened => rw [closed] at opened; cases opened
    | members opened => rw [closed] at opened; cases opened
  cases stand with
  | last first => exact value first
  | comma first => exact value first

/-- No member stands at a closing brace. -/
theorem MembersAt.not_closed {members : List (Text × Json)}
    (stand : MembersAt ValueAt cursor members behind) (more : Text) :
    cursor.rest ≠ scalar '\x7d' :: more := by
  have name {name : Text} {value : Cursor} (named : NameAt cursor name value) :
      cursor.rest ≠ scalar '\x7d' :: more := by
    intro closed
    obtain ⟨letters, _, _, quote, _⟩ := named
    rw [closed] at quote
    cases quote
  cases stand with
  | last named => exact name named
  | comma named => exact name named

/-- What stands at a cursor is what is read, if this is so one bracket further down. -/
theorem only_of_readValue {tree : Json} {after : Cursor}
    (below : ∀ less, depth = less + 1 → ReadsTrees (readValue less) ValueAt)
    (ran : readValue depth cursor = .ok (value, behind)) (stands : ValueAt cursor tree after) :
    tree.merged = value ∧ after = behind := by
  cases stands with
  | text quote read =>
    unfold readValue at ran
    simp only [quote, read] at ran
    cases ran
    exact ⟨rfl, rfl⟩
  | scalar plain read =>
    obtain ⟨offset, _ | ⟨c, letters⟩⟩ := cursor
    · unfold readValue at ran
      cases ran
    · rw [readValue_of_scalar (plain c rfl), read] at ran
      cases ran
      exact ⟨merged_of_readScalar read, rfl⟩
  | noItems opened closed =>
    unfold readValue at ran
    simp only [opened] at ran
    cases depth with
    | zero => cases ran
    | succ depth =>
      simp only [closed] at ran
      cases ran
      exact ⟨rfl, rfl⟩
  | items opened stand =>
    unfold readValue at ran
    simp only [opened] at ran
    cases depth with
    | zero => cases ran
    | succ depth =>
      dsimp only at ran
      split at ran
      case h_1 more closed => exact absurd closed (stand.not_closed more)
      case h_2 =>
        obtain ⟨rfl, rfl⟩ := (readItems_ok (below depth rfl) ran).2 _ _ stand
        exact ⟨rfl, rfl⟩
  | noMembers opened closed =>
    unfold readValue at ran
    simp only [opened] at ran
    cases depth with
    | zero => cases ran
    | succ depth =>
      simp only [closed] at ran
      cases ran
      exact ⟨rfl, rfl⟩
  | members opened stand =>
    unfold readValue at ran
    simp only [opened] at ran
    cases depth with
    | zero => cases ran
    | succ depth =>
      dsimp only at ran
      split at ran
      case h_1 more closed => exact absurd closed (stand.not_closed more)
      case h_2 =>
        obtain ⟨rfl, rfl⟩ := (readMembers_ok (below depth rfl) ran).2 _ _ stand
        exact ⟨rfl, rfl⟩

/-- At every depth, what is read is what stands there. -/
theorem readsTrees_readValue (depth : Nat) : ReadsTrees (readValue depth) ValueAt := by
  induction depth with
  | zero =>
    have below : ∀ less, 0 = less + 1 → ReadsTrees (readValue less) ValueAt :=
      fun less above => nomatch above
    exact ⟨stands_of_readValue below, only_of_readValue below⟩
  | succ depth ih =>
    have below : ∀ less, depth + 1 = less + 1 → ReadsTrees (readValue less) ValueAt := by
      rintro less ⟨⟩
      exact ih
    exact ⟨stands_of_readValue below, only_of_readValue below⟩

/-- **What is read from a text is what stands in it**, with the members of each object taken one
after another: some tree does, and every tree that does comes to this value. -/
theorem spells_of_read {document : Text} (ran : read document = .ok value) :
    (∃ tree, Spells document tree) ∧ ∀ tree, Spells document tree → tree.merged = value := by
  unfold read at ran
  split at ran
  case h_1 => cases ran
  case h_2 plain =>
    split at ran
    case h_1 => cases ran
    case h_2 found behind read =>
      obtain ⟨tree, stands, _⟩ := (readsTrees_readValue maxDepth).stands read
      dsimp only at ran
      split at ran
      case isFalse => cases ran
      case isTrue none_ =>
        cases ran
        constructor
        · refine ⟨tree, ?_, behind, stands, List.isEmpty_iff.mp none_⟩
          intro mark
          obtain ⟨more, shape⟩ := List.head?_eq_some_iff.mp mark
          exact plain more shape
        · rintro other ⟨_, after, stands', _⟩
          exact ((readsTrees_readValue maxDepth).only read stands').1

end CharTally.Json
