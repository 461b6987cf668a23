import CharTally.Proofs.Json.Writer

/-!
# Where a piece of a text ends

Sentences are put together from pieces without a mark between them. A piece whose characters are
all of a class ends where a character stands that is not (`append_inj_of_only`); seen from the
back, it begins behind the last such character (`append_inj_of_only_behind`). A numeral is a piece
of this kind once its sign is taken off, so it can be told from what follows unless this begins
with a digit (`ofInt_append_inj`).
-/

namespace CharTally

namespace Text

variable {ok : CodePoint → Bool} {s t rest more : Text}

/-- Of a piece and what follows it, the characters of its class are the piece. -/
theorem takeWhile_append_of_only (all : Only ok s) (stops : ∀ c ∈ rest.head?, ok c = false) :
    (s ++ rest).takeWhile ok = s := by
  have noMore : rest.takeWhile ok = [] := by
    cases rest with
    | nil => rfl
    | cons c others => simp [stops c rfl]
  rw [List.takeWhile_append_of_pos all, noMore, List.append_nil]

/-- Two pieces of a class that are followed by something else are told apart by the whole. -/
theorem append_inj_of_only (first : Only ok s) (second : Only ok t)
    (firstStops : ∀ c ∈ rest.head?, ok c = false) (secondStops : ∀ c ∈ more.head?, ok c = false)
    (same : s ++ rest = t ++ more) : s = t ∧ rest = more := by
  have piece : s = t := by
    rw [← takeWhile_append_of_only first firstStops, same,
      takeWhile_append_of_only second secondStops]
  rw [piece] at same
  exact ⟨piece, List.append_cancel_left same⟩

/-- So are two pieces of a class behind something else. -/
theorem append_inj_of_only_behind (first : Only ok s) (second : Only ok t)
    (firstStops : ∀ c ∈ rest.getLast?, ok c = false)
    (secondStops : ∀ c ∈ more.getLast?, ok c = false) (same : rest ++ s = more ++ t) :
    rest = more ∧ s = t := by
  have turned : s.reverse ++ rest.reverse = t.reverse ++ more.reverse := by
    rw [← List.reverse_append, ← List.reverse_append, same]
  have firstTurned : Only ok s.reverse := fun c member => first c (List.mem_reverse.mp member)
  have secondTurned : Only ok t.reverse := fun c member => second c (List.mem_reverse.mp member)
  obtain ⟨piece, front⟩ := append_inj_of_only firstTurned secondTurned
    (by rwa [List.head?_reverse]) (by rwa [List.head?_reverse]) turned
  exact ⟨List.reverse_injective front, List.reverse_injective piece⟩

end Text

namespace Numeral

variable {m n : Nat} {i j : Int} {rest more : Text}

/-- A numeral denotes one number only. -/
theorem decimal_inj : decimal m = decimal n ↔ m = n := by
  constructor
  · intro same
    have first := ofDigits?_numeral (by decide : 1 < 10) (by decide) m
    have second := ofDigits?_numeral (by decide : 1 < 10) (by decide) n
    rw [← decimal, same] at first
    exact Option.some.inj (first.symm.trans second)
  · rintro rfl
    rfl

theorem only_isDigit_decimal (n : Nat) : Only CodePoint.isDigit (decimal n) := fun _ member =>
  isDigit_of_mem_decimal member

/-- A number can be told from what follows its numeral, unless this begins with a digit. -/
theorem decimal_append_inj (firstStops : ∀ c ∈ rest.head?, c.isDigit = false)
    (secondStops : ∀ c ∈ more.head?, c.isDigit = false)
    (same : decimal m ++ rest = decimal n ++ more) : m = n ∧ rest = more := by
  obtain ⟨numeral, behind⟩ := Text.append_inj_of_only (only_isDigit_decimal m)
    (only_isDigit_decimal n) firstStops secondStops same
  exact ⟨decimal_inj.mp numeral, behind⟩

/-- A number is not written like a negative one. -/
theorem decimal_append_ne (n : Nat) (rest more : Text) :
    decimal n ++ rest ≠ scalar '-' :: more := by
  obtain ⟨d, small, others, front⟩ := exists_decimal_cons n
  obtain ⟨_, _, _, noMinus, _⟩ := decimalDigit?_digitChar d small
  rw [front]
  intro same
  exact noMinus (List.cons.inj same).1

/-- An integer can be told from what follows its numeral, unless this begins with a digit. -/
theorem ofInt_append_inj (firstStops : ∀ c ∈ rest.head?, c.isDigit = false)
    (secondStops : ∀ c ∈ more.head?, c.isDigit = false)
    (same : ofInt i ++ rest = ofInt j ++ more) : i = j ∧ rest = more := by
  cases i with
  | ofNat m =>
    cases j with
    | ofNat n =>
      obtain ⟨number, behind⟩ := decimal_append_inj firstStops secondStops same
      exact ⟨congrArg Int.ofNat number, behind⟩
    | negSucc n => exact absurd same (decimal_append_ne m rest _)
  | negSucc m =>
    cases j with
    | ofNat n => exact absurd same.symm (decimal_append_ne n more _)
    | negSucc n =>
      obtain ⟨number, behind⟩ :=
        decimal_append_inj firstStops secondStops (List.cons.inj same).2
      exact ⟨congrArg Int.negSucc (Nat.succ.inj number), behind⟩

theorem ofInt_inj : ofInt i = ofInt j ↔ i = j := by
  constructor
  · intro same
    have ends : ∀ c ∈ ([] : Text).head?, c.isDigit = false := fun _ none_ => nomatch none_
    exact (ofInt_append_inj ends ends (congrArg (· ++ []) same)).1
  · rintro rfl
    rfl

end Numeral

end CharTally
