import CharTally.Json.Writer
import CharTally.Proofs.Text.Numeral

/-!
# What written JSON looks like

Every character of a written value is ASCII from the space on (`only_render`), so
the value stands on one line. Numbers consist of digits and a few marks
(`only_finiteText`).
-/

namespace CharTally

/-- A text consists of characters of a class. -/
def Only (ok : CodePoint → Bool) (t : Text) : Prop := ∀ c ∈ t, ok c = true

instance (ok : CodePoint → Bool) (t : Text) : Decidable (Only ok t) :=
  List.decidableBAll (fun c => ok c = true) t

namespace Only

variable {ok good : CodePoint → Bool} {s t : Text} {c : CodePoint}

theorem nil : Only ok [] := fun _ member => nomatch member

theorem append (first : Only ok s) (second : Only ok t) : Only ok (s ++ t) :=
  List.forall_mem_append.mpr ⟨first, second⟩

theorem cons (head : ok c = true) (rest : Only ok t) : Only ok (c :: t) :=
  List.forall_mem_cons.mpr ⟨head, rest⟩

theorem replicate (count : Nat) (isOk : ok c = true) : Only ok (List.replicate count c) := by
  intro other member
  rw [List.eq_of_mem_replicate member]
  exact isOk

theorem of_subset (all : Only ok t) (subset : s ⊆ t) : Only ok s :=
  fun c member => all c (subset member)

theorem weaken (all : Only ok t) (implies : ∀ c, ok c = true → good c = true) : Only good t :=
  fun c member => implies c (all c member)

theorem ite {condition : Prop} [Decidable condition] (first : Only ok s) (second : Only ok t) :
    Only ok (if condition then s else t) := by
  by_cases holds : condition
  · rw [if_pos holds]
    exact first
  · rw [if_neg holds]
    exact second

theorem not_mem (all : Only ok t) (isNot : ok c = false) : c ∉ t := by
  intro member
  rw [all c member] at isNot
  cases isNot

end Only

/-- An ASCII character from the space on, other than the one at the end. -/
def Json.isPlain (c : CodePoint) : Bool := 0x20 ≤ c.toNat && c.toNat < Text.maxAscii

/-- A digit, or a character that stands between the digits of a number. -/
def Json.isMark (c : CodePoint) : Bool :=
  (0x30 ≤ c.toNat && c.toNat ≤ 0x39) || c = '+' || c = '-' || c = '.' || c = 'e'

theorem Json.isPlain_of_isMark (c : CodePoint) (mark : isMark c = true) : isPlain c = true := by
  simp only [isMark, Bool.or_eq_true, Bool.and_eq_true, decide_eq_true_eq] at mark
  rcases mark with (((digit | rfl) | rfl) | rfl) | rfl
  · rw [isPlain, Bool.and_eq_true, decide_eq_true_eq, decide_eq_true_eq, Text.maxAscii]
    omega
  all_goals decide

/-- No half of a pair is plain. -/
theorem Json.isWhole_of_plain {t : Text} (plain : Only isPlain t) : t.isWhole = true := by
  apply Text.isWhole_of_isAscii
  rw [Text.isAscii, List.all_eq_true]
  intro c member
  have small := plain c member
  rw [isPlain, Bool.and_eq_true, decide_eq_true_eq, decide_eq_true_eq] at small
  exact decide_eq_true small.2.le

/-! ## Numbers -/

namespace Numeral

variable {ok : CodePoint → Bool}

theorem only_padded {base : Nat} (large : 1 < base) (digits : ∀ d < base, ok d.digitChar = true)
    (width n : Nat) : Only ok (padded base width n) := by
  intro c member
  obtain ⟨d, isDigit, rfl⟩ := exists_digitChar_of_mem_padded large member
  exact digits d isDigit

theorem only_decimal (n : Nat) : Only Json.isMark (decimal n) := by
  intro c member
  obtain ⟨d, isDigit, rfl⟩ := exists_digitChar_of_mem_numeral (by omega) member
  exact (by decide : ∀ d < 10, Json.isMark d.digitChar = true) d isDigit

theorem only_ofInt (i : Int) : Only Json.isMark (ofInt i) := by
  cases i with
  | ofNat n => exact only_decimal n
  | negSucc n => exact .cons (by decide) (only_decimal (n + 1))

end Numeral

namespace Binary64

theorem only_layout {digits : Text} (all : Only Json.isMark digits) (point : Int) :
    Only Json.isMark (layout digits point) := by
  have front (count : Nat) : Only Json.isMark (digits.take count) :=
    all.of_subset (List.take_subset count digits)
  have back (count : Nat) : Only Json.isMark (digits.drop count) :=
    all.of_subset (List.drop_subset count digits)
  unfold layout
  refine .ite (.ite ?_ (.ite ?_ ?_)) ?_
  · exact .append (.append (by decide) (.replicate _ (by decide))) all
  · exact .append (.append all (.replicate _ (by decide))) (by decide)
  · exact .append (.append (front _) (by decide)) (back _)
  · have mark : Only Json.isMark (if point - 1 < 0 then ("e-" : Text) else "e+") := by
      by_cases below : point - 1 < 0
      · rw [if_pos below]
        decide
      · rw [if_neg below]
        decide
    exact .append (.append (.append (front 1) (.ite .nil (.cons (by decide) (back 1)))) mark)
      (Numeral.only_padded (by decide) (by decide) 2 _)

theorem only_finiteText (negative : Bool) (mantissa : Nat) (exponent : Int) :
    Only Json.isMark (finiteText negative mantissa exponent) := by
  have digits (n : Nat) :
      Only Json.isMark ((Numeral.decimal n).reverse.dropWhile (· = scalar '0')).reverse := by
    intro c member
    have inside := (List.dropWhile_sublist _).subset (List.mem_reverse.mp member)
    exact Numeral.only_decimal n c (List.mem_reverse.mp inside)
  unfold finiteText
  exact .ite (.cons (by decide) (.ite (by decide) (only_layout (digits _) _)))
    (.ite (by decide) (only_layout (digits _) _))

end Binary64

namespace Json

theorem only_renderReal (value : Binary64) : Only isPlain (renderReal value) := by
  cases value with
  | finite negative mantissa exponent =>
    exact (Binary64.only_finiteText negative mantissa exponent).weaken isPlain_of_isMark
  | infinite negative => cases negative <;> decide
  | nan => decide

/-! ## Texts -/

theorem only_unitEscape (unit : Nat) : Only isPlain (unitEscape unit) :=
  .append (by decide) (Numeral.only_padded (by decide) (by decide) 4 unit)

theorem only_escaped (c : CodePoint) : Only isPlain (escaped c) := by
  unfold escaped
  refine .ite (by decide) (.ite (by decide) (.ite (by decide) (.ite (by decide)
    (.ite (by decide) (.ite (by decide) (.ite (by decide) ?_))))))
  by_cases visible : 0x20 ≤ c.toNat ∧ c.toNat < Text.maxAscii
  · rw [if_pos visible]
    exact .cons (by simpa [isPlain] using visible) .nil
  · rw [if_neg visible]
    exact .ite (only_unitEscape _) (.append (only_unitEscape _) (only_unitEscape _))

theorem only_renderText (t : Text) : Only isPlain (renderText t) := by
  have inside : Only isPlain (t.flatMap escaped) := by
    intro c member
    obtain ⟨source, _, escape⟩ := List.mem_flatMap.mp member
    exact only_escaped source c escape
  exact .cons (by decide) (.append inside (by decide))

/-! ## Values -/

mutual

/-- A written value stands on one line, in ASCII. -/
theorem only_render : (value : Json) → Only isPlain (render value)
  | .null => by decide
  | .bool true => by decide
  | .bool false => by decide
  | .integer value => (Numeral.only_ofInt value).weaken isPlain_of_isMark
  | .real value => only_renderReal value
  | .text value => only_renderText value
  | .array items => .cons (by decide) (.append (only_renderItems items) (by decide))
  | .object members => .cons (by decide) (.append (only_renderMembers members) (by decide))

theorem only_renderItems : (items : List Json) → Only isPlain (renderItems items)
  | [] => .nil
  | [item] => only_render item
  | item :: next :: rest =>
    .append (.append (only_render item) (by decide)) (only_renderItems (next :: rest))

theorem only_renderMembers : (members : List (Text × Json)) → Only isPlain (renderMembers members)
  | [] => .nil
  | [(name, value)] => .append (.append (only_renderText name) (by decide)) (only_render value)
  | (name, value) :: next :: rest =>
    .append
      (.append (.append (.append (only_renderText name) (by decide)) (only_render value))
        (by decide))
      (only_renderMembers (next :: rest))

end

end Json

end CharTally
