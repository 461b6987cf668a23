import CharTally.Tape
import Mathlib.Data.List.Count

/-!
# What a scan counts

`tally_eq` says what the scan of cells comes to: how often the target occurs in
front of the first stop. On a tape this is how often a character occurs in the
text (`Tape.count_singleton`), and the tape of a text carries the text up to its
first terminator (`Tape.text_of_ofText?`).
-/

namespace CharTally

variable {α : Type} [DecidableEq α] [BEq α] [LawfulBEq α]

/-- The scan adds the occurrences in front of the first stop to what it counted before. -/
theorem tallyFrom_eq (stop target : α) (count : Nat) (cells : List α) :
    tallyFrom stop target count cells = count + (cells.takeWhile (· ≠ stop)).count target := by
  induction cells generalizing count with
  | nil => rfl
  | cons cell rest ih =>
    rw [tallyFrom]
    by_cases isStop : cell = stop
    · rw [if_pos isStop, List.takeWhile_cons_of_neg (by simp [isStop])]
      rfl
    · rw [if_neg isStop, List.takeWhile_cons_of_pos (by simp [isStop])]
      by_cases isTarget : cell = target
      · rw [if_pos isTarget, ih, isTarget, List.count_cons_self]
        omega
      · rw [if_neg isTarget, ih, List.count_cons_of_ne isTarget]

theorem tally_eq (stop target : α) (cells : List α) :
    tally stop target cells = (cells.takeWhile (· ≠ stop)).count target := by
  rw [tally, tallyFrom_eq, Nat.zero_add]

namespace Tape

theorem singleton_injective : Function.Injective fun c : CodePoint => [c] :=
  fun _ _ same => (List.cons.inj same).1

/-- The cells in front of the first terminator hold the characters of the text. -/
theorem takeWhile_cells (tape : Tape) :
    tape.cells.takeWhile (· ≠ [terminator]) = tape.text.map fun c => [c] := by
  rw [cells, text, List.takeWhile_map]
  simp [Function.comp_def]

/-- A target is counted in the text alone, whatever stands behind it. -/
theorem count_eq (tape : Tape) (target : Text) :
    tape.count target = (tape.text.map fun c => [c]).count target := by
  rw [count, tally_eq, takeWhile_cells]

/-- A character is counted as often as it occurs in the text. -/
theorem count_singleton (tape : Tape) (target : CodePoint) :
    tape.count [target] = tape.text.count target := by
  rw [count_eq]
  exact List.count_map_of_injective tape.text (fun c => [c]) singleton_injective target

/-- A terminator at the end of a buffer changes nothing. -/
theorem text_concat (t : Text) : text ⟨t ++ [terminator]⟩ = t.takeWhile (· ≠ terminator) := by
  rw [text]
  dsimp only
  induction t with
  | nil => rfl
  | cons c rest ih => rw [List.cons_append, List.takeWhile_cons, List.takeWhile_cons, ih]

/-- The tape of an ASCII text. -/
theorem ofText?_of_isAscii {t : Text} (ascii : t.isAscii = true) :
    ofText? t = some ⟨t ++ [terminator]⟩ := by
  rw [ofText?, if_pos ascii]

/-- The text of a tape goes up to the first terminator of the text it was made of. -/
theorem text_of_ofText? {t : Text} {tape : Tape} (made : ofText? t = some tape) :
    tape.text = t.takeWhile (· ≠ terminator) := by
  rw [ofText?] at made
  split at made
  case isFalse => cases made
  case isTrue =>
    cases made
    exact text_concat t

/-- What a scan sees of an ASCII text is whole. -/
theorem isWhole_of_ofText? {t : Text} {tape : Tape} (made : ofText? t = some tape) :
    tape.text.isWhole = true := by
  have ascii : t.isAscii = true := by
    rw [ofText?] at made
    split at made
    case isTrue ascii => exact ascii
    case isFalse => cases made
  rw [text_of_ofText? made]
  have whole := Text.isWhole_of_isAscii ascii
  rw [Text.isWhole, List.all_eq_true] at whole ⊢
  exact fun c member => whole c ((List.takeWhile_sublist _).subset member)

end Tape

end CharTally
