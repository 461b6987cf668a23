import CharTally.Proofs.Tape
import Mathlib.Algebra.BigOperators.Group.Finset.Piecewise
import Mathlib.Data.List.TakeWhile

/-!
# The places where a scan counts

A scan looks at one cell after another. From the outside, it counts places: those in front of the
first stop that hold the target (`tally_eq_card_places`). So the stop itself is never counted,
and a scan of two rows of cells is a scan of the first one, with a scan of the second added if
nothing stops it before (`tally_append_of_not_mem`). On a tape, the characters of the text share
its length out among themselves (`sum_count`).
-/

namespace CharTally

section Cells

variable {α : Type} [DecidableEq α] {stop target cell : α} {cells : List α}

/-- The places in front of the first stop that hold the target. Where there is no stop, all places
are in front of it. -/
def places (stop target : α) (cells : List α) : Finset Nat :=
  (Finset.range (cells.idxOf stop)).filter fun place => cells[place]? = some target

theorem places_cons_self (target : α) (rest : List α) : places stop target (stop :: rest) = ∅ := by
  simp [places]

/-- In front of a row of places comes the one of a cell that does not stop the scan. -/
theorem card_places_cons (goesOn : cell ≠ stop) (target : α) (rest : List α) :
    (places stop target (cell :: rest)).card =
      (places stop target rest).card + if cell = target then 1 else 0 := by
  rw [places, List.idxOf_cons_ne rest goesOn, Finset.card_filter, Finset.sum_range_succ', places,
    Finset.card_filter]
  simp

/-- The scan counts the places. -/
theorem tally_eq_card_places (stop target : α) (cells : List α) :
    tally stop target cells = (places stop target cells).card := by
  induction cells with
  | nil => simp [tally, tallyFrom, places]
  | cons cell rest ih =>
    by_cases isStop : cell = stop
    · rw [isStop, places_cons_self]
      simp [tally, tallyFrom]
    · rw [card_places_cons isStop, ← ih, tally_eq, tally_eq,
        List.takeWhile_cons_of_pos (by simp [isStop]), List.count_cons]
      simp

/-- What stops a scan is not counted. -/
theorem tally_stop (stop : α) (cells : List α) : tally stop stop cells = 0 := by
  rw [tally_eq, List.count_eq_zero]
  intro member
  simpa using List.mem_takeWhile_imp member

theorem tally_append_of_mem (stops : stop ∈ cells) (target : α) (more : List α) :
    tally stop target (cells ++ more) = tally stop target cells := by
  have short : (cells.takeWhile (· ≠ stop)).length ≠ cells.length := by
    intro long
    have whole := (List.takeWhile_prefix _).eq_of_length long
    rw [← whole] at stops
    simpa using List.mem_takeWhile_imp stops
  rw [tally_eq, tally_eq, List.takeWhile_append, if_neg short]

theorem tally_append_of_not_mem (goesOn : stop ∉ cells) (target : α) (more : List α) :
    tally stop target (cells ++ more) = tally stop target cells + tally stop target more := by
  have passed : ∀ cell ∈ cells, decide (cell ≠ stop) = true := by
    intro cell member
    simpa using ne_of_mem_of_not_mem member goesOn
  have whole : cells.takeWhile (· ≠ stop) = cells := List.takeWhile_eq_self_iff.mpr passed
  rw [tally_eq, tally_eq, tally_eq, List.takeWhile_append_of_pos passed, whole, List.count_append]

end Cells

namespace Tape

/-- The text goes up to the place of the first terminator, or to the end of the buffer. -/
theorem text_eq_take (tape : Tape) :
    tape.text = tape.buffer.take (tape.buffer.idxOf terminator) := by
  rw [text, List.takeWhile_eq_take_findIdx_not, List.idxOf]
  simp [BEq.beq]

theorem count_le_length (tape : Tape) (target : Text) : tape.count target ≤ tape.length := by
  rw [count_eq, length, ← List.length_map fun c => [c]]
  exact List.count_le_length

/-- The distinct characters of a text are counted as often, all together, as the text is long. -/
theorem sum_count (tape : Tape) : ∑ c ∈ tape.text.toFinset, tape.count [c] = tape.length := by
  simp only [count_singleton]
  exact List.sum_toFinset_count_eq_length tape.text

end Tape

/-- **What a scan counts.** In any row of cells, the places in front of the first terminator that
hold the target; so never the terminator, and in two rows what it counts in both, unless the first
one stops it. On any tape, terminated or not, a character as often as it occurs in the text, which
goes up to the first terminator; a target at most as often as the text is long; and the distinct
characters of the text, all together, exactly as often. -/
theorem scan_counts_places (target : Text) (cells more : List Text) (tape : Tape) :
    tally [terminator] target cells = (places [terminator] target cells).card ∧
      tally [terminator] [terminator] cells = 0 ∧
      tally [terminator] target (cells ++ more) =
        (if [terminator] ∈ cells then tally [terminator] target cells
         else tally [terminator] target cells + tally [terminator] target more) ∧
      tape.text = tape.buffer.take (tape.buffer.idxOf terminator) ∧
      (∀ c : CodePoint, tape.count [c] = tape.text.count c) ∧
      tape.count target ≤ tape.length ∧
      ∑ c ∈ tape.text.toFinset, tape.count [c] = tape.length := by
  refine ⟨tally_eq_card_places _ _ _, tally_stop _ _, ?_, tape.text_eq_take, tape.count_singleton,
    tape.count_le_length target, tape.sum_count⟩
  by_cases stops : [terminator] ∈ cells
  · rw [if_pos stops, tally_append_of_mem stops]
  · rw [if_neg stops, tally_append_of_not_mem stops]

end CharTally
