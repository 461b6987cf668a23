import CharTally.Text

/-!
The tape: a read-only row of cells, one character each, that a scan reads from
the left until it meets the terminator.

`tally` is the scan itself, over cells of any kind. It looks for the terminator
before it compares, so the terminator is never counted, and it stops there, so
nothing behind it is seen. `Tape.text` says the same from the outside: the
characters in front of the first terminator.
-/

namespace CharTally

/-! ## The scan -/

/-- Adds to `count` the cells equal to `target` in front of the first `stop`. -/
def tallyFrom {α : Type} [DecidableEq α] (stop target : α) (count : Nat) : List α → Nat
  | [] => count
  | cell :: rest =>
    if cell = stop then count
    else if cell = target then tallyFrom stop target (count + 1) rest
    else tallyFrom stop target count rest

/-- How many cells in front of the first `stop` equal `target`. -/
def tally {α : Type} [DecidableEq α] (stop target : α) (cells : List α) : Nat :=
  tallyFrom stop target 0 cells

/-! ## Tapes -/

/-- The character that ends a tape. -/
def terminator : CodePoint := '\x00'

/-- A tape keeps its buffer as it was built, with whatever stands behind the terminator. -/
structure Tape where
  buffer : Text
deriving DecidableEq, Repr

namespace Tape

/-- The tape of an ASCII text: its characters and a terminator. -/
def ofText? (t : Text) : Option Tape := if t.isAscii then some ⟨t ++ [terminator]⟩ else none

/-- The characters in front of the first terminator. -/
def text (tape : Tape) : Text := tape.buffer.takeWhile (· ≠ terminator)

/-- How many characters stand in front of the first terminator. -/
def length (tape : Tape) : Nat := tape.text.length

/-- The cells, each a text of one character. -/
def cells (tape : Tape) : List Text := tape.buffer.map fun c => [c]

/-- How often a target occurs on the tape. A target that is not one character occurs nowhere. -/
def count (tape : Tape) (target : Text) : Nat := tally [terminator] target tape.cells

end Tape

end CharTally
