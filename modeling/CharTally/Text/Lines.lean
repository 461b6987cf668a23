import CharTally.Text

/-!
Line ends. A carriage return, alone or before a line feed, ends a line just as
a line feed does; `unifyNewlines` writes all three as a line feed, and `lines`
cuts a text after each.
-/

namespace CharTally.Text

/-- Turns every line end into a line feed, with the part already done in reverse order. -/
def unifyFrom (done : Text) : Text → Text
  | [] => done.reverse
  | '\r' :: '\n' :: rest => unifyFrom ('\n' :: done) rest
  | '\r' :: rest => unifyFrom ('\n' :: done) rest
  | c :: rest => unifyFrom (c :: done) rest

/-- The text with every line end written as a line feed. -/
def unifyNewlines (t : Text) : Text := unifyFrom [] t

/-- Cuts a text after each line feed; `line` is the current line in reverse order. The second
component is what follows the last line feed. -/
def cutLines (line : Text) : Text → List Text × Text
  | [] => ([], line.reverse)
  | c :: rest =>
    if c = '\n' then
      let (more, last) := cutLines [] rest
      (line.reverse :: more, last)
    else cutLines (c :: line) rest

/-- The lines that are ended by a line feed, without it. -/
def endedLines (t : Text) : List Text := (cutLines [] t).1

/-- All lines of a text; the last one need not be ended. -/
def lines (t : Text) : List Text :=
  let (ended, last) := cutLines [] t
  if last.isEmpty then ended else ended ++ [last]

end CharTally.Text
