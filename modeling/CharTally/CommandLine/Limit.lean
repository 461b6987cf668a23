import CharTally.Text.Numeral

/-!
Limits: how many scans a listing shows, at least one.
-/

namespace CharTally.CommandLine.Limit

/-- Why a text is not a limit. -/
inductive Refusal where
  | notInteger (given : Text)
  | belowOne (given : Int)
deriving DecidableEq, Repr

/-- The sentence about a refused limit. -/
def Refusal.message : Refusal → Text
  | .notInteger given => "expected an integer, got '" ++ given ++ "'"
  | .belowOne given => "must be at least 1, got " ++ Numeral.ofInt given

/-- The limit when none is given. -/
def usual : Int := 20

/-- Reads a limit. -/
def parse (t : Text) : Except Refusal Int :=
  match Numeral.readInteger? t with
  | none => .error (.notInteger t)
  | some limit => if limit < 1 then .error (.belowOne limit) else .ok limit

end CharTally.CommandLine.Limit
