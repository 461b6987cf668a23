import CharTally.CommandLine.Limit
import CharTally.CommandLine.Switch

/-!
What can be wrong with a command line, and how it is told.
-/

namespace CharTally.CommandLine

/-- What a command cannot do without. -/
inductive Need where
  | target
  | ledger
deriving DecidableEq, Repr

/-- The name of what is missing. -/
def Need.label : Need → Text
  | .target => "target"
  | .ledger => Switch.ledger.name

/-- What is wrong with a command line. -/
inductive Problem where
  | ambiguous (given : Text) (candidates : List Switch)
  | valueIgnored (switch : Switch) (given : Text)
  | valueMissing (switch : Switch)
  | badLimit (why : Limit.Refusal)
  | missing (need : Need)
  | unknownCommand (given : Text)
  | unrecognised (given : List Text)
deriving DecidableEq, Repr

/-- The sentence about a problem. -/
def Problem.message : Problem → Text
  | .ambiguous given candidates =>
    "ambiguous option: " ++ given ++ " could match " ++
      Text.joined ", " (candidates.map Switch.name)
  | .valueIgnored switch given =>
    "argument " ++ switch.label ++ ": ignored explicit argument " ++ Text.quoted given
  | .valueMissing switch => "argument " ++ switch.label ++ ": expected one argument"
  | .badLimit why => "argument " ++ Switch.limit.label ++ ": " ++ why.message
  | .missing need => "the following arguments are required: " ++ need.label
  | .unknownCommand given =>
    "argument command: invalid choice: " ++ Text.quoted given ++ " (choose from " ++
      Text.joined ", " (Command.all.map fun command => Text.quoted command.word) ++ ")"
  | .unrecognised given => "unrecognized arguments: " ++ Text.joined " " given

end CharTally.CommandLine
