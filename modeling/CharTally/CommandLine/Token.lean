import CharTally.CommandLine.Problem
import CharTally.Text.DecimalDigit

/-!
Tokens: the arguments of a command line, told apart by their looks.

An argument that begins with a hyphen may be a switch, in full or shortened, with
a value behind an equals sign or without; or it is nothing that the command
knows. A lone hyphen, a negative number, and anything with a space in it that is
not a switch are words like those that begin otherwise. Two hyphens alone
separate what has looks from what has none: everything behind them is a word.
-/

namespace CharTally.CommandLine

/-- What an argument is. -/
inductive Token where
  | word (given : Text)
  | separator
  | switch (which : Switch) (value : Option Text)
  | unknown (given : Text)
deriving DecidableEq, Repr

namespace Token

/-- The separator as it is written. -/
def separatorMark : Text := "--"

/-- A decimal digit of any script. -/
def isDigit (c : CodePoint) : Bool := (Text.decimalDigit? c).isSome

/-- One digit or more. -/
def isNumeral (t : Text) : Bool := !t.isEmpty && t.all isDigit

/-- A negative number: a hyphen, digits, and perhaps a point with digits behind it. A line feed may
end it. -/
def isNegativeNumber (t : Text) : Bool :=
  match (if t.getLast? = some '\n' then t.dropLast else t) with
  | '-' :: body =>
    isNumeral body ||
      match body.dropWhile isDigit with
      | '.' :: fraction => isNumeral fraction
      | _ => false
  | _ => false

/-- An argument that begins with a hyphen and is no switch. -/
def ofOther (t : Text) : Token :=
  if isNegativeNumber t || t.contains ' ' then .word t else .unknown t

/-- What stands behind the first equals sign, if there is one. -/
def valueIn (t : Text) : Option Text :=
  match t.dropWhile (· ≠ scalar '=') with
  | [] => none
  | _ :: value => some value

/-- The value in the letters behind a hyphen and an `h`. The letter may be repeated; behind it, an
equals sign or a hyphen begins a value, and any other letter ends the help switch. -/
def valueInCluster : Text → Option Text
  | 'h' :: rest => valueInCluster rest
  | '=' :: value => some value
  | '-' :: rest => some ('-' :: rest)
  | _ => none

/-- The token of a single argument that is not a separator. -/
def ofArgument (switches : List Switch) (t : Text) : Except Problem Token :=
  match t with
  | '-' :: '-' :: _ =>
    match Switch.matching switches (t.takeWhile (· ≠ scalar '=')) with
    | [] => .ok (ofOther t)
    | [which] => .ok (.switch which (valueIn t))
    | candidates => .error (.ambiguous t candidates)
  | '-' :: 'h' :: rest => .ok (.switch .help (valueInCluster rest))
  | '-' :: _ :: _ => .ok (ofOther t)
  | _ => .ok (.word t)

/-- The tokens of arguments. -/
def ofArguments (switches : List Switch) : List Text → Except Problem (List Token)
  | [] => .ok []
  | t :: rest =>
    if t = separatorMark then .ok (.separator :: rest.map .word)
    else do
      let token ← ofArgument switches t
      return token :: (← ofArguments switches rest)

end Token

end CharTally.CommandLine
