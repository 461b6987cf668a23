import CharTally.CommandLine.Token
import CharTally.Settings.Load

/-!
Requests: what a command line asks for.

The arguments are read twice. In front of the command only the help switch has a
meaning; everything from the first word on belongs to the command, which sorts
its arguments into tokens and reads them from left to right. The last value of a
switch counts. Words that no operand takes, and arguments that nobody knows, are
collected; they are told as a problem when nothing else is wrong.
-/

namespace CharTally.CommandLine

/-- What a command line asks for instead of a run: help, or a word about what is wrong with it. The
page is that of a command, or the one about all commands. -/
inductive Halt where
  | help (page : Option Command)
  | refused (page : Option Command) (problem : Problem)
deriving DecidableEq, Repr

/-! ## Switches with values -/

/-- The values of the switches that a command has been given. -/
structure Options where
  profile : Text := Settings.usualProfile
  config : Option Text := none
  scanLog : Option Text := none
  ledger : Option Text := none
  limit : Int := Limit.usual
deriving DecidableEq, Repr

/-- Gives a switch a value. -/
def Options.give (options : Options) (which : Switch) (value : Text) : Except Problem Options :=
  match which with
  | .help => .error (.valueIgnored .help value)
  | .profile => .ok { options with profile := value }
  | .config => .ok { options with config := some value }
  | .scanLog => .ok { options with scanLog := some value }
  | .ledger => .ok { options with ledger := some value }
  | .limit =>
    match Limit.parse value with
    | .ok limit => .ok { options with limit }
    | .error why => .error (.badLimit why)

/-! ## Operands -/

/-- How far the operands have been read: a target, and a text that has to follow it directly. Once
they are closed they take no more words. -/
inductive Operands where
  | awaited
  | target (literal : Text)
  | both (literal text : Text)
  | closed (taken : Option (Text × Option Text))
deriving DecidableEq, Repr

namespace Operands

/-- What has been taken. -/
def taken : Operands → Option (Text × Option Text)
  | .awaited => none
  | .target literal => some (literal, none)
  | .both literal text => some (literal, some text)
  | .closed taken => taken

/-- A switch closes operands that have been begun. -/
def interrupt : Operands → Operands
  | .awaited => .awaited
  | other => .closed other.taken

/-- The operands after a word, and the word if they do not take it. A text that looks like a
separator is taken for none. -/
def word (w : Text) : Operands → Operands × List Text
  | .awaited => (.target w, [])
  | .target literal =>
    if w = Token.separatorMark then (.closed (some (literal, none)), []) else (.both literal w, [])
  | other => (.closed other.taken, [w])

/-- What is left of a separator: nothing while operands can still be read. -/
def separator : Operands → List Text
  | .closed _ => [Token.separatorMark]
  | _ => []

end Operands

/-- The operands of a command before anything is read; only `count` has some. -/
def Command.operands : Command → Operands
  | .count => .awaited
  | .demo | .history => .closed none

/-! ## The arguments of a command -/

/-- What has been read of the arguments of a command. -/
structure Reading where
  options : Options := {}
  operands : Operands
  extras : List Text := []
deriving DecidableEq, Repr

namespace Reading

/-- Gives a switch a value. -/
def give (which : Switch) (value : Text) (reading : Reading) : Except Problem Reading := do
  let options ← reading.options.give which value
  return { reading with options, operands := reading.operands.interrupt }

/-- Takes a word. -/
def word (w : Text) (reading : Reading) : Reading :=
  let (operands, left) := reading.operands.word w
  { reading with operands, extras := reading.extras ++ left }

/-- Takes a separator. -/
def separator (reading : Reading) : Reading :=
  { reading with extras := reading.extras ++ reading.operands.separator }

/-- Sets an argument aside that nobody knows. -/
def unknown (t : Text) (reading : Reading) : Reading :=
  { reading with operands := reading.operands.interrupt, extras := reading.extras ++ [t] }

/-- Reads tokens from left to right. A switch takes its value from behind an equals sign or, if
there is none, from the word that follows it. -/
def feed (command : Command) (reading : Reading) : List Token → Except Halt Reading
  | [] => .ok reading
  | .switch .help none :: _ => .error (.help command)
  | .switch which (some value) :: rest =>
    match reading.give which value with
    | .ok reading => reading.feed command rest
    | .error problem => .error (.refused command problem)
  | .switch which none :: .word value :: rest =>
    match reading.give which value with
    | .ok reading => reading.feed command rest
    | .error problem => .error (.refused command problem)
  | .switch which none :: _ => .error (.refused command (.valueMissing which))
  | .word w :: rest => (reading.word w).feed command rest
  | .separator :: rest => reading.separator.feed command rest
  | .unknown t :: rest => (reading.unknown t).feed command rest

end Reading

/-- Reads the arguments of a command. -/
def Command.read (command : Command) (arguments : List Text) : Except Halt Reading :=
  match Token.ofArguments command.switches arguments with
  | .error problem => .error (.refused command problem)
  | .ok tokens => Reading.feed command { operands := command.operands } tokens

/-! ## Requests -/

/-- What a command line asks for. -/
inductive Request where
  | demo (options : Options)
  | count (literal : Text) (text : Option Text) (options : Options)
  | history (ledger : Text) (limit : Int)
deriving DecidableEq, Repr

/-- The request of a command whose arguments have been read. -/
def Command.request (command : Command) (reading : Reading) : Except Halt Request :=
  match command with
  | .demo => .ok (.demo reading.options)
  | .count =>
    match reading.operands.taken with
    | some (literal, text) => .ok (.count literal text reading.options)
    | none => .error (.refused command (.missing .target))
  | .history =>
    match reading.options.ledger with
    | some ledger => .ok (.history ledger reading.options.limit)
    | none => .error (.refused command (.missing .ledger))

/-- The request of a command with its arguments. Behind it, what was set aside in front of the
command and among its arguments has to be nothing. -/
def Command.parse (command : Command) (extras arguments : List Text) : Except Halt Request := do
  let reading ← command.read arguments
  let request ← command.request reading
  match extras ++ reading.extras with
  | [] => return request
  | extras => throw (.refused none (.unrecognised extras))

namespace Request

/-- The request of a word in the place of a command. -/
def ofWord (extras : List Text) (w : Text) (arguments : List Text) : Except Halt Request :=
  match Command.ofWord? w with
  | some command => command.parse extras arguments
  | none => .error (.refused none (.unknownCommand w))

/-- Looks for the command; `extras` is what has been set aside in front of it. A separator in its
place is taken for a word if anything follows it. -/
def findCommand (extras : List Text) : List Text → Except Halt Request
  | [] => .error (.refused none (.unrecognised extras))
  | t :: rest =>
    if t = Token.separatorMark then
      if rest.isEmpty then .error (.refused none (.unrecognised (extras ++ [t])))
      else ofWord extras t rest
    else
      match Token.ofArgument leadingSwitches t with
      | .error problem => .error (.refused none problem)
      | .ok (.switch _ none) => .error (.help none)
      | .ok (.switch which (some value)) => .error (.refused none (.valueIgnored which value))
      | .ok (.word w) => ofWord extras w rest
      | .ok _ => findCommand (extras ++ [t]) rest

/-- What a command line asks for. An empty one asks for help. -/
def parse (arguments : List Text) : Except Halt Request :=
  match arguments with
  | [] => .error (.help none)
  | _ => findCommand [] arguments

end Request

end CharTally.CommandLine
