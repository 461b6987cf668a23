import CharTally.Text.Quoted

/-!
The vocabulary of the command line: three commands, and the switches that each
of them knows.

A switch may be shortened to any beginning of its name that only one switch of
the command has. No name is the beginning of another, so a name in full always
means its own switch.
-/

namespace CharTally.CommandLine

/-- The commands. -/
inductive Command where
  | demo
  | count
  | history
deriving DecidableEq, Repr

namespace Command

/-- The word for a command. -/
def word : Command → Text
  | .demo => "demo"
  | .count => "count"
  | .history => "history"

/-- Every command, in the order in which they are listed. -/
def all : List Command := [.demo, .count, .history]

/-- The command with a word. -/
def ofWord? (t : Text) : Option Command := all.find? fun command => command.word = t

end Command

/-- The switches. All of them but `help` have a value. -/
inductive Switch where
  | help
  | profile
  | config
  | scanLog
  | ledger
  | limit
deriving DecidableEq, Repr

namespace Switch

/-- The name of a switch in full. -/
def name : Switch → Text
  | .help => "--help"
  | .profile => "--profile"
  | .config => "--config"
  | .scanLog => "--scan-log"
  | .ledger => "--sqlite-db"
  | .limit => "--limit"

/-- A switch with all its names, as messages refer to it. -/
def label : Switch → Text
  | .help => "-h/--help"
  | other => other.name

/-- The switches that a shortened name may mean. -/
def matching (switches : List Switch) (typed : Text) : List Switch :=
  switches.filter fun switch => typed.isPrefixOf switch.name

end Switch

/-- The switches of a command. -/
def Command.switches : Command → List Switch
  | .demo | .count => [.help, .profile, .config, .scanLog, .ledger]
  | .history => [.help, .ledger, .limit]

/-- The only switch in front of a command. -/
def leadingSwitches : List Switch := [.help]

end CharTally.CommandLine
