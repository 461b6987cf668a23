import CharTally.CommandLine.Request

/-!
Pages: the usage of the program and of its commands, and the help about them, on
lines of at most eighty characters.
-/

namespace CharTally.CommandLine.Page

/-- Lines, each with a line feed behind it. -/
def ofLines (lines : List String) : Text := lines.flatMap fun line : String => (line : Text) ++ "\n"

/-- The name under which a page speaks: that of the program, with a command behind it. -/
def speaker : Option Command → Text
  | none => "charcount"
  | some command => "charcount " ++ command.word

/-- How the program, or a command, is used. -/
def usage : Option Command → Text
  | none => ofLines ["usage: charcount [-h] \x7bdemo,count,history\x7d ..."]
  | some .demo => ofLines
    ["usage: charcount demo [-h] [--profile PROFILE] [--config CONFIG]",
     "                      [--scan-log SCAN_LOG] [--sqlite-db SQLITE_DB]"]
  | some .count => ofLines
    ["usage: charcount count [-h] [--profile PROFILE] [--config CONFIG]",
     "                       [--scan-log SCAN_LOG] [--sqlite-db SQLITE_DB]",
     "                       target [text]"]
  | some .history => ofLines
    ["usage: charcount history [-h] --sqlite-db SQLITE_DB [--limit LIMIT]"]

/-- What the arguments mean. -/
def explanation : Option Command → Text
  | none => ofLines
    ["Count occurrences of a character in a terminator-ended string",
     "",
     "positional arguments:",
     "  \x7bdemo,count,history\x7d",
     "    demo                Run the fixed target/string literals of a profile",
     "    count               Count one character in a string",
     "    history             List scans recorded in a SQLite file",
     "",
     "options:",
     "  -h, --help            show this help message and exit"]
  | some .demo => ofLines
    ["options:",
     "  -h, --help            show this help message and exit",
     "  --profile PROFILE     Profile from the bundled defaults.json (e.g., classic,",
     "                        letter_l)",
     "  --config CONFIG       Override path to the configuration JSON",
     "  --scan-log SCAN_LOG   Path to JSONL file for structured scan events",
     "  --sqlite-db SQLITE_DB",
     "                        Optional SQLite file to record the scan + audit log"]
  | some .count => ofLines
    ["positional arguments:",
     "  target                Character to count: 'l', hex literal 'x6C' or decimal",
     "                        '#108'",
     "  text                  String to scan (defaults to the profile string)",
     "",
     "options:",
     "  -h, --help            show this help message and exit",
     "  --profile PROFILE     Profile supplying messages and the default string",
     "  --config CONFIG       Override path to the configuration JSON",
     "  --scan-log SCAN_LOG   Path to JSONL file for structured scan events",
     "  --sqlite-db SQLITE_DB",
     "                        Optional SQLite file to record the scan + audit log"]
  | some .history => ofLines
    ["options:",
     "  -h, --help            show this help message and exit",
     "  --sqlite-db SQLITE_DB",
     "                        SQLite file written by --sqlite-db",
     "  --limit LIMIT         Maximum number of scans to list"]

/-- The help about the program, or about a command. -/
def help (about : Option Command) : Text := usage about ++ "\n" ++ explanation about

/-- What is printed about a command line that is refused. -/
def refusal (about : Option Command) (problem : Problem) : Text :=
  usage about ++ speaker about ++ ": error: " ++ problem.message ++ "\n"

end CharTally.CommandLine.Page
