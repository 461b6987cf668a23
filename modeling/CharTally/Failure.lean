import CharTally.Files
import CharTally.Json
import CharTally.Json.Fault
import CharTally.Settings.Problem
import CharTally.Text.Utf8

/-!
How a job fails.

A `Fault` is foreseen: it has a code, a sentence, and sometimes a context, and the
command line and the window tell it to the user. A `Crash` is not: it ends the
program. Both are causes, and the words are made from them here.
-/

namespace CharTally

/-! ## Faults -/

/-- The classes of foreseen failures. -/
inductive ErrorCode where
  | config
  | input
  | io
deriving DecidableEq, Repr

namespace ErrorCode

/-- The spelling of a code. -/
def text : ErrorCode → Text
  | .config => "CONFIG_ERROR"
  | .input => "INPUT_ERROR"
  | .io => "IO_ERROR"

/-- The code with a spelling. -/
def ofText? (t : Text) : Option ErrorCode :=
  [ErrorCode.config, .input, .io].find? fun code => code.text = t

/-- A sentence with its code in front; without a sentence, the code alone. -/
def tag (code : ErrorCode) (sentence : Text) : Text :=
  if sentence.isEmpty then code.text else "[" ++ code.text ++ "] " ++ sentence

end ErrorCode

/-- What is done with a ledger file. -/
inductive LedgerAction where
  | setUp
  | recordScan
  | readScans
  | readAudit
deriving DecidableEq, Repr

/-- The words for an action. -/
def LedgerAction.words : LedgerAction → Text
  | .setUp => "initialize"
  | .recordScan => "record scan"
  | .readScans => "read scans"
  | .readAudit => "read audit log"

/-- Why it cannot be done. -/
inductive LedgerReason where
  | folder (path : FilePath) (what : Obstacle)
  | cannotOpen
  | diskError
  | notALedger
  | lockingProtocol
  | noTable (name : TableName)
deriving DecidableEq, Repr

/-- The words for a reason. -/
def LedgerReason.words : LedgerReason → Text
  | .folder path what => what.message path
  | .cannotOpen => "unable to open database file"
  | .diskError => "disk I/O error"
  | .notALedger => "file is not a database"
  | .lockingProtocol => "locking protocol"
  | .noTable name => "no such table: " ++ name.text

/-- A foreseen failure. -/
inductive Fault where
  | settings (source : Settings.Source) (problem : Settings.Problem)
  | target (literal : Text) (why : Target.Refusal)
  | notAscii (text : Text)
  | logFolder (path : FilePath)
  | logFile (path : FilePath)
  | ledger (path : FilePath) (action : LedgerAction) (why : LedgerReason)
deriving DecidableEq, Repr

namespace Fault

/-- The class of a fault. -/
def code : Fault → ErrorCode
  | .settings .. => .config
  | .target .. | .notAscii _ => .input
  | .logFolder _ | .logFile _ | .ledger .. => .io

/-- The sentence of a fault. -/
def sentence : Fault → Text
  | .settings source problem => problem.message source
  | .target literal why => why.message literal
  | .notAscii _ => "Only ASCII text can be scanned"
  | .logFolder path => "Cannot create scan log directory for '" ++ path.toText ++ "'"
  | .logFile path => "Cannot append scan event to '" ++ path.toText ++ "'"
  | .ledger path action why =>
    "Cannot " ++ action.words ++ " in SQLite file '" ++ path.toText ++ "': " ++ why.words

/-- What a fault is about: a name and a text, or nothing. -/
def context : Fault → Option (Text × Text)
  | .settings .. | .target .. => none
  | .notAscii text => some ("text", text)
  | .logFolder path | .logFile path | .ledger path .. => some ("path", path.toText)

/-- The sentence of a fault with its code in front. -/
def message (fault : Fault) : Text := fault.code.tag fault.sentence

/-- The line that tells a fault on the error stream. -/
def notice (fault : Fault) : Text := "error: " ++ fault.message ++ "\n"

/-- The status with which a program ends after a fault. -/
def status : Nat := 2

end Fault

/-! ## Crashes -/

/-- What an instant cannot be shown as a date for. -/
inductive StampFault where
  | outOfRange
  | tooLarge
  | yearOutOfRange (year : Int)
deriving DecidableEq, Repr

/-- An unforeseen failure. -/
inductive Crash where
  | notOneCharacter (length : Nat)
  | integerTooLong
  | numeralTooLong (digits : Nat)
  | integerTooWide
  | infiniteVersion
  | notAnObject (kind : Json.Kind)
  | notAMapping (kind : Json.Kind)
  | noSuchProfile (name : Option Text)
  | undecodable (fault : Utf8.Fault)
  | unencodable (fault : Utf8.Unencodable)
  | malformedJson (document : Text) (problem : Json.Problem) (offset : Nat)
  | tooDeep (bracket : Json.Bracket)
  | file (path : FilePath) (what : Obstacle)
  | nulInPath
  | foldersTooDeep
  | stamp (fault : StampFault)
  | stream (words : Text)
deriving DecidableEq, Repr

/-- The words for a refused byte sequence. -/
def utf8Reason : Utf8.Reason → Text
  | .invalidStart => "invalid start byte"
  | .invalidContinuation => "invalid continuation byte"
  | .unexpectedEnd => "unexpected end of data"

/-- The sentence about a refused byte sequence. -/
def utf8Message (fault : Utf8.Fault) : Text :=
  let place : Text :=
    if fault.width = 1 then
      "byte 0x" ++ Numeral.padded 16 2 fault.first.toNat ++ " in position " ++
        Numeral.decimal fault.start
    else
      "bytes in position " ++ Numeral.decimal fault.start ++ "-" ++
        Numeral.decimal (fault.start + fault.width - 1)
  "'utf-8' codec can't decode " ++ place ++ ": " ++ utf8Reason fault.reason

/-- The sentence about a text that has no bytes. -/
def unencodableMessage (fault : Utf8.Unencodable) : Text :=
  let place : Text :=
    if fault.width = 1 then
      "character '\\u" ++ Numeral.padded 16 4 fault.first.toNat ++ "' in position " ++
        Numeral.decimal fault.start
    else
      "characters in position " ++ Numeral.decimal fault.start ++ "-" ++
        Numeral.decimal (fault.start + fault.width - 1)
  "'utf-8' codec can't encode " ++ place ++ ": surrogates not allowed"

namespace Crash

/-- The sentence of a crash. -/
def message : Crash → Text
  | .notOneCharacter length =>
    "ord() expected a character, but string of length " ++ Numeral.decimal length ++ " found"
  | .integerTooLong =>
    "Exceeds the limit (4300 digits) for integer string conversion; " ++
      "use sys.set_int_max_str_digits() to increase the limit"
  | .numeralTooLong digits =>
    "Exceeds the limit (4300 digits) for integer string conversion: value has " ++
      Numeral.decimal digits ++ " digits; use sys.set_int_max_str_digits() to increase the limit"
  | .integerTooWide => "Python int too large to convert to SQLite INTEGER"
  | .infiniteVersion => "cannot convert float infinity to integer"
  | .notAnObject kind => "'" ++ kind.name ++ "' object has no attribute 'get'"
  | .notAMapping kind => "'" ++ kind.name ++ "' object is not a mapping"
  | .noSuchProfile (some name) => Text.quoted name
  | .noSuchProfile none => "None"
  | .undecodable fault => utf8Message fault
  | .unencodable fault => unencodableMessage fault
  | .malformedJson document problem offset => problem.message document offset
  | .tooDeep .array =>
    "maximum recursion depth exceeded while decoding a JSON array from a unicode string"
  | .tooDeep .object =>
    "maximum recursion depth exceeded while decoding a JSON object from a unicode string"
  | .file path what => what.message path
  | .nulInPath => "embedded null byte"
  | .foldersTooDeep => "maximum recursion depth exceeded"
  | .stamp .outOfRange => "timestamp out of range for platform time_t"
  | .stamp .tooLarge => "[Errno 75] Value too large for defined data type"
  | .stamp (.yearOutOfRange year) => "year " ++ Numeral.ofInt year ++ " is out of range"
  | .stream words => words

/-- The crash of work that cannot begin. -/
def ofUnworkable : Unworkable → Crash
  | .flaw (.unencodable fault) => .unencodable fault
  | .flaw .nul => .nulInPath
  | .tooDeep => .foldersTooDeep

end Crash

/-- A failure, foreseen or not. -/
inductive Failure where
  | reported (fault : Fault)
  | crash (crash : Crash)
deriving DecidableEq, Repr

namespace Failure

/-- The failure of a job that could not use a file. -/
def ofFile : FileFault → Failure
  | .obstacle path what => .crash (.file path what)
  | .unworkable why => .crash (.ofUnworkable why)

/-- The failure of a job that could not read a target literal. -/
def ofTarget (literal : Text) : Target.Trouble → Failure
  | .refused why => .reported (.target literal why)
  | .codeTooLong => .crash .integerTooLong

end Failure

end CharTally
