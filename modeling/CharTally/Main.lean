import CharTally.CommandLine
import CharTally.Ledger.Image
import Std.Time.DateTime.Timestamp

/-!
The program: the command line over the disk, the clock and the standard streams.

Before a run, everything that its paths lead through is read from the disk; after
it, what is new is written back, and what is gone is taken away. The standard output is
encoded in UTF-8. All else is decided by `CommandLine.run`.
-/

namespace CharTally.Disk

/-- The characters that show a code point. Half a surrogate pair, which is none, is shown by its
number. -/
def shown : CodePoint → List Char
  | .scalar c => [c]
  | .half offset => "\\u".toList ++ Nat.toDigits 16 (CodePoint.firstHalf + offset)

/-- The string that shows a text. -/
def stringOf (t : Text) : String := String.ofList (t.flatMap shown)

/-- The name of a place on the disk. -/
def name (place : Place) : String := "/" ++ stringOf (Text.joined "/" place)

/-- The place of a name on the disk that begins at the root. -/
def placeOf (t : Text) : Place := (FilePath.ofText t).names

/-- The places that matter to a path: those that it leads through, and those beside its own. -/
def placesOn (files : Files) (path : FilePath) : List Place :=
  let own := files.spelled path
  [Store.journalOf own, Store.pagesOf own, Store.indexOf own] ++
    Store.passed (files.start path) path.names

/-- What bytes on the disk are. -/
def entryOf (bytes : List UInt8) : Entry :=
  match Ledger.Image.read? bytes with
  | some ledger => .ledger ledger
  | none => .document bytes

/-- Whether a folder stands at a place. Only inside a folder a dot leads anywhere. -/
def isFolder (place : Place) : IO Bool := do
  try
    discard (IO.FS.realPath (name place ++ "/."))
    return true
  catch _ => return false

/-- Reads what stands at a place. -/
def read (place : Place) : IO (Option Entry) := do
  if ← isFolder place then return some .folder
  try
    return some (entryOf (← IO.FS.readBinFile (name place)).toList)
  catch _ => return none

/-- Reads what stands at the places of paths. -/
def load (paths : List FilePath) : IO Files := do
  let here : Text := (← IO.currentDir).toString
  let mut files : Files := { here := placeOf here }
  for place in paths.flatMap (placesOn files) do
    unless files.isStart place do
      match ← read place with
      | some entry => files := files.set place entry
      | none => pure ()
  return files

/-- Takes away what is gone, and writes what is new. -/
def save (before after : Files) : IO Unit := do
  for (place, _) in before.entries do
    if after.get? place = none then IO.FS.removeFile (name place)
  for (place, entry) in after.entries.reverse do
    unless before.get? place = some entry do
      match entry with
      | .folder => IO.FS.createDirAll (name place)
      | .document bytes => IO.FS.writeBinFile (name place) ⟨bytes.toArray⟩
      | .ledger ledger => IO.FS.writeBinFile (name place) ⟨(Ledger.Image.write ledger).toArray⟩

/-- Reads the clock. -/
def now : IO Instant := do
  let nanoseconds := (← Std.Time.Timestamp.now).toNanosecondsSinceUnixEpoch.val
  match Instant.of? (.ofRatio (nanoseconds < 0) nanoseconds.natAbs 1000000000) with
  | some instant => return instant
  | none => throw (IO.userError "no time")

end CharTally.Disk

open CharTally

/-- Runs the command line. A crash ends it with the status 1. -/
def main (arguments : List String) : IO UInt32 := do
  let words : List Text := arguments.map fun argument : String => argument
  let before ← Disk.load (CommandLine.paths words)
  let (outcome, after) :=
    CommandLine.run words .bundled { files := before, now := ← Disk.now, stream := .utf8 }
  Disk.save before after.files
  IO.print (Disk.stringOf outcome.output)
  IO.eprint (Disk.stringOf outcome.errors)
  match outcome.ending with
  | .ok status => return status.toUInt32
  | .error crash => do
    IO.eprintln (Disk.stringOf crash.message)
    return 1
