import CharTally.Json.Reader
import CharTally.Json.Writer
import CharTally.Text.Lines
import CharTally.Workspace

/-!
The scan log: a document to which each finished scan adds one line of JSON.

`emit` writes a line in one piece and only if it can be written whole. `readEvents`
takes a document of any origin: it drops blanks around lines, skips lines that
are blank, and reads each other line as JSON.

A document is decoded in blocks. What a block cannot be decoded for is noticed
only when the lines that ended before it have been read, and its offset counts
from the start of the block, to which an unfinished sequence of the block before
belongs.
-/

namespace CharTally

/-- A scan log, or none. -/
structure ScanLog where
  path : Option FilePath
deriving DecidableEq, Repr

namespace ScanLog

/-! ## Writing -/

/-- The version of the events. -/
def eventVersion : Text := "1.0.0"

/-- The event of a finished scan for one character. -/
def event (target : CodePoint) (report : Report) (profile : Option Text) (now : Instant) : Json :=
  .object
    [("version", .text eventVersion),
     ("profile", profile.elim .null .text),
     ("target", .text report.target),
     ("target_code", .integer target.toNat),
     ("text", .text report.text),
     ("length", .integer report.tape.length),
     ("count", .integer report.count),
     ("timestamp", .real now.value)]

/-- Opens a log: makes the folders above its document. -/
def start (path : Option FilePath) : Job ScanLog := do
  match path with
  | none => return ⟨none⟩
  | some path =>
    Job.onFiles (Files.ensureFolders path.parent) fun fault =>
      match fault with
      | .obstacle _ _ => .reported (.logFolder path)
      | .unworkable why => .crash (.ofUnworkable why)
    return ⟨some path⟩

/-- Adds text to a log's document. -/
def append (path : FilePath) (more : Text) : Job Unit := do
  match (← get).files.append path (Utf8.encode more) with
  | .ok files => modify fun workspace => { workspace with files }
  | .error (.unworkable why) => throw (.crash (.ofUnworkable why))
  | .error (.obstacle _ _) => throw (.reported (.logFile path))

/-- The numbers of a report are short enough to be written. -/
def isWritable (report : Report) : Bool :=
  Numeral.isShort report.count && Numeral.isShort report.tape.length

/-- Adds the event of a finished scan. The document is there afterwards even if a number is too long
to be written. -/
def emit (log : ScanLog) (report : Report) (profile : Option Text) : Job Unit := do
  match log.path with
  | none => pure ()
  | some path =>
    match report.target with
    | [target] =>
      if isWritable report then
        append path ((event target report profile (← get).now).render ++ "\n")
      else
        append path []
        throw (.crash .integerTooLong)
    | other => throw (.crash (.notOneCharacter other.length))

/-! ## Reading -/

/-- The failure of a line that is not JSON. -/
def ofJsonFault (line : Text) : Json.Fault → Failure
  | .malformed problem offset => .crash (.malformedJson line problem offset)
  | .tooDeep bracket => .crash (.tooDeep bracket)
  | .numeralTooLong digits => .crash (.numeralTooLong digits)

/-- Reads lines one after another. -/
def eventsOf : List Text → Except Failure (List Json)
  | [] => .ok []
  | line :: rest =>
    let body := line.strip
    if body.isEmpty then eventsOf rest
    else
      match Json.read body with
      | .error fault => .error (ofJsonFault body fault)
      | .ok event =>
        match eventsOf rest with
        | .error failure => .error failure
        | .ok events => .ok (event :: events)

/-- The number of bytes in a block. -/
def blockSize : Nat := 8192

/-- A fault about the first two bytes of a surrogate. They pass for the beginning of a sequence as
long as nothing follows them. -/
def isSurrogate (bytes : List UInt8) (fault : Utf8.Fault) : Bool :=
  fault.first = 0xED && fault.reason = .invalidContinuation &&
    (bytes[fault.shown]?).any fun second => 0xA0 ≤ second && second ≤ 0xBF

/-- The offset that has to be reached for a fault to be noticed. -/
def noticedAt (bytes : List UInt8) (fault : Utf8.Fault) : Nat :=
  if isSurrogate bytes fault then fault.shown + 1 else fault.shown

/-- How many bytes at the end of a piece belong to an unfinished sequence. -/
def unfinished (bytes : List UInt8) : Nat :=
  match Utf8.decode bytes with
  | .error fault =>
    if bytes.length ≤ noticedAt bytes fault then bytes.length - fault.start else 0
  | .ok _ => 0

/-- Where the data of the block begins in which a fault is noticed. Behind the last byte there is
one more block, which holds only what is unfinished. -/
def blockStart (bytes : List UInt8) (fault : Utf8.Fault) : Nat :=
  let noticed := noticedAt bytes fault
  if bytes.length ≤ noticed then fault.start
  else
    let boundary := noticed / blockSize * blockSize
    boundary - unfinished (bytes.take boundary)

/-- The lines that end in a piece of a document. A carriage return at the end of the piece may yet
be followed by a line feed and ends nothing. -/
def endedLinesOf (bytes : List UInt8) : List Text :=
  match Utf8.decode bytes with
  | .error _ => []
  | .ok text =>
    let settled : Text := if text.getLast? = some '\r' then text.dropLast else text
    settled.unifyNewlines.endedLines

/-- The events of a document. -/
def eventsOfBytes (bytes : List UInt8) : Except Failure (List Json) :=
  match Utf8.decode bytes with
  | .ok text => eventsOf text.unifyNewlines.lines
  | .error fault =>
    let start := blockStart bytes fault
    match eventsOf (endedLinesOf (bytes.take start)) with
    | .error failure => .error failure
    | .ok _ => .error (.crash (.undecodable { fault with start := fault.start - start }))

/-- The events at a path; none if the path leads nowhere. -/
def readEvents (files : Files) (path : FilePath) : Except Failure (List Json) :=
  match files.contains path with
  | .error fault => .error (.ofFile fault)
  | .ok false => .ok []
  | .ok true =>
    match files.read path with
    | .error fault => .error (.ofFile fault)
    | .ok bytes => eventsOfBytes bytes

end ScanLog

end CharTally
