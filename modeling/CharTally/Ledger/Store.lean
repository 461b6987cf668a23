import CharTally.Workspace

/-!
Ledgers in files.

Every job here sets the ledger up before it does anything else: it makes the
folders above the file, opens or creates it, and adds the tables that it lacks.
The name `:memory:` stands for no file; each time it is opened it is an empty
ledger, and it is gone when it is closed.

Three names beside a ledger's, its own with an ending, belong to the ledger too.
Under them a store keeps its journal, its pages that are not written back yet, and an
index of these. Whatever stands there is taken for theirs when the ledger is opened, so
a document of some other origin is gone then, and a folder is in the way.

What is not here: a document that a store could have left there, whose pages would come
back; a journal and pages at once; pages too short to begin with a header, or with
zeros for its salt, beside a folder in the place of their index, with which a store
reads the ledger and refuses to write it; the end of an empty journal, or of one that
begins with a zero, by a recording that is taken back; and a document of one byte,
which a store takes for an empty one.
-/

namespace CharTally.Store

/-! ## The files beside a ledger -/

/-- The place beside another that has an ending behind the last name. -/
def beside (place : Place) (ending : Text) : Place :=
  place.dropLast ++ [place.getLastD [] ++ ending]

/-- Where the journal of a ledger is kept. -/
def journalOf (place : Place) : Place := beside place "-journal"

/-- Where its pages are kept that are not written back yet. -/
def pagesOf (place : Place) : Place := beside place "-wal"

/-- Where the index of these pages is kept. -/
def indexOf (place : Place) : Place := beside place "-shm"

/-- Work on the files of a ledger. -/
abbrev Work (α : Type) := EStateM LedgerReason Files α

/-- A journal is taken away when it has been played back, or when there is nothing to play it back
into. One that begins with a zero was played back before. -/
def settleJournal (place : Place) : Work Unit := fun files =>
  match files.bytesAt place, files.bytesAt (journalOf place) with
  | [], [] => .ok () files
  | [], _ :: _ => .ok () (files.clear (journalOf place))
  | _ :: _, first :: _ => .ok () (if first = 0 then files else files.clear (journalOf place))
  | _ :: _, [] =>
    if files.get? (journalOf place) = some .folder then .error .diskError files
    else .ok () files

/-- Pages that were not written back are taken away with their index, or alone when there is nothing
to write them back into. They cannot be read without the index. -/
def settlePages (place : Place) : Work Unit := fun files =>
  if files.get? (pagesOf place) = some .folder then
    .error (if files.bytesAt place = [] then .diskError else .cannotOpen) files
  else if files.bytesAt (pagesOf place) = [] then .ok () files
  else if files.bytesAt place = [] then .ok () (files.clear (pagesOf place))
  else if files.get? (indexOf place) = some .folder then .error .lockingProtocol files
  else .ok () ((files.clear (pagesOf place)).clear (indexOf place))

/-! ## Opening -/

/-- Creates the file of a ledger, empty, unless something is there. -/
def create (place : Place) : Work Unit := fun files =>
  match files.get? place with
  | none => .ok () (files.set place (.document []))
  | some .folder => .error .cannotOpen files
  | some _ => .ok () files

/-- The ledger in a file. An empty document is an empty ledger. -/
def content (place : Place) : Work Ledger := fun files =>
  match files.get? place with
  | some (.ledger content) => .ok content files
  | none | some (.document []) => .ok {} files
  | some _ => .error .notALedger files

/-- Opens the ledger at a place. -/
def openAt (place : Place) : Work Ledger := do
  create place
  settleJournal place
  settlePages place
  content place

/-- The greatest number of bytes in the place of a ledger, each name with a slash. -/
def maxWidth : Nat := 504

/-- The greatest number of bytes in a place that the path of a ledger leads through. -/
def maxPassed : Nat := 511

/-- The places that names lead through, the first and the last among them. -/
def passed : Place → List Text → List Place
  | place, [] => [place]
  | place, name :: rest => place :: passed (Files.stepFrom place name) rest

/-- The path of a ledger is too long for a store. -/
def isTooLong (files : Files) (path : FilePath) : Bool :=
  maxWidth < FilePath.width (files.spelled path) ||
    (passed (files.start path) path.names).any fun place => maxPassed < FilePath.width place

/-! ## Closing -/

/-- A journal can be written beside a ledger: its name is not too long, and no folder is in its
place. -/
def isWritable (files : Files) (place : Place) : Bool :=
  !Files.isTooLong ((journalOf place).getLastD []) && files.get? (journalOf place) ≠ some .folder

/-- Puts back what became of a ledger. Its journal is written and taken away. -/
def putBack (place : Place) (former latter : Ledger) : Work Unit := fun files =>
  if latter = former then .ok () files
  else if isWritable files place then
    .ok () ((files.clear (journalOf place)).set place (.ledger latter))
  else .error .cannotOpen files

/-! ## Jobs -/

/-- The name that stands for no file. -/
def noFile : Text := ":memory:"

/-- A failure that is told as the ledger file's. -/
def refusal (path : FilePath) (action : LedgerAction) (why : LedgerReason) : Failure :=
  .reported (.ledger path action why)

/-- The failure that a failing step on a ledger is. -/
def ofFault (path : FilePath) (action : LedgerAction) : Ledger.Fault → Failure
  | .noTable name => refusal path action (.noTable name)
  | .integerTooWide => .crash .integerTooWide
  | .unencodable fault => .crash (.unencodable fault)
  | .notOneCharacter length => .crash (.notOneCharacter length)

/-- The place of a ledger's path. -/
def placeOf (files : Files) (path : FilePath) (action : LedgerAction) : Except Failure Place :=
  match files.locate path with
  | .error (.unworkable why) => .error (.crash (.ofUnworkable why))
  | .error (.obstacle _ _) => .error (refusal path action .cannotOpen)
  | .ok place =>
    if isTooLong files path then .error (refusal path action .cannotOpen) else .ok place

/-- Takes a step on the ledger at a place. What a step does that fails is undone. -/
def stepAt {α : Type} (place : Place) (path : FilePath) (action : LedgerAction)
    (step : Ledger.Step α) : EStateM Failure Files α := fun files =>
  match openAt place files with
  | .error why files => .error (refusal path action why) files
  | .ok former files =>
    match step former with
    | .error fault _ => .error (ofFault path action fault) files
    | .ok value latter =>
      match putBack place former latter files with
      | .error why files => .error (refusal path action why) files
      | .ok () files => .ok value files

/-- Takes a step on an empty ledger that is kept nowhere. -/
def stepNowhere {α : Type} (path : FilePath) (action : LedgerAction) (step : Ledger.Step α) :
    EStateM Failure Files α := fun files =>
  match step {} with
  | .error fault _ => .error (ofFault path action fault) files
  | .ok value _ => .ok value files

/-- Takes a step on the ledger at a path. -/
def onLedger {α : Type} (path : FilePath) (action : LedgerAction) (step : Ledger.Step α) :
    Job α := fun workspace =>
  if path.toText = noFile then Job.onFiles (stepNowhere path action step) id workspace
  else
    match placeOf workspace.files path action with
    | .error failure => .error failure workspace
    | .ok place => Job.onFiles (stepAt place path action step) id workspace

/-- The failure of making the folders above a ledger. -/
def ofFolderFault (path : FilePath) : FileFault → Failure
  | .obstacle folder what => refusal path .setUp (.folder folder what)
  | .unworkable why => .crash (.ofUnworkable why)

/-- Sets up the ledger at a path. -/
def setUp (path : FilePath) : Job Unit := do
  Job.onFiles (Files.ensureFolders path.parent) (ofFolderFault path)
  let now := (← get).now
  onLedger path .setUp (modify (Ledger.migrate now))

/-- Records the scan of a report, and answers with its number. -/
def record (path : FilePath) (report : Report) (profile action : Option Text) : Job Nat := do
  setUp path
  let now := (← get).now
  onLedger path .recordScan
    (Ledger.record ⟨report.target, report.text, report.count, profile, now⟩ action)

/-- The newest scans, at most `limit` of them. -/
def scans (path : FilePath) (limit : Option Int) : Job (List (Nat × Scan)) := do
  setUp path
  onLedger path .readScans (Ledger.newestScans limit)

/-- The audit trail. -/
def auditTrail (path : FilePath) : Job (List AuditEntry) := do
  setUp path
  onLedger path .readAudit Ledger.auditTrail

end CharTally.Store
