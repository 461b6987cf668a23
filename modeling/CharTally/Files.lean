import CharTally.Files.FilePath
import CharTally.Ledger
import CharTally.Text.Utf8

/-!
The files that a run can reach: folders, documents and ledgers.

A `Place` is where an entry stands, as the names that lead to it from the root. `walk`
turns the names of a path into a place; every name on the way has to be looked up in
a folder. All else is built from `walk` and the view `get?` : reading, appending,
making folders with those above them, and opening a ledger.

What is not here: links, permissions, other kinds of files, disks that fail or are
full, and other programs that change files during a run. The halves of surrogate
pairs that stand for bytes of a name are kept as they are, so a name that is spelled
with them is another name than the one with the character that these bytes encode.
-/

namespace CharTally

/-- Where an entry stands: the names that lead to it from the root. -/
abbrev Place := List Text

/-- What can stand at a place. -/
inductive Entry where
  | folder
  | document (bytes : List UInt8)
  | ledger (content : Ledger)
deriving DecidableEq, Repr

/-- Why a path leads nowhere, or not to what is needed. -/
inductive Obstacle where
  | absent
  | occupied
  | notFolder
  | isFolder
  | nameTooLong
deriving DecidableEq, Repr

/-- The number and the words of an obstacle. -/
def Obstacle.words : Obstacle → Text
  | .absent => "[Errno 2] No such file or directory"
  | .occupied => "[Errno 17] File exists"
  | .notFolder => "[Errno 20] Not a directory"
  | .isFolder => "[Errno 21] Is a directory"
  | .nameTooLong => "[Errno 36] File name too long"

/-- The sentence about an obstacle on a path. -/
def Obstacle.message (path : FilePath) (obstacle : Obstacle) : Text :=
  obstacle.words ++ ": " ++ Text.quoted path.toText

/-- Why work on files cannot even begin: the path is unusable, or too many folders are missing. -/
inductive Unworkable where
  | flaw (flaw : FilePath.Flaw)
  | tooDeep
deriving DecidableEq, Repr

/-- Why a file operation fails: an obstacle on a path, or it cannot begin. -/
inductive FileFault where
  | obstacle (path : FilePath) (what : Obstacle)
  | unworkable (why : Unworkable)
deriving DecidableEq, Repr

/-- The entries, and the folder in which relative paths start. This folder and those above it are
there, without entries of their own. -/
structure Files where
  entries : List (Place × Entry) := []
  here : Place := []
deriving DecidableEq, Repr

namespace Files

/-! ## Places -/

/-- The folder in which relative paths start, and the folders above it. -/
def isStart (files : Files) (place : Place) : Bool := place.isPrefixOf files.here

/-- The entry at a place. -/
def get? (files : Files) (place : Place) : Option Entry :=
  if files.isStart place then some .folder else files.entries.lookup place

/-- Takes the entry at a place away. -/
def clear (files : Files) (place : Place) : Files :=
  { files with entries := files.entries.filter fun (known, _) => known ≠ place }

/-- Puts an entry at a place. -/
def set (files : Files) (place : Place) (entry : Entry) : Files :=
  { files with entries := (place, entry) :: (files.clear place).entries }

/-- Removes a place and everything below it. -/
def erase (files : Files) (place : Place) : Files :=
  { files with entries := files.entries.filter fun (known, _) => !place.isPrefixOf known }

/-- The greatest number of bytes in a name. -/
def maxName : Nat := 255

/-- A name with more bytes than a folder takes. -/
def isTooLong (name : Text) : Bool := maxName < FilePath.byteCount name

/-- The name that leads to the folder above. Above the root there is none. -/
def up : Text := ".."

/-- Where a name leads from a folder. -/
def stepFrom (folder : Place) (name : Text) : Place :=
  if name = up then folder.dropLast else folder ++ [name]

/-- Follows names from a place. -/
def walk (files : Files) : Place → List Text → Except Obstacle Place
  | place, [] => .ok place
  | place, name :: rest =>
    match files.get? place with
    | none => .error .absent
    | some .folder =>
      if name ≠ up ∧ isTooLong name then .error .nameTooLong
      else files.walk (stepFrom place name) rest
    | some _ => .error .notFolder

/-- Where the names of a path are looked up from: here, or the root. -/
def start (files : Files) (path : FilePath) : Place :=
  if path.root.isEmpty then files.here else []

/-- The place that the names of a path spell, whether or not they lead there. -/
def spelled (files : Files) (path : FilePath) : Place :=
  path.names.foldl stepFrom (files.start path)

/-- The place of a path. -/
def locate (files : Files) (path : FilePath) : Except FileFault Place :=
  match path.flaw? with
  | some flaw => .error (.unworkable (.flaw flaw))
  | none =>
    if path.isTooLong then .error (.obstacle path .nameTooLong)
    else
      match files.walk (files.start path) path.names with
      | .ok place => .ok place
      | .error what => .error (.obstacle path what)

/-! ## Documents -/

/-- The first bytes of a ledger file. The last of them are the beginning of no character, so whoever
reads the file as text comes no further. -/
def ledgerMark : List UInt8 :=
  "SQLite format 3\x00".toList.map (fun c => UInt8.ofNat c.toNat) ++
    [0x10, 0, 1, 1, 0, 0x40, 0x20, 0x20, 0, 0, 0, 5, 0, 0, 0, 6] ++ List.replicate 8 0 ++
    [0, 0, 0, 4, 0, 0, 0, 4] ++ List.replicate 8 0 ++ [0, 0, 0, 1] ++ List.replicate 32 0 ++
    [0, 0, 0, 5, 0, 0x2E, 0x63, 1, 0x0D, 0, 0, 0, 5, 0x0C, 0x76, 0, 0x0F, 0x6E, 0x0E, 0x43,
      0x0D, 0xF1, 0x0D]

/-- The bytes that stand at a place, if any do. -/
def bytesAt (files : Files) (place : Place) : List UInt8 :=
  match files.get? place with
  | some (.document bytes) => bytes
  | some (.ledger _) => ledgerMark
  | _ => []

/-- The bytes at a path. -/
def read (files : Files) (path : FilePath) : Except FileFault (List UInt8) :=
  match files.locate path with
  | .error fault => .error fault
  | .ok place =>
    match files.get? place with
    | none => .error (.obstacle path .absent)
    | some .folder => .error (.obstacle path .isFolder)
    | some (.document bytes) => .ok bytes
    | some (.ledger _) => .ok ledgerMark

/-- Adds bytes to the document at a path, which is created if it is missing. What is written behind
a ledger is never seen again: a ledger knows the number of its pages, and whoever reads it as text
comes no further than its first bytes. -/
def append (files : Files) (path : FilePath) (more : List UInt8) : Except FileFault Files :=
  match files.locate path with
  | .error fault => .error fault
  | .ok place =>
    match files.get? place with
    | none => .ok (files.set place (.document more))
    | some .folder => .error (.obstacle path .isFolder)
    | some (.document bytes) => .ok (files.set place (.document (bytes ++ more)))
    | some (.ledger _) => .ok files

/-- Whether a path leads to something. Only what is too long keeps the question open. -/
def contains (files : Files) (path : FilePath) : Except FileFault Bool :=
  match files.locate path with
  | .ok place => .ok (files.get? place).isSome
  | .error (.obstacle path .nameTooLong) => .error (.obstacle path .nameTooLong)
  | .error _ => .ok false

/-! ## Folders -/

/-- Work on files, which may fail and leaves files either way. -/
abbrev Work (α : Type) := EStateM FileFault Files α

/-- Whether a path leads to a folder. -/
def isFolder (files : Files) (path : FilePath) : Bool :=
  match files.locate path with
  | .ok place => files.get? place = some .folder
  | .error _ => false

/-- The files with one more folder, in a folder that is there. -/
def makeFolder (files : Files) (path : FilePath) : Except FileFault Files :=
  match files.locate path with
  | .error fault => .error fault
  | .ok place =>
    match files.get? place with
    | none => .ok (files.set place .folder)
    | some _ => .error (.obstacle path .occupied)

/-- Makes one folder, or leaves it if it is there. -/
def ensureFolder (path : FilePath) : Work Unit := fun files =>
  match files.makeFolder path with
  | .ok made => .ok () made
  | .error fault => if files.isFolder path then .ok () files else .error fault files

/-- Makes the folder of the names, given in reverse order, and those above it where they are
missing. -/
def ensureFoldersFrom (root : Text) : List Text → Work Unit
  | [] => ensureFolder ⟨root, []⟩
  | name :: names => fun files =>
    let path : FilePath := ⟨root, (name :: names).reverse⟩
    match files.makeFolder path with
    | .error (.obstacle _ .absent) =>
      (do ensureFoldersFrom root names; ensureFolder path : Work Unit) files
    | _ => ensureFolder path files

/-- How many folders are missing at the end of the names, given in reverse order. -/
def missingFrom (files : Files) (root : Text) : List Text → Nat
  | [] => 0
  | name :: names =>
    match files.makeFolder ⟨root, (name :: names).reverse⟩ with
    | .error (.obstacle _ .absent) => missingFrom files root names + 1
    | _ => 0

/-- The folders on the way to a path that are missing, besides its own. -/
def missing (files : Files) (path : FilePath) : Nat :=
  files.missingFrom path.root path.names.reverse

/-- The greatest number of missing folders on a way. Each is made by the one below it, which waits
for it. -/
def maxMissing : Nat := 960

/-- Makes the folder of a path and those above it where they are missing. -/
def ensureFolders (path : FilePath) : Work Unit := fun files =>
  if maxMissing < files.missing path then .error (.unworkable .tooDeep) files
  else ensureFoldersFrom path.root path.names.reverse files

/-! ## Upkeep -/

/-- Writes a document at a path, with the folders above it. -/
def write (path : FilePath) (bytes : List UInt8) : Work Unit := do
  ensureFolders path.parent
  let files ← get
  match files.locate path with
  | .error fault => throw fault
  | .ok place =>
    if files.get? place = some .folder then throw (.obstacle path .isFolder)
    else modify (·.set place (.document bytes))

/-- Removes what a path leads to, with everything below it; nothing if it leads nowhere. -/
def remove (files : Files) (path : FilePath) : Files :=
  match files.locate path with
  | .ok place => files.erase place
  | .error _ => files

/-- The places below the folder in which relative paths start, as they are written from there, in
code point order, folders with a slash at their end. -/
def listing (files : Files) : List Text :=
  let shown := files.entries.filterMap fun (place, entry) =>
    if files.here.isPrefixOf place then
      some (Text.joined "/" (place.drop files.here.length) ++ (if entry = .folder then "/" else ""))
    else none
  shown.mergeSort Text.upTo

end Files

end CharTally
