import CharTally.Text.Quoted
import CharTally.Text.Utf8

/-!
Paths as they are written: a root and the names below it.

Empty names and single dots say nothing and are dropped when a path is read, so
two spellings of a path that differ only in them are equal. A double dot is kept,
because what it means depends on the folder in front of it.

Not every path can be handed to a system: one with a NUL in it cannot, nor one with
halves of surrogate pairs in it, except those that stand for bytes that are no text.
-/

namespace CharTally

/-- Cuts a text at every separator. -/
def Text.splitOn (separator : CodePoint) : Text → List Text
  | [] => [[]]
  | c :: rest =>
    match splitOn separator rest with
    | [] => [[c]]
    | first :: more => if c = separator then [] :: first :: more else (c :: first) :: more

/-- A path: the slashes it starts at, or nothing, and the names that lead on from there. -/
structure FilePath where
  root : Text
  names : List Text
deriving DecidableEq, Repr

namespace FilePath

/-- The root of a written path. Exactly two slashes are kept, any other number counts as one. -/
def rootOf (t : Text) : Text :=
  match (t.takeWhile (· = scalar '/')).length with
  | 0 => []
  | 2 => "//"
  | _ => "/"

/-- Reads a path. -/
def ofText (t : Text) : FilePath :=
  ⟨rootOf t, (t.splitOn (scalar '/')).filter fun name => name ≠ [] ∧ name ≠ ("." : Text)⟩

/-- Writes a path; the empty one is a dot. -/
def toText (path : FilePath) : Text :=
  if path.root.isEmpty && path.names.isEmpty then "."
  else path.root ++ Text.joined "/" path.names

/-- The path without its last name. -/
def parent (path : FilePath) : FilePath := { path with names := path.names.dropLast }

/-- A NUL is in one of the names. -/
def hasNul (path : FilePath) : Bool := path.names.any (·.contains (scalar '\x00'))

/-- Half of a surrogate pair that stands for a byte in a path. -/
def standsForByte (c : CodePoint) : Bool := 0xDC80 ≤ c.toNat && c.toNat ≤ 0xDCFF

/-- The number of bytes of a name on a disk. -/
def byteCount : Text → Nat
  | [] => 0
  | c :: rest => (if c.isHalf then 1 else (Utf8.encodeChar c).length) + byteCount rest

/-- The number of bytes of names on a disk, each with a slash. -/
def width : List Text → Nat
  | [] => 0
  | name :: rest => byteCount name + 1 + width rest

/-- The greatest number of bytes in a path, with the NUL that ends it. -/
def maxPath : Nat := 4096

/-- A path that is too long to be looked up. No slash is behind its last name, but a NUL is. -/
def isTooLong (path : FilePath) : Bool := maxPath < path.root.length + width path.names

/-- What makes a path unusable. -/
inductive Flaw where
  | unencodable (fault : Utf8.Unencodable)
  | nul
deriving DecidableEq, Repr

/-- What makes this path unusable, if it is. -/
def flaw? (path : FilePath) : Option Flaw :=
  match Utf8.unencodable? path.toText standsForByte with
  | some fault => some (.unencodable fault)
  | none => if path.hasNul then some .nul else none

end FilePath

end CharTally
