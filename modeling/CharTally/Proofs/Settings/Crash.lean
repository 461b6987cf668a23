import CharTally.Proofs.Files
import CharTally.Proofs.Settings

/-!
# How loading settings crashes

What is wrong with a source is refused with a problem that names it, or it crashes.
`Unread` lists the sources that cannot be read at all, `Escapes` adds the values that
crash the checks and the names that the checks let through although no profile has
them: no name, and the empty one (`loadRuntime_of_unnamed`). There is no other crash
(`loadRuntime_refuses`).
-/

namespace CharTally.Settings

variable {files : Files} {source : Source} {name : Option Text} {crash : Crash}

/-- Why a source cannot be read, other than that it is missing or not JSON. -/
inductive Unread (files : Files) : Source → Crash → Prop
  | unworkable {path : FilePath} {why : Unworkable}
      (stuck : files.read path = .error (.unworkable why)) :
      Unread files (.file path) (.ofUnworkable why)
  | obstacle {path where_ : FilePath} {what : Obstacle}
      (stuck : files.read path = .error (.obstacle where_ what)) (isThere : what ≠ .absent) :
      Unread files (.file path) (.file where_ what)
  | undecodable {path : FilePath} {bytes : List UInt8} {fault : Utf8.Fault}
      (found : files.read path = .ok bytes) (undecoded : Utf8.decode bytes = .error fault) :
      Unread files (.file path) (.undecodable fault)
  | tooDeep {path : FilePath} {bytes : List UInt8} {text : Text} {bracket : Json.Bracket}
      (found : files.read path = .ok bytes) (decoded : Utf8.decode bytes = .ok text)
      (unparsed : Json.read text.unifyNewlines = .error (.tooDeep bracket)) :
      Unread files (.file path) (.tooDeep bracket)
  | numeralTooLong {path : FilePath} {bytes : List UInt8} {text : Text} {digits : Nat}
      (found : files.read path = .ok bytes) (decoded : Utf8.decode bytes = .ok text)
      (unparsed : Json.read text.unifyNewlines = .error (.numeralTooLong digits)) :
      Unread files (.file path) (.numeralTooLong digits)

theorem readSource_refuses (files : Files) (source : Source) :
    Refuses source (Unread files source) (readSource files source) := by
  cases source with
  | bundled => exact .ok _
  | file path =>
    unfold readSource
    dsimp only
    cases found : files.read path with
    | error fault =>
      cases fault with
      | unworkable why => exact .crash (.unworkable found)
      | obstacle where_ what =>
        cases what with
        | absent => exact .refuse _
        | occupied => exact .crash (.obstacle found nofun)
        | notFolder => exact .crash (.obstacle found nofun)
        | isFolder => exact .crash (.obstacle found nofun)
        | nameTooLong => exact .crash (.obstacle found nofun)
    | ok bytes =>
      dsimp only
      unfold readJson
      cases decoded : Utf8.decode bytes with
      | error fault => exact .crash (.undecodable found decoded)
      | ok text =>
        dsimp only
        cases parsed : Json.read text.unifyNewlines with
        | ok value => exact .ok _
        | error fault =>
          cases fault with
          | malformed problem offset => exact .refuse _
          | tooDeep bracket => exact .crash (.tooDeep found decoded parsed)
          | numeralTooLong digits => exact .crash (.numeralTooLong found decoded parsed)

/-- Why loading a profile of a source crashes instead of being refused. -/
inductive Escapes (files : Files) (source : Source) (name : Option Text) : Crash → Prop
  | unread {crash : Crash} (unread : Unread files source crash) : Escapes files source name crash
  | unchecked {value : Json} {crash : Crash} (read : readSource files source = .ok value)
      (crashes : Crashes value crash) : Escapes files source name crash
  | unnamed {document : Document} (loaded : load files source name = .ok document)
      (none_ : name = none ∨ name = some []) (missing : name.bind document.find? = none) :
      Escapes files source name (.noSuchProfile name)

theorem load_refuses (files : Files) (source : Source) (name : Option Text) :
    Refuses source (Escapes files source name) (load files source name) := by
  refine .bind ((readSource_refuses files source).weaken fun _ => .unread) fun value read => ?_
  exact (ofJson_refuses source name value).weaken fun _ => .unchecked read

/-- No name, or the empty one, crashes on every document that is loaded and has no such profile. -/
theorem loadRuntime_of_unnamed {document : Document}
    (loaded : load files source name = .ok document) (missing : name.bind document.find? = none) :
    loadRuntime files source name = .error (.crash (.noSuchProfile name)) := by
  simp only [loadRuntime, loaded, bind, Except.bind, missing]

end CharTally.Settings
