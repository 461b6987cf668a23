import CharTally.Json.Reader
import CharTally.Settings
import CharTally.Text.Lines

/-!
Loading settings: from the document that comes with the program, or from a file.

A file is UTF-8, its line ends are unified before it is read as JSON, and only
two of the ways in which this can go wrong are told as problems with the
settings: there is no such file, or its text is not JSON.
-/

namespace CharTally.Settings

/-! ## The bundled document -/

/-- The profile that is used when none is named. -/
def usualProfile : Text := "classic"

/-- A profile as the bundled document writes it. -/
def bundledProfile (description target text : Text) : Json :=
  .object [("description", .text description), ("target", .text target), ("string", .text text)]

/-- The document that comes with the program. -/
def bundled : Json := .object
  [("version", .integer 1),
   ("global", .object
     [("prefix_message", .text " occurrences of the letter '"),
      ("suffix_message", .text "' in the string ")]),
   ("profiles", .object
     [("classic",
       bundledProfile "Classic count_chars literals (target x64)" "x64" "load rel address"),
      ("letter_l",
       bundledProfile "Count the letter l in the classic string" "l" "load rel address")])]

/-! ## Reading a source -/

/-- The JSON value that a document's bytes denote. -/
def readJson (source : Source) (bytes : List UInt8) : Except Failure Json :=
  match Utf8.decode bytes with
  | .error fault => .error (.crash (.undecodable fault))
  | .ok text =>
    let document := text.unifyNewlines
    match Json.read document with
    | .ok value => .ok value
    | .error (.malformed problem offset) =>
      refuse source (.notJson (problem.message document offset))
    | .error (.tooDeep bracket) => .error (.crash (.tooDeep bracket))
    | .error (.numeralTooLong digits) => .error (.crash (.numeralTooLong digits))

/-- The JSON value of a source. -/
def readSource (files : Files) (source : Source) : Except Failure Json :=
  match source with
  | .bundled => .ok bundled
  | .file path =>
    match files.read path with
    | .ok bytes => readJson source bytes
    | .error (.obstacle _ .absent) => refuse source .noDocument
    | .error fault => .error (.ofFile fault)

/-- The document of a source, for the profile asked for and with overrides. -/
def load (files : Files) (source : Source) (wanted : Option Text) (overrides : Json := .null) :
    Except Failure Document := do
  ofJson source wanted overrides (← readSource files source)

/-- The wording of a source and its profile of a name. The empty name and no name are not checked
when the document is loaded; they fail here unless a profile has the name. -/
def loadRuntime (files : Files) (source : Source) (name : Option Text)
    (overrides : Json := .null) : Except Failure Runtime := do
  let document ← load files source name overrides
  match name.bind document.find? with
  | some profile => return ⟨document.wording, profile⟩
  | none => .error (.crash (.noSuchProfile name))

end CharTally.Settings
