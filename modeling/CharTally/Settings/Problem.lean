import CharTally.Files.FilePath
import CharTally.Target

/-!
What can be wrong with a settings document, and how it is told.
-/

namespace CharTally.Settings

/-- Where a settings document comes from. -/
inductive Source where
  | bundled
  | file (path : FilePath)
deriving DecidableEq, Repr

/-- The name of a source in messages. -/
def Source.label : Source → Text
  | .bundled => "<DEFAULTS>"
  | .file path => path.toText

/-- The members of a document that have to be texts. -/
inductive Field where
  | beforeTarget
  | afterTarget
  | description (profile : Text)
  | target (profile : Text)
  | text (profile : Text)
deriving DecidableEq, Repr

/-- The path of a member in messages. -/
def Field.label : Field → Text
  | .beforeTarget => "global.prefix_message"
  | .afterTarget => "global.suffix_message"
  | .description profile => "profiles." ++ profile ++ ".description"
  | .target profile => "profiles." ++ profile ++ ".target"
  | .text profile => "profiles." ++ profile ++ ".string"

/-- The members that every profile has. -/
inductive Member where
  | description
  | target
  | text
deriving DecidableEq, Repr

/-- The name of a member. -/
def Member.name : Member → Text
  | .description => "description"
  | .target => "target"
  | .text => "string"

/-- What is wrong with a document. -/
inductive Problem where
  | noDocument
  | notJson (why : Text)
  | versionNotInteger
  | versionNotPositive
  | versionTooNew (version : Int)
  | noGlobal
  | noProfiles
  | notText (field : Field)
  | blank (field : Field)
  | noTarget (profile : Text)
  | badTarget (profile literal : Text) (why : Target.Refusal)
  | notAscii (field : Field)
  | notAnObject (profile : Text)
  | missing (profile : Text) (members : List Member)
  | unknownProfile (profile : Text)
deriving DecidableEq, Repr

/-- The highest version of a document that is understood. -/
def supportedVersion : Nat := 1

/-- The sentence about a problem with the document of a source. -/
def Problem.message (source : Source) (problem : Problem) : Text :=
  let document := source.label
  match problem with
  | .noDocument => "Config file '" ++ document ++ "' not found"
  | .notJson why => "Config file '" ++ document ++ "' is not valid JSON: " ++ why
  | .versionNotInteger => "version must be an integer in " ++ document
  | .versionNotPositive => "version must be greater than zero in " ++ document
  | .versionTooNew version =>
    "Config version " ++ Numeral.ofInt version ++ " in " ++ document ++
      " is newer than supported (" ++ Numeral.decimal supportedVersion ++ ")"
  | .noGlobal => "'global' section missing in " ++ document
  | .noProfiles => "'profiles' section missing in " ++ document
  | .notText field => field.label ++ " must be a string in " ++ document
  | .blank field => field.label ++ " must be non-empty in " ++ document
  | .noTarget profile =>
    (Field.target profile).label ++ " must be a non-empty string in " ++ document
  | .badTarget profile literal why =>
    (Field.target profile).label ++ " is invalid in " ++ document ++ ": " ++ why.message literal
  | .notAscii field => field.label ++ " must be ASCII in " ++ document
  | .notAnObject profile => "Profile '" ++ profile ++ "' must be an object in " ++ document
  | .missing profile members =>
    "Profile '" ++ profile ++ "' missing fields " ++
      Text.quotedList (members.map Member.name) ++ " in " ++ document
  | .unknownProfile profile => "Profile '" ++ profile ++ "' not found in " ++ document

end CharTally.Settings
