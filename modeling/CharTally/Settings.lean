import CharTally.Failure
import CharTally.Report

/-!
Settings documents: the wording of reports and named profiles.

`ofJson` turns a JSON value into a `Document` or says what is wrong with it. It
looks at the version, the global section and the overrides for it, and then at
every profile in the order of the document, also at those that nobody asked for;
the first problem wins. Overrides are laid over the members of a section before
the section is checked, so an overridden member is checked like any other.
-/

namespace CharTally.Settings

/-! ## Documents -/

/-- A named run: what to count, and where. -/
structure Profile where
  description : Text
  target : CodePoint
  text : Text
deriving DecidableEq, Repr

/-- A checked document. The profiles stand in its order and their names differ. -/
structure Document where
  source : Source
  version : Int
  wording : Wording
  profiles : List (Text × Profile)
deriving DecidableEq, Repr

/-- What a run takes from a document: its wording and one profile. -/
structure Runtime where
  wording : Wording
  profile : Profile
deriving DecidableEq, Repr

/-- The profile of a name. -/
def Document.find? (name : Text) (document : Document) : Option Profile :=
  document.profiles.lookup name

/-- The failure that a problem with a document is. -/
def refuse {α : Type} (source : Source) (problem : Problem) : Except Failure α :=
  .error (.reported (.settings source problem))

/-! ## Checking the parts -/

/-- The integer that a version denotes: a number without its fraction, a truth value as one or
zero, or a text that reads as an integer. -/
def versionOf (source : Source) : Json → Except Failure Int
  | .bool value => .ok (if value then 1 else 0)
  | .integer value => .ok value
  | .real (.finite negative mantissa exponent) =>
    .ok (Binary64.truncate negative mantissa exponent)
  | .real (.infinite _) => .error (.crash .infiniteVersion)
  | .text value =>
    match Numeral.readInteger? value with
    | some version => .ok version
    | none => refuse source .versionNotInteger
  | _ => refuse source .versionNotInteger

/-- A version is positive and at most the supported one. -/
def checkVersion (source : Source) (value : Json) : Except Failure Int := do
  let version ← versionOf source value
  if version ≤ 0 then refuse source .versionNotPositive
  else if (supportedVersion : Int) < version then refuse source (.versionTooNew version)
  else return version

/-- A piece of the wording, or the usual one if the document is silent. -/
def checkWords (source : Source) (field : Field) (usual : Text) :
    Option Json → Except Failure Text
  | none => .ok usual
  | some (.text words) => .ok words
  | some _ => refuse source (.notText field)

/-- The wording that the members of the global section set. -/
def checkWording (source : Source) (members : List (Text × Json)) : Except Failure Wording := do
  let usual : Wording := {}
  let before ← checkWords source .beforeTarget usual.beforeTarget
    (Json.find? "prefix_message" members)
  let after ← checkWords source .afterTarget usual.afterTarget
    (Json.find? "suffix_message" members)
  return ⟨before, after⟩

/-- A description is a text that is not blank; the blanks at its ends are dropped. -/
def checkDescription (source : Source) (name : Text) (value : Json) : Except Failure Text :=
  match value with
  | .text words =>
    let stripped := Text.strip words
    if stripped.isEmpty then refuse source (.blank (.description name)) else .ok stripped
  | _ => refuse source (.notText (.description name))

/-- A target is a text that is not empty and that reads as a target literal. -/
def checkTarget (source : Source) (name : Text) (value : Json) : Except Failure CodePoint :=
  match value with
  | .text [] => refuse source (.noTarget name)
  | .text literal =>
    match Target.parse literal with
    | .ok target => .ok target
    | .error (.refused why) => refuse source (.badTarget name literal why)
    | .error .codeTooLong => .error (.crash .integerTooLong)
  | _ => refuse source (.noTarget name)

/-- The text of a profile is ASCII. -/
def checkText (source : Source) (name : Text) (value : Json) : Except Failure Text :=
  match value with
  | .text text =>
    if text.isAscii then .ok text else refuse source (.notAscii (.text name))
  | _ => refuse source (.notText (.text name))

/-- The members of a profile that are missing. -/
def missingMembers (members : List (Text × Json)) : List Member :=
  [Member.description, .target, .text].filter fun member =>
    (Json.find? member.name members).isNone

/-- The profile that a section's members make. -/
def checkProfile (source : Source) (name : Text) (members : List (Text × Json)) :
    Except Failure Profile := do
  match missingMembers members with
  | [] =>
    let member (which : Member) : Json := (Json.find? which.name members).getD .null
    let description ← checkDescription source name (member .description)
    let target ← checkTarget source name (member .target)
    let text ← checkText source name (member .text)
    return ⟨description, target, text⟩
  | missing => refuse source (.missing name missing)

/-! ## Overrides -/

/-- A part of the overrides. Overrides that say nothing have no parts. -/
def overridePart (overrides : Json) (name : Text) : Except Failure Json :=
  if overrides.isVoid then .ok .null
  else
    match overrides with
    | .object members => .ok ((Json.find? name members).getD .null)
    | other => .error (.crash (.notAnObject other.kind))

/-- The members of a section with a part of the overrides laid over them. -/
def overlay (members : List (Text × Json)) (part : Json) :
    Except Failure (List (Text × Json)) :=
  if part.isVoid then .ok members
  else
    match part with
    | .object more => .ok (Json.putAll members more)
    | other => .error (.crash (.notAMapping other.kind))

/-! ## The whole document -/

/-- The members of a section, if it is an object. -/
def membersOf? : Option Json → Option (List (Text × Json))
  | some (.object members) => some members
  | _ => none

/-- Checks profiles one after another; the overrides are laid over the one that was asked for. -/
def checkProfiles (source : Source) (wanted : Option Text) (part : Json) :
    List (Text × Json) → Except Failure (List (Text × Profile))
  | [] => .ok []
  | (name, .object members) :: rest => do
    let members ← if wanted = some name ∧ name ≠ [] then overlay members part else .ok members
    let profile ← checkProfile source name members
    let more ← checkProfiles source wanted part rest
    return (name, profile) :: more
  | (name, _) :: _ => refuse source (.notAnObject name)

/-- A profile that was asked for by a name is there. -/
def checkWanted (source : Source) (wanted : Option Text) (profiles : List (Text × Profile)) :
    Except Failure Unit :=
  match wanted with
  | none | some [] => .ok ()
  | some name =>
    if (profiles.lookup name).isSome then .ok () else refuse source (.unknownProfile name)

/-- The document that a JSON value is, with overrides laid over it for the profile asked for. -/
def ofJson (source : Source) (wanted : Option Text) (overrides : Json) :
    Json → Except Failure Document
  | .object members => do
    let version ← checkVersion source ((Json.find? "version" members).getD .null)
    match membersOf? (Json.find? "global" members) with
    | none => refuse source .noGlobal
    | some general =>
      let general ← overlay general (← overridePart overrides "global")
      let wording ← checkWording source general
      match membersOf? (Json.find? "profiles" members) with
      | none | some [] => refuse source .noProfiles
      | some sections =>
        let part ← overridePart overrides "profile"
        let profiles ← checkProfiles source wanted part sections
        checkWanted source wanted profiles
        return ⟨source, version, wording, profiles⟩
  | other => .error (.crash (.notAnObject other.kind))

end CharTally.Settings
