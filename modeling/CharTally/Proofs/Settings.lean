import CharTally.Proofs.Json.Spelling
import CharTally.Settings.Load

/-!
# Which settings documents are accepted

`Acceptable` says what a document has to be, member by member, without the order in
which the checks are made; `Describes` says what a profile's section has to be and
which profile it makes. Each check has one lemma for when it succeeds (`…_eq_ok`) and
one for how it fails: `Refuses` says that it names a problem of its source, or crashes
for one of a few reasons, which `Crashes` lists for a whole document.

`load_accepts` puts them together: a document is loaded exactly if it is acceptable,
and the profiles stand in the order in which the file names them first, each as the
file writes it last.
-/

namespace CharTally.Settings

/-! ## Checks in a row -/

section Checks

variable {α β : Type} {source : Source} {allowed more : Crash → Prop}

theorem bind_eq_ok {first : Except Failure α} {second : α → Except Failure β} {value : β} :
    (first >>= second) = .ok value ↔ ∃ found, first = .ok found ∧ second found = .ok value := by
  cases first with
  | ok found =>
    constructor
    · intro ran
      exact ⟨found, rfl, ran⟩
    · rintro ⟨_, ⟨rfl⟩, ran⟩
      exact ran
  | error failure =>
    constructor
    · intro ran
      cases ran
    · rintro ⟨_, ran, _⟩
      cases ran

theorem bind_eq_error {first : Except Failure α} {second : α → Except Failure β}
    {failure : Failure} : (first >>= second) = .error failure ↔
      first = .error failure ∨ ∃ found, first = .ok found ∧ second found = .error failure := by
  cases first with
  | ok found =>
    constructor
    · intro failed
      exact Or.inr ⟨found, rfl, failed⟩
    · rintro (failed | ⟨_, ⟨rfl⟩, failed⟩)
      · cases failed
      · exact failed
  | error other =>
    constructor
    · intro failed
      cases failed
      exact Or.inl rfl
    · rintro (failed | ⟨_, failed, _⟩)
      · cases failed
        rfl
      · cases failed

/-- If a check fails, it names a problem of its source, or it crashes as is allowed. -/
def Refuses (source : Source) (allowed : Crash → Prop) (result : Except Failure α) : Prop :=
  ∀ failure, result = .error failure →
    (∃ problem, failure = .reported (.settings source problem)) ∨
      ∃ crash, failure = .crash crash ∧ allowed crash

namespace Refuses

theorem ok (value : α) : Refuses source allowed (.ok value) := fun _ failed => nomatch failed

theorem refuse (problem : Problem) :
    Refuses source allowed (Settings.refuse source problem : Except Failure α) := by
  intro failure failed
  cases failed
  exact Or.inl ⟨problem, rfl⟩

theorem crash {reason : Crash} (isAllowed : allowed reason) :
    Refuses source allowed (.error (.crash reason) : Except Failure α) := by
  intro failure failed
  cases failed
  exact Or.inr ⟨reason, rfl, isAllowed⟩

/-- A check crashes only as is allowed. -/
theorem allows {result : Except Failure α} {reason : Crash}
    (refuses : Refuses source allowed result)
    (failed : result = .error (.crash reason)) : allowed reason := by
  rcases refuses _ failed with ⟨_, same⟩ | ⟨_, ⟨rfl⟩, isAllowed⟩
  · cases same
  · exact isAllowed

theorem weaken {result : Except Failure α} (refuses : Refuses source allowed result)
    (implies : ∀ reason, allowed reason → more reason) : Refuses source more result := by
  intro failure failed
  rcases refuses failure failed with problem | ⟨reason, isCrash, isAllowed⟩
  · exact Or.inl problem
  · exact Or.inr ⟨reason, isCrash, implies reason isAllowed⟩

theorem bind {first : Except Failure α} {second : α → Except Failure β}
    (refuses : Refuses source allowed first)
    (then_ : ∀ value, first = .ok value → Refuses source allowed (second value)) :
    Refuses source allowed (first >>= second) := by
  intro failure failed
  cases found : first with
  | error other =>
    rw [found] at failed
    cases failed
    exact refuses _ found
  | ok value =>
    rw [found] at failed
    exact then_ value found failure failed

theorem ite {condition : Prop} [Decidable condition] {first second : Except Failure α}
    (holds : condition → Refuses source allowed first)
    (fails : ¬ condition → Refuses source allowed second) :
    Refuses source allowed (if condition then first else second) := by
  by_cases is : condition
  · rw [if_pos is]
    exact holds is
  · rw [if_neg is]
    exact fails is

end Refuses

end Checks

/-! ## The version -/

variable {source : Source} {wanted : Option Text} {value : Json} {name : Text}
  {members raw : List (Text × Json)}

/-- The integer that a JSON value converts to: a truth value, an integer, a number without its
fraction, or a text that reads as an integer. -/
inductive Denotes : Json → Int → Prop
  | bool (value : Bool) : Denotes (.bool value) (if value then 1 else 0)
  | integer (value : Int) : Denotes (.integer value) value
  | real (negative : Bool) (mantissa : Nat) (exponent : Int) :
      Denotes (.real (.finite negative mantissa exponent))
        (Binary64.truncate negative mantissa exponent)
  | text {value : Text} {number : Int} (reads : Numeral.readInteger? value = some number) :
      Denotes (.text value) number

theorem versionOf_eq_ok {version : Int} :
    versionOf source value = .ok version ↔ Denotes value version := by
  constructor
  · intro ran
    unfold versionOf at ran
    split at ran
    case h_1 => cases ran; exact .bool _
    case h_2 => cases ran; exact .integer _
    case h_3 => cases ran; exact .real _ _ _
    case h_4 => cases ran
    case h_5 =>
      split at ran
      case h_1 reads => cases ran; exact .text reads
      case h_2 => cases ran
    case h_6 => cases ran
  · intro denotes
    cases denotes with
    | bool value => rfl
    | integer value => rfl
    | real negative mantissa exponent => rfl
    | text reads => simp only [versionOf, reads]

/-- Only a version that converts to one is accepted. -/
theorem checkVersion_eq_ok {version : Int} :
    checkVersion source value = .ok version ↔ version = 1 ∧ Denotes value 1 := by
  rw [checkVersion, bind_eq_ok]
  constructor
  · rintro ⟨found, ran, checked⟩
    split at checked
    case isTrue => cases checked
    case isFalse positive =>
      split at checked
      case isTrue => cases checked
      case isFalse small =>
        cases checked
        have isOne : version = 1 := by
          rw [supportedVersion] at small
          omega
        subst isOne
        exact ⟨rfl, versionOf_eq_ok.mp ran⟩
  · rintro ⟨rfl, denotes⟩
    exact ⟨1, versionOf_eq_ok.mpr denotes, rfl⟩

/-- The version is infinite. -/
def IsInfinite (value : Json) (reason : Crash) : Prop :=
  reason = .infiniteVersion ∧ ∃ negative, value = .real (.infinite negative)

theorem checkVersion_refuses (source : Source) (value : Json) :
    Refuses source (IsInfinite value) (checkVersion source value) := by
  refine Refuses.bind ?_ fun version _ => ?_
  · unfold versionOf
    split
    case h_1 => exact .ok _
    case h_2 => exact .ok _
    case h_3 => exact .ok _
    case h_4 negative => exact .crash ⟨rfl, negative, rfl⟩
    case h_5 =>
      split
      · exact .ok _
      · exact .refuse _
    case h_6 => exact .refuse _
  · exact .ite (fun _ => .refuse _) fun _ => .ite (fun _ => .refuse _) fun _ => .ok _

/-! ## The wording -/

/-- A piece of the wording is what the document says, or the usual one if it is silent. -/
def Words (given : Option Json) (usual words : Text) : Prop :=
  given = none ∧ words = usual ∨ given = some (.text words)

theorem checkWords_eq_ok {field : Field} {usual words : Text} {given : Option Json} :
    checkWords source field usual given = .ok words ↔ Words given usual words := by
  unfold checkWords Words
  split
  · simp [eq_comm]
  · simp
  · rename_i other notText
    constructor
    · intro ran
      cases ran
    · rintro (⟨none_, _⟩ | some_)
      · cases none_
      · cases some_
        exact absurd rfl (notText words)

/-- The wording that the members of a global section make. -/
def Worded (members : List (Text × Json)) (wording : Wording) : Prop :=
  Words (Json.find? "prefix_message" members) ({} : Wording).beforeTarget wording.beforeTarget ∧
    Words (Json.find? "suffix_message" members) ({} : Wording).afterTarget wording.afterTarget

theorem checkWording_eq_ok {wording : Wording} :
    checkWording source members = .ok wording ↔ Worded members wording := by
  rw [checkWording]
  dsimp only
  rw [bind_eq_ok]
  constructor
  · rintro ⟨before, ranBefore, rest⟩
    obtain ⟨after, ranAfter, made⟩ := bind_eq_ok.mp rest
    cases made
    exact ⟨checkWords_eq_ok.mp ranBefore, checkWords_eq_ok.mp ranAfter⟩
  · rintro ⟨before, after⟩
    exact ⟨_, checkWords_eq_ok.mpr before,
      bind_eq_ok.mpr ⟨_, checkWords_eq_ok.mpr after, rfl⟩⟩

theorem checkWording_refuses (source : Source) (members : List (Text × Json)) :
    Refuses source (fun _ => False) (checkWording source members) := by
  have words (field : Field) (usual : Text) (given : Option Json) :
      Refuses source (fun _ => False) (checkWords source field usual given) := by
    unfold checkWords
    split
    · exact .ok _
    · exact .ok _
    · exact .refuse _
  exact .bind (words _ _ _) fun _ _ => .bind (words _ _ _) fun _ _ => .ok _

/-! ## Profiles -/

/-- A section makes a profile: it is an object with a description that is not blank, a target that
is not empty and reads as a literal, and an ASCII text. -/
def Describes (section_ : Json) (profile : Profile) : Prop :=
  ∃ members description literal, section_ = .object members ∧
    Json.find? "description" members = some (.text description) ∧
    Text.strip description ≠ [] ∧ profile.description = Text.strip description ∧
    Json.find? "target" members = some (.text literal) ∧
    literal ≠ [] ∧ Target.parse literal = .ok profile.target ∧
    Json.find? "string" members = some (.text profile.text) ∧ profile.text.isAscii = true

theorem checkDescription_eq_ok {words : Text} :
    checkDescription source name value = .ok words ↔
      ∃ description, value = .text description ∧ Text.strip description ≠ [] ∧
        words = Text.strip description := by
  unfold checkDescription
  split
  case h_1 description =>
    dsimp only
    by_cases blank : (Text.strip description).isEmpty = true
    · rw [if_pos blank]
      constructor
      · intro ran
        cases ran
      · rintro ⟨_, ⟨rfl⟩, notBlank, _⟩
        exact absurd (List.isEmpty_iff.mp blank) notBlank
    · rw [if_neg blank]
      constructor
      · intro ran
        cases ran
        exact ⟨description, rfl, fun none_ => blank (List.isEmpty_iff.mpr none_), rfl⟩
      · rintro ⟨_, ⟨rfl⟩, _, rfl⟩
        rfl
  case h_2 notText =>
    constructor
    · intro ran
      cases ran
    · rintro ⟨description, rfl, _⟩
      exact absurd rfl (notText description)

theorem checkTarget_eq_ok {target : CodePoint} :
    checkTarget source name value = .ok target ↔
      ∃ literal, value = .text literal ∧ literal ≠ [] ∧ Target.parse literal = .ok target := by
  unfold checkTarget
  split
  case h_1 =>
    constructor
    · intro ran
      cases ran
    · rintro ⟨_, ⟨rfl⟩, some_, _⟩
      exact absurd rfl some_
  case h_2 literal notEmpty =>
    constructor
    · intro ran
      split at ran
      case h_1 parsed =>
        cases ran
        exact ⟨literal, rfl, fun none_ => notEmpty (by rw [none_]), parsed⟩
      case h_2 => cases ran
      case h_3 => cases ran
    · rintro ⟨_, ⟨rfl⟩, _, parsed⟩
      rw [parsed]
  case h_3 _ notText =>
    constructor
    · intro ran
      cases ran
    · rintro ⟨literal, rfl, _⟩
      exact absurd rfl (notText literal)

theorem checkText_eq_ok {text : Text} :
    checkText source name value = .ok text ↔ value = .text text ∧ text.isAscii = true := by
  unfold checkText
  split
  case h_1 words =>
    by_cases ascii : Text.isAscii words = true
    · rw [if_pos ascii]
      constructor
      · intro ran
        cases ran
        exact ⟨rfl, ascii⟩
      · rintro ⟨⟨rfl⟩, _⟩
        rfl
    · rw [if_neg ascii]
      constructor
      · intro ran
        cases ran
      · rintro ⟨⟨rfl⟩, isAscii⟩
        exact absurd isAscii ascii
  case h_2 notText =>
    constructor
    · intro ran
      cases ran
    · rintro ⟨rfl, _⟩
      exact absurd rfl (notText text)

/-- The code of the target in a section is too long for any sentence. -/
def HasLongCode (section_ : Json) : Prop :=
  ∃ members literal, section_ = .object members ∧
    Json.find? "target" members = some (.text literal) ∧
    Target.parse literal = .error .codeTooLong

theorem missingMembers_eq_nil :
    missingMembers members = [] ↔
      ∀ which : Member, (Json.find? which.name members).isSome = true := by
  rw [missingMembers, List.filter_eq_nil_iff]
  constructor
  · intro none_ which
    have present := none_ which (by cases which <;> decide)
    rw [Option.isNone_iff_eq_none] at present
    exact Option.isSome_iff_ne_none.mpr present
  · intro all which _
    rw [Option.isNone_iff_eq_none]
    exact Option.isSome_iff_ne_none.mp (all which)

/-- A member that is not missing is what is taken for it. -/
theorem find?_of_none_missing (none_ : missingMembers members = []) (which : Member) :
    Json.find? which.name members = some ((Json.find? which.name members).getD .null) := by
  obtain ⟨value, some_⟩ := Option.isSome_iff_exists.mp (missingMembers_eq_nil.mp none_ which)
  rw [some_]
  rfl

theorem checkProfile_eq_ok {profile : Profile} :
    checkProfile source name members = .ok profile ↔ Describes (.object members) profile := by
  rw [checkProfile]
  constructor
  · intro ran
    split at ran
    case h_2 => cases ran
    case h_1 none_ =>
      have found := find?_of_none_missing none_
      obtain ⟨_, ranDescription, rest⟩ := bind_eq_ok.mp ran
      obtain ⟨target, ranTarget, rest⟩ := bind_eq_ok.mp rest
      obtain ⟨text, ranText, made⟩ := bind_eq_ok.mp rest
      cases made
      obtain ⟨description, isDescription, notBlank, rfl⟩ := checkDescription_eq_ok.mp ranDescription
      obtain ⟨literal, isTarget, some_, parsed⟩ := checkTarget_eq_ok.mp ranTarget
      obtain ⟨isText, ascii⟩ := checkText_eq_ok.mp ranText
      refine ⟨members, description, literal, rfl, ?_, notBlank, rfl, ?_, some_, parsed, ?_, ascii⟩
      · rw [← isDescription]
        exact found .description
      · rw [← isTarget]
        exact found .target
      · rw [← isText]
        exact found .text
  · rintro ⟨_, description, literal, ⟨rfl⟩, isDescription, notBlank, made, isTarget, some_, parsed,
      isText, ascii⟩
    obtain ⟨_, target, text⟩ := profile
    dsimp only at made parsed isText ascii
    subst made
    change Json.find? Member.description.name members = _ at isDescription
    change Json.find? Member.target.name members = _ at isTarget
    change Json.find? Member.text.name members = _ at isText
    have none_ : missingMembers members = [] := by
      refine missingMembers_eq_nil.mpr fun which => ?_
      cases which with
      | description => rw [isDescription, Option.isSome_some]
      | target => rw [isTarget, Option.isSome_some]
      | text => rw [isText, Option.isSome_some]
    rw [none_]
    dsimp only
    refine bind_eq_ok.mpr ⟨Text.strip description, ?_, bind_eq_ok.mpr ⟨target, ?_,
      bind_eq_ok.mpr ⟨text, ?_, rfl⟩⟩⟩
    · rw [isDescription, Option.getD_some]
      exact checkDescription_eq_ok.mpr ⟨description, rfl, notBlank, rfl⟩
    · rw [isTarget, Option.getD_some]
      exact checkTarget_eq_ok.mpr ⟨literal, rfl, some_, parsed⟩
    · rw [isText, Option.getD_some]
      exact checkText_eq_ok.mpr ⟨rfl, ascii⟩

theorem checkTarget_refuses (source : Source) (name : Text) (value : Json) :
    Refuses source
      (fun reason => reason = .integerTooLong ∧
        ∃ literal, value = .text literal ∧ Target.parse literal = .error .codeTooLong)
      (checkTarget source name value) := by
  unfold checkTarget
  split
  case h_1 => exact .refuse _
  case h_2 literal _ =>
    split
    case h_1 => exact .ok _
    case h_2 => exact .refuse _
    case h_3 long => exact .crash ⟨rfl, literal, rfl, long⟩
  case h_3 => exact .refuse _

theorem checkDescription_refuses (source : Source) (name : Text) (value : Json) :
    Refuses source (fun _ => False) (checkDescription source name value) := by
  unfold checkDescription
  split
  · exact .ite (fun _ => .refuse _) fun _ => .ok _
  · exact .refuse _

theorem checkText_refuses (source : Source) (name : Text) (value : Json) :
    Refuses source (fun _ => False) (checkText source name value) := by
  unfold checkText
  split
  · exact .ite (fun _ => .ok _) fun _ => .refuse _
  · exact .refuse _

theorem checkProfile_refuses (source : Source) (name : Text) (members : List (Text × Json)) :
    Refuses source (fun reason => reason = .integerTooLong ∧ HasLongCode (.object members))
      (checkProfile source name members) := by
  rw [checkProfile]
  split
  case h_2 => exact .refuse _
  case h_1 none_ =>
    refine .bind ((checkDescription_refuses source name _).weaken fun _ => False.elim) fun _ _ =>
      .bind ?_ fun _ _ =>
      .bind ((checkText_refuses source name _).weaken fun _ => False.elim) fun _ _ => .ok _
    refine (checkTarget_refuses source name _).weaken ?_
    rintro reason ⟨isLong, literal, given, long⟩
    obtain ⟨value, found⟩ := Option.isSome_iff_exists.mp (missingMembers_eq_nil.mp none_ .target)
    dsimp only at given
    rw [found, Option.getD_some] at given
    rw [given] at found
    exact ⟨isLong, members, literal, rfl, found, long⟩

/-- Overrides that say nothing change nothing. -/
theorem overlay_null (members : List (Text × Json)) : overlay members .null = .ok members := rfl

/-- A section and the entry that it makes. -/
def Makes (section_ : Text × Json) (entry : Text × Profile) : Prop :=
  entry.1 = section_.1 ∧ Describes section_.2 entry.2

/-- The first of the sections is checked, and then the others. -/
theorem checkProfiles_cons (source : Source) (wanted : Option Text) (name : Text)
    (members rest : List (Text × Json)) :
    checkProfiles source wanted .null ((name, .object members) :: rest) = do
      let profile ← checkProfile source name members
      let more ← checkProfiles source wanted .null rest
      return (name, profile) :: more := by
  rw [checkProfiles, overlay_null, ite_self]
  rfl

/-- A section that is no object is refused. -/
theorem checkProfiles_of_not_object {rest : List (Text × Json)}
    (isNot : ∀ members, value ≠ .object members) (part : Json) :
    checkProfiles source wanted part ((name, value) :: rest) =
      refuse source (.notAnObject name) := by
  rw [checkProfiles]
  intro members same
  exact isNot members same

theorem checkProfiles_eq_ok {sections : List (Text × Json)} {profiles : List (Text × Profile)} :
    checkProfiles source wanted .null sections = .ok profiles ↔
      List.Forall₂ Makes sections profiles := by
  induction sections generalizing profiles with
  | nil =>
    constructor
    · intro ran
      cases ran
      exact .nil
    · intro all
      cases all
      rfl
  | cons entry rest ih =>
    obtain ⟨name, value⟩ := entry
    by_cases isObject : ∃ members, value = .object members
    · obtain ⟨members, rfl⟩ := isObject
      rw [checkProfiles_cons]
      constructor
      · intro ran
        obtain ⟨profile, ranProfile, ran⟩ := bind_eq_ok.mp ran
        obtain ⟨others, ranOthers, made⟩ := bind_eq_ok.mp ran
        cases made
        exact .cons ⟨rfl, checkProfile_eq_ok.mp ranProfile⟩ (ih.mp ranOthers)
      · intro all
        cases all with
        | cons first others =>
          rename_i entry entries
          obtain ⟨_, profile⟩ := entry
          obtain ⟨same, describes⟩ := first
          cases same
          exact bind_eq_ok.mpr ⟨profile, checkProfile_eq_ok.mpr describes,
            bind_eq_ok.mpr ⟨entries, ih.mpr others, rfl⟩⟩
    · rw [checkProfiles_of_not_object fun members same => isObject ⟨members, same⟩]
      constructor
      · intro ran
        cases ran
      · intro all
        cases all with
        | cons first _ =>
          obtain ⟨_, members, _, _, same, _⟩ := first
          exact absurd ⟨members, same⟩ isObject

theorem checkProfiles_refuses (source : Source) (wanted : Option Text)
    (sections : List (Text × Json)) :
    Refuses source
      (fun reason => reason = .integerTooLong ∧ ∃ entry ∈ sections, HasLongCode entry.2)
      (checkProfiles source wanted .null sections) := by
  induction sections with
  | nil => exact .ok _
  | cons entry rest ih =>
    obtain ⟨name, value⟩ := entry
    by_cases isObject : ∃ members, value = .object members
    · obtain ⟨members, rfl⟩ := isObject
      rw [checkProfiles_cons]
      refine .bind ((checkProfile_refuses source name members).weaken ?_) fun _ _ =>
        .bind (ih.weaken ?_) fun _ _ => .ok _
      · rintro reason ⟨isLong, long⟩
        exact ⟨isLong, (name, .object members), List.mem_cons_self, long⟩
      · rintro reason ⟨isLong, entry, member, long⟩
        exact ⟨isLong, entry, List.mem_cons_of_mem _ member, long⟩
    · rw [checkProfiles_of_not_object fun members same => isObject ⟨members, same⟩]
      exact .refuse _

/-! ## The document -/

/-- A profile that is asked for by a name other than the empty one is among the names. -/
def Offers (wanted : Option Text) (names : List Text) : Prop :=
  ∀ name, wanted = some name → name = [] ∨ name ∈ names

theorem isSome_lookup {α : Type} {entries : List (Text × α)} :
    (entries.lookup name).isSome = true ↔ name ∈ entries.map (·.1) := by
  induction entries with
  | nil => simp
  | cons entry rest ih =>
    obtain ⟨known, value⟩ := entry
    by_cases same : name = known
    · simp [same]
    · rw [List.lookup_cons, beq_false_of_ne same, List.map_cons, List.mem_cons]
      simp only [same, false_or]
      exact ih

theorem checkWanted_eq_ok {profiles : List (Text × Profile)} :
    checkWanted source wanted profiles = .ok () ↔ Offers wanted (profiles.map (·.1)) := by
  rcases wanted with _ | _ | ⟨c, letters⟩
  · exact ⟨fun _ _ none_ => (nomatch none_), fun _ => rfl⟩
  · refine ⟨fun _ name same => ?_, fun _ => rfl⟩
    cases same
    exact Or.inl rfl
  · rw [checkWanted]
    by_cases found : (profiles.lookup (c :: letters)).isSome = true
    · rw [if_pos found]
      refine ⟨fun _ name same => ?_, fun _ => rfl⟩
      cases same
      exact Or.inr (isSome_lookup.mp found)
    · rw [if_neg found]
      constructor
      · intro ran
        cases ran
      · intro offers
        rcases offers _ rfl with none_ | member
        · cases none_
        · exact absurd (isSome_lookup.mpr member) found
    · simp

theorem checkWanted_refuses (source : Source) (wanted : Option Text)
    (profiles : List (Text × Profile)) :
    Refuses source (fun _ => False) (checkWanted source wanted profiles) := by
  unfold checkWanted
  split
  · exact .ok _
  · exact .ok _
  · exact .ite (fun _ => .ok _) fun _ => .refuse _

/-- What is loaded from the members of a document. -/
structure Loaded (source : Source) (wanted : Option Text) (raw : List (Text × Json))
    (document : Document) : Prop where
  source_eq : document.source = source
  version_eq : document.version = 1
  version : ∃ value, Json.find? "version" raw = some value ∧ Denotes value 1
  wording : ∃ general, Json.find? "global" raw = some (.object general) ∧
    Worded general document.wording
  profiles : ∃ sections, Json.find? "profiles" raw = some (.object sections) ∧ sections ≠ [] ∧
    List.Forall₂ Makes sections document.profiles
  offers : Offers wanted (document.profiles.map (·.1))

theorem membersOf?_eq_some {given : Option Json} :
    membersOf? given = some members ↔ given = some (.object members) := by
  unfold membersOf?
  split
  · simp
  · rename_i notObject
    constructor
    · intro none_
      cases none_
    · rintro rfl
      exact absurd rfl (notObject members)

/-- What is taken for a member is the member, unless it is missing. -/
theorem find?_of_getD (taken : (Json.find? name members).getD .null = value)
    (some_ : value ≠ .null) : Json.find? name members = some value := by
  cases found : Json.find? name members with
  | none =>
    rw [found] at taken
    exact absurd taken.symm some_
  | some member =>
    rw [found, Option.getD_some] at taken
    rw [taken]

/-- What is done with a document that has a global section and sections for profiles. -/
theorem ofJson_of_sections {overrides : Json} {general sections : List (Text × Json)}
    (isGlobal : Json.find? "global" raw = some (.object general))
    (isProfiles : Json.find? "profiles" raw = some (.object sections)) (some_ : sections ≠ []) :
    ofJson source wanted overrides (.object raw) = do
      let version ← checkVersion source ((Json.find? "version" raw).getD .null)
      let general ← overlay general (← overridePart overrides "global")
      let wording ← checkWording source general
      let part ← overridePart overrides "profile"
      let profiles ← checkProfiles source wanted part sections
      checkWanted source wanted profiles
      return ⟨source, version, wording, profiles⟩ := by
  rw [ofJson, membersOf?_eq_some.mpr isGlobal, membersOf?_eq_some.mpr isProfiles]
  cases sections with
  | nil => exact absurd rfl some_
  | cons first others => rfl

/-- What is done when everything in front of the profiles has passed. -/
theorem ofJson_of_passed {general sections : List (Text × Json)} {wording : Wording}
    (version : ∃ value, Json.find? "version" raw = some value ∧ Denotes value 1)
    (isGlobal : Json.find? "global" raw = some (.object general))
    (worded : Worded general wording)
    (isProfiles : Json.find? "profiles" raw = some (.object sections)) (some_ : sections ≠ []) :
    ofJson source wanted .null (.object raw) = do
      let profiles ← checkProfiles source wanted .null sections
      checkWanted source wanted profiles
      return ⟨source, 1, wording, profiles⟩ := by
  obtain ⟨value, isVersion, denotes⟩ := version
  have ranVersion : checkVersion source ((Json.find? "version" raw).getD .null) = .ok 1 := by
    rw [isVersion, Option.getD_some]
    exact checkVersion_eq_ok.mpr ⟨rfl, denotes⟩
  rw [ofJson_of_sections isGlobal isProfiles some_, ranVersion]
  -- Overrides that say nothing are laid over the global section.
  change (do
    let wording ← checkWording source general
    let profiles ← checkProfiles source wanted .null sections
    checkWanted source wanted profiles
    return (⟨source, 1, wording, profiles⟩ : Document)) = _
  rw [checkWording_eq_ok.mpr worded]
  rfl

theorem ofJson_eq_ok {document : Document} :
    ofJson source wanted .null (.object raw) = .ok document ↔
      Loaded source wanted raw document := by
  constructor
  · intro ran
    rw [ofJson] at ran
    obtain ⟨version, ranVersion, ran⟩ := bind_eq_ok.mp ran
    obtain ⟨rfl, denotes⟩ := checkVersion_eq_ok.mp ranVersion
    split at ran
    case h_1 => cases ran
    case h_2 general isGlobal =>
      obtain ⟨_, ⟨rfl⟩, ran⟩ := bind_eq_ok.mp ran
      obtain ⟨_, laid, ran⟩ := bind_eq_ok.mp ran
      cases (overlay_null general).symm.trans laid
      obtain ⟨wording, ranWording, ran⟩ := bind_eq_ok.mp ran
      split at ran
      case h_1 => cases ran
      case h_2 => cases ran
      case h_3 sections some_ isProfiles =>
        obtain ⟨_, ⟨rfl⟩, ran⟩ := bind_eq_ok.mp ran
        obtain ⟨profiles, ranProfiles, ran⟩ := bind_eq_ok.mp ran
        obtain ⟨_, ranWanted, made⟩ := bind_eq_ok.mp ran
        cases made
        refine ⟨rfl, rfl, ⟨_, find?_of_getD rfl ?_, denotes⟩, ⟨general,
          membersOf?_eq_some.mp isGlobal, checkWording_eq_ok.mp ranWording⟩, ⟨sections,
          membersOf?_eq_some.mp isProfiles, fun none_ => some_ (by rw [none_]),
          checkProfiles_eq_ok.mp ranProfiles⟩, checkWanted_eq_ok.mp ranWanted⟩
        intro null_
        rw [null_] at denotes
        cases denotes
  · rintro ⟨rfl, versionIs, version, ⟨general, isGlobal, worded⟩,
      ⟨sections, isProfiles, some_, made⟩, offers⟩
    obtain ⟨source, _, wording, profiles⟩ := document
    dsimp only at versionIs worded made offers ⊢
    subst versionIs
    rw [ofJson_of_passed version isGlobal worded isProfiles some_]
    exact bind_eq_ok.mpr ⟨profiles, checkProfiles_eq_ok.mpr made,
      bind_eq_ok.mpr ⟨(), checkWanted_eq_ok.mpr offers, rfl⟩⟩

/-- What is no object crashes before the first check. -/
theorem ofJson_of_not_object (isNot : ∀ members, value ≠ .object members) (source : Source)
    (wanted : Option Text) (overrides : Json) :
    ofJson source wanted overrides value = .error (.crash (.notAnObject value.kind)) := by
  cases value with
  | object members => exact absurd rfl (isNot members)
  | null => rfl
  | bool value => rfl
  | integer value => rfl
  | real value => rfl
  | text value => rfl
  | array items => rfl

/-- Why a value crashes the checks instead of being refused. -/
inductive Crashes (value : Json) : Crash → Prop
  | notAnObject (isNot : ∀ members, value ≠ .object members) :
      Crashes value (.notAnObject value.kind)
  | infiniteVersion {members : List (Text × Json)} {negative : Bool}
      (isObject : value = .object members)
      (infinite : Json.find? "version" members = some (.real (.infinite negative))) :
      Crashes value .infiniteVersion
  | longCode {members sections : List (Text × Json)} {entry : Text × Json}
      (isObject : value = .object members)
      (isProfiles : Json.find? "profiles" members = some (.object sections))
      (member : entry ∈ sections) (long : HasLongCode entry.2) : Crashes value .integerTooLong

/-- A value that is not accepted is refused with a problem of its source, but for three kinds of
values that crash the checks. -/
theorem ofJson_refuses (source : Source) (wanted : Option Text) (value : Json) :
    Refuses source (Crashes value) (ofJson source wanted .null value) := by
  by_cases isObject : ∃ members, value = .object members
  · obtain ⟨members, rfl⟩ := isObject
    rw [ofJson]
    refine .bind ((checkVersion_refuses source _).weaken ?_) fun _ _ => ?_
    · rintro reason ⟨rfl, negative, infinite⟩
      exact .infiniteVersion rfl (find?_of_getD infinite nofun)
    · split
      case h_1 => exact .refuse _
      case h_2 general _ =>
        refine .bind (.ok _) ?_
        rintro _ ⟨rfl⟩
        rw [overlay_null]
        refine .bind (.ok _) fun _ _ =>
          .bind ((checkWording_refuses source _).weaken fun _ => False.elim) fun _ _ => ?_
        split
        case h_1 => exact .refuse _
        case h_2 => exact .refuse _
        case h_3 sections _ isProfiles =>
          refine .bind (.ok _) ?_
          rintro _ ⟨rfl⟩
          refine .bind ((checkProfiles_refuses source wanted sections).weaken ?_) fun _ _ =>
            .bind ((checkWanted_refuses source wanted _).weaken fun _ => False.elim) fun _ _ =>
            .ok _
          rintro reason ⟨rfl, entry, member, long⟩
          exact .longCode rfl (membersOf?_eq_some.mp isProfiles) member long
  · have isNot : ∀ members, value ≠ .object members :=
      fun members same => isObject ⟨members, same⟩
    rw [ofJson_of_not_object isNot]
    exact .crash (.notAnObject isNot)

/-! ## What is accepted -/

/-- A member is a text, or it is not there. -/
def TextIfPresent (name : Text) (members : List (Text × Json)) : Prop :=
  ∀ value, Json.find? name members = some value → ∃ words, value = .text words

/-- What the members of a document have to be to be accepted, when a profile is asked for. -/
structure Acceptable (wanted : Option Text) (raw : List (Text × Json)) : Prop where
  version : ∃ value, Json.find? "version" raw = some value ∧ Denotes value 1
  wording : ∃ general, Json.find? "global" raw = some (.object general) ∧
    TextIfPresent "prefix_message" general ∧ TextIfPresent "suffix_message" general
  profiles : ∃ sections, Json.find? "profiles" raw = some (.object sections) ∧ sections ≠ [] ∧
    (∀ entry ∈ sections, ∃ profile, Describes entry.2 profile) ∧
    Offers wanted (sections.map (·.1))

theorem exists_words {usual : Text} :
    (∃ words, Words (Json.find? name members) usual words) ↔ TextIfPresent name members := by
  unfold Words TextIfPresent
  cases Json.find? name members with
  | none => simp
  | some value => simp

/-- Sections make profiles when each of them describes one. -/
theorem exists_profiles {sections : List (Text × Json)} :
    (∃ profiles, List.Forall₂ Makes sections profiles) ↔
      ∀ entry ∈ sections, ∃ profile, Describes entry.2 profile := by
  induction sections with
  | nil => exact ⟨fun _ => List.forall_mem_nil _, fun _ => ⟨[], .nil⟩⟩
  | cons first rest ih =>
    rw [List.forall_mem_cons, ← ih]
    constructor
    · rintro ⟨_, all⟩
      cases all with
      | cons made others => exact ⟨⟨_, made.2⟩, _, others⟩
    · rintro ⟨⟨profile, describes⟩, profiles, others⟩
      exact ⟨(first.1, profile) :: profiles, .cons ⟨rfl, describes⟩ others⟩

/-- Profiles have the names of the sections that make them. -/
theorem names_of_makes {sections : List (Text × Json)} {profiles : List (Text × Profile)}
    (made : List.Forall₂ Makes sections profiles) :
    profiles.map (·.1) = sections.map (·.1) := by
  induction made with
  | nil => rfl
  | cons first _ ih => rw [List.map_cons, List.map_cons, first.1, ih]

/-- Each profile is made by a section of its name. -/
theorem section_of_makes {sections : List (Text × Json)} {profiles : List (Text × Profile)}
    {profile : Profile} (made : List.Forall₂ Makes sections profiles)
    (member : (name, profile) ∈ profiles) :
    ∃ section_, (name, section_) ∈ sections ∧ Describes section_ profile := by
  induction made with
  | nil => cases member
  | cons first _ ih =>
    rename_i entry made others profiles _
    rcases List.mem_cons.mp member with rfl | later
    · obtain ⟨_, section_⟩ := entry
      obtain ⟨same, describes⟩ := first
      cases same
      exact ⟨section_, List.mem_cons_self, describes⟩
    · obtain ⟨section_, among, describes⟩ := ih later
      exact ⟨section_, List.mem_cons_of_mem _ among, describes⟩

theorem exists_loaded :
    (∃ document, Loaded source wanted raw document) ↔ Acceptable wanted raw := by
  constructor
  · rintro ⟨document, _, _, version, ⟨general, isGlobal, before, after⟩,
      ⟨sections, isProfiles, some_, made⟩, offers⟩
    rw [names_of_makes made] at offers
    exact ⟨version, ⟨general, isGlobal, exists_words.mp ⟨_, before⟩, exists_words.mp ⟨_, after⟩⟩,
      sections, isProfiles, some_, exists_profiles.mp ⟨_, made⟩, offers⟩
  · rintro ⟨version, ⟨general, isGlobal, before, after⟩, sections, isProfiles, some_, describe,
      offers⟩
    obtain ⟨beforeTarget, isBefore⟩ := exists_words.mpr before
    obtain ⟨afterTarget, isAfter⟩ := exists_words.mpr after
    obtain ⟨profiles, made⟩ := exists_profiles.mpr describe
    rw [← names_of_makes made] at offers
    exact ⟨⟨source, 1, ⟨beforeTarget, afterTarget⟩, profiles⟩, rfl, rfl, version,
      ⟨general, isGlobal, isBefore, isAfter⟩, ⟨sections, isProfiles, some_, made⟩, offers⟩

/-! ## What a file writes -/

/-- What a source writes down, with every member of every object. -/
def Writes (files : Files) (source : Source) (tree : Json) : Prop :=
  match source with
  | .bundled => tree = bundled
  | .file path => ∃ bytes text, files.read path = .ok bytes ∧ Utf8.decode bytes = .ok text ∧
      Json.Spells text.unifyNewlines tree

/-- What is read from bytes is what their text is read as, with its line ends unified. -/
theorem readJson_eq_ok {bytes : List UInt8} : readJson source bytes = .ok value ↔
    ∃ text, Utf8.decode bytes = .ok text ∧ Json.read text.unifyNewlines = .ok value := by
  unfold readJson
  cases decoded : Utf8.decode bytes with
  | error fault => simp
  | ok text =>
    dsimp only
    constructor
    · intro read
      split at read
      case h_1 parsed =>
        cases read
        exact ⟨text, rfl, parsed⟩
      case h_2 => cases read
      case h_3 => cases read
      case h_4 => cases read
    · rintro ⟨_, ⟨rfl⟩, parsed⟩
      rw [parsed]

/-- What is read from a file is what its bytes are read as. -/
theorem readSource_eq_ok {files : Files} {path : FilePath} :
    readSource files (.file path) = .ok value ↔
      ∃ bytes, files.read path = .ok bytes ∧ readJson (.file path) bytes = .ok value := by
  unfold readSource
  dsimp only
  cases found : files.read path with
  | ok bytes => simp
  | error fault =>
    rcases fault with ⟨where_, what⟩ | _
    · cases what <;> simp [refuse]
    · simp

/-- What is read from a source is what it writes down. -/
theorem writes_of_readSource {files : Files} (read : readSource files source = .ok value) :
    (∃ tree, Writes files source tree) ∧
      ∀ tree, Writes files source tree → tree.merged = value := by
  cases source with
  | bundled =>
    cases read
    refine ⟨⟨bundled, rfl⟩, ?_⟩
    rintro _ rfl
    rfl
  | file path =>
    obtain ⟨bytes, found, read⟩ := readSource_eq_ok.mp read
    obtain ⟨text, decoded, parsed⟩ := readJson_eq_ok.mp read
    obtain ⟨⟨tree, spells⟩, only⟩ := Json.spells_of_read parsed
    refine ⟨⟨tree, bytes, text, found, decoded, spells⟩, ?_⟩
    rintro other ⟨bytes', text', found', decoded', spells'⟩
    cases found.symm.trans found'
    cases decoded.symm.trans decoded'
    exact only other spells'

/-- The profiles of a document are those that a source writes down: in the order in which it names
them first, each of them as it is written last. -/
def Lists (tree : Json) (profiles : List (Text × Profile)) : Prop :=
  ∃ members sections, tree = .object members ∧
    Json.find? "profiles" members.reverse = some (.object sections) ∧
    profiles.map (·.1) = (sections.map (·.1)).eraseDups ∧
    ∀ name profile, (name, profile) ∈ profiles →
      ∃ section_, Json.find? name sections.reverse = some section_ ∧
        Describes section_.merged profile

/-- In merged members, each name is found with the value that stands under it. -/
theorem find?_of_mem_merged {written : List (Text × Json)} {section_ : Json}
    (member : (name, section_) ∈ Json.putAll [] (Json.mergedMembers written)) :
    ∃ last, Json.find? name written.reverse = some last ∧ last.merged = section_ := by
  have found : Json.find? name (Json.putAll [] (Json.mergedMembers written)) = some section_ :=
    Json.find?_of_mem (Json.nodup_names_putAll _) member
  rw [Json.find?_merged, Option.map_eq_some_iff] at found
  exact found

/-- No name stands twice in an object that is a member of a document. -/
theorem nodup_names_of_readSource {files : Files}
    (read : readSource files source = .ok (.object raw))
    (found : Json.find? name raw = some (.object members)) : (members.map (·.1)).Nodup := by
  rcases writes_of_readSource read with ⟨⟨tree, writes⟩, merged⟩
  rcases Json.merged_eq_object (merged tree writes) with ⟨written, _, rfl⟩
  rw [Json.find?_merged, Option.map_eq_some_iff] at found
  rcases found with ⟨last, _, isObject⟩
  rcases Json.merged_eq_object isObject with ⟨entries, _, rfl⟩
  exact Json.nodup_names_putAll _

/-- The profiles of a document that is loaded are those that are written down. -/
theorem Loaded.lists {document : Document} {tree : Json}
    (loaded : Loaded source wanted raw document) (writes : tree.merged = .object raw) :
    Lists tree document.profiles := by
  obtain ⟨written, rfl, rfl⟩ := Json.merged_eq_object writes
  obtain ⟨sections, isProfiles, _, made⟩ := loaded.profiles
  rw [Json.find?_merged, Option.map_eq_some_iff] at isProfiles
  obtain ⟨last, isLast, isObject⟩ := isProfiles
  obtain ⟨entries, rfl, rfl⟩ := Json.merged_eq_object isObject
  refine ⟨written, entries, rfl, isLast, ?_, ?_⟩
  · rw [names_of_makes made, Json.names_putAll, Json.names_mergedMembers]
  · intro name profile member
    obtain ⟨section_, isSection, describes⟩ := section_of_makes made member
    obtain ⟨section_', found, rfl⟩ := find?_of_mem_merged isSection
    exact ⟨section_', found, describes⟩

/-- What is loaded is read as an object. -/
theorem exists_readSource_of_load {files : Files} {overrides : Json} {document : Document}
    (loaded : load files source wanted overrides = .ok document) :
    ∃ raw, readSource files source = .ok (.object raw) := by
  obtain ⟨value, read, made⟩ := bind_eq_ok.mp loaded
  cases value with
  | object raw => exact ⟨raw, read⟩
  | null => cases made
  | bool value => cases made
  | integer value => cases made
  | real value => cases made
  | text value => cases made
  | array items => cases made

/-- What is loaded is read as an object, and is what is loaded from its members. -/
theorem load_eq_ok {files : Files} {document : Document} :
    load files source wanted = .ok document ↔
      ∃ raw, readSource files source = .ok (.object raw) ∧
        Loaded source wanted raw document := by
  constructor
  · intro ran
    obtain ⟨raw, read⟩ := exists_readSource_of_load ran
    rw [load, read] at ran
    exact ⟨raw, read, ofJson_eq_ok.mp ran⟩
  · rintro ⟨raw, read, loaded⟩
    exact bind_eq_ok.mpr ⟨_, read, ofJson_eq_ok.mpr loaded⟩

/-- **Which documents are loaded.** An object that is read from a source is loaded exactly if it is
acceptable, every profile included. What is loaded has version one, the wording of the document,
and the profiles that the source writes down, each name where it stands first, with what stands
under it last. A fault of loading is a problem of the source, with the code for settings. -/
theorem load_accepts {files : Files} (read : readSource files source = .ok (.object raw))
    (wanted : Option Text) :
    ((∃ document, load files source wanted = .ok document) ↔ Acceptable wanted raw) ∧
      (∃ tree, Writes files source tree) ∧
      (∀ document, load files source wanted = .ok document →
        Loaded source wanted raw document ∧
          ∀ tree, Writes files source tree → Lists tree document.profiles) ∧
      (∀ fault, load files source wanted = .error (.reported fault) →
        fault.code = .config ∧ ∃ problem, fault = .settings source problem) := by
  have load_eq : load files source wanted = ofJson source wanted .null (.object raw) := by
    rw [load, read]
    rfl
  obtain ⟨written, merged⟩ := writes_of_readSource read
  simp only [load_eq, ofJson_eq_ok]
  refine ⟨exists_loaded, written, ?_, ?_⟩
  · intro document loaded
    exact ⟨loaded, fun tree writes => loaded.lists (merged tree writes)⟩
  · intro fault failed
    rcases ofJson_refuses source wanted _ _ failed with ⟨problem, same⟩ | ⟨crash, same, _⟩
    · cases same
      exact ⟨rfl, problem, rfl⟩
    · cases same

/-- A document that names a profile twice, and says nothing of it the first time. -/
def repeating : Text :=
  "\x7b\"version\": 1.5, \"global\": \x7b\"suffix_message\": \" in \"\x7d, " ++
    "\"profiles\": \x7b\"a\": null, " ++
    "\"b\": \x7b\"description\": \" b \", \"target\": \"x6C\", \"string\": \"\"\x7d, " ++
    "\"a\": \x7b\"description\": \"a\", \"target\": \"l\", \"string\": \"ll\"\x7d\x7d\x7d"

/-- It is loaded with the profile in its first place, as it is written the second time. -/
theorem load_accepts_repeating :
    let files : Files := { entries := [([['c']], .document (Utf8.encode repeating))] }
    let source : Source := .file ⟨[], [['c']]⟩
    let profiles : List (Text × Profile) := [("a", ⟨"a", 'l', "ll"⟩), ("b", ⟨"b", 'l', ""⟩)]
    ∃ raw, readSource files source = .ok (.object raw) ∧ Acceptable (some ['b']) raw ∧
      ∃ tree, Writes files source tree ∧ Lists tree profiles := by
  intro files source profiles
  have loaded : load files source (some ['b']) =
      .ok ⟨source, 1, { afterTarget := " in " }, profiles⟩ := by
    decide +kernel
  obtain ⟨raw, read⟩ := exists_readSource_of_load loaded
  obtain ⟨accepts, ⟨tree, writes⟩, makes, _⟩ := load_accepts read (some ['b'])
  exact ⟨raw, read, accepts.mp ⟨_, loaded⟩, tree, writes, (makes _ loaded).2 tree writes⟩

end CharTally.Settings
