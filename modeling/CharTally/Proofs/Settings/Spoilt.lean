import CharTally.Proofs.Settings.Crash
import CharTally.Proofs.Target

/-!
# Which files crash the loading of settings

A settings file that can be read is loaded, or refused with a problem that it has, or it
crashes the loading. The crashes are told exactly: `Trips` says which values crash the
checks, and `Spoils` which bytes crash the loading. Checks are made in a row and the first
that fails ends it, so a target crashes them only if everything that is checked in front of
it passes (`checkProfiles_of_overlong`, `exists_overlong`). `load_told_unless_spoilt` states
that there is nothing else, and that each of these does crash.
-/

namespace CharTally.Settings

variable {files : Files} {path : FilePath} {source : Source} {wanted : Option Text} {name : Text}
  {value : Json} {bytes : List UInt8} {crash : Crash}
  {members raw sections : List (Text × Json)}

/-! ## Checks that crash -/

/-- A section that has all its members, and passes until its target, whose code is huge, is read. -/
def Overlong (section_ : Json) : Prop :=
  ∃ members words literal, section_ = .object members ∧
    Json.find? "description" members = some (.text words) ∧ Text.strip words ≠ [] ∧
    Json.find? "target" members = some (.text literal) ∧ Target.HasHugeCode literal ∧
    (Json.find? "string" members).isSome = true

theorem checkTarget_of_huge {literal : Text} (huge : Target.HasHugeCode literal)
    (source : Source) (name : Text) :
    checkTarget source name (.text literal) = .error (.crash .integerTooLong) := by
  have long := Target.parse_eq_codeTooLong.mpr huge
  cases literal with
  | nil => cases long
  | cons c letters => simp only [checkTarget, long]

/-- A section crashes its check exactly if it is overlong. -/
theorem checkProfile_eq_crash :
    checkProfile source name members = .error (.crash crash) ↔
      crash = .integerTooLong ∧ Overlong (.object members) := by
  rw [checkProfile]
  constructor
  · intro failed
    split at failed
    case h_2 => cases failed
    case h_1 none_ =>
      have found := find?_of_none_missing none_
      rcases bind_eq_error.mp failed with failed | ⟨_, ranDescription, failed⟩
      · exact ((checkDescription_refuses _ _ _).allows failed).elim
      rcases bind_eq_error.mp failed with failed | ⟨_, _, failed⟩
      · rcases (checkTarget_refuses _ _ _).allows failed with ⟨isLong, literal, isTarget, long⟩
        rcases checkDescription_eq_ok.mp ranDescription with ⟨words, isDescription, notBlank, _⟩
        refine ⟨isLong, members, words, literal, rfl, ?_, notBlank, ?_,
          Target.parse_eq_codeTooLong.mp long, missingMembers_eq_nil.mp none_ .text⟩
        · rw [← isDescription]
          exact found .description
        · rw [← isTarget]
          exact found .target
      rcases bind_eq_error.mp failed with failed | ⟨_, _, failed⟩
      · exact ((checkText_refuses _ _ _).allows failed).elim
      · cases failed
  · rintro ⟨rfl, _, words, literal, ⟨rfl⟩, isDescription, notBlank, isTarget, huge, isText⟩
    change Json.find? Member.description.name members = _ at isDescription
    change Json.find? Member.target.name members = _ at isTarget
    have none_ : missingMembers members = [] := by
      apply missingMembers_eq_nil.mpr
      intro which
      cases which with
      | description => rw [isDescription, Option.isSome_some]
      | target => rw [isTarget, Option.isSome_some]
      | text => exact isText
    rw [none_]
    dsimp only
    rw [isDescription, isTarget]
    apply bind_eq_error.mpr
    refine Or.inr ⟨Text.strip words, ?_, bind_eq_error.mpr (Or.inl ?_)⟩
    · exact checkDescription_eq_ok.mpr ⟨words, rfl, notBlank, rfl⟩
    · exact checkTarget_of_huge huge source name

/-- If checking profiles crashes, the first that is not described is overlong. -/
theorem exists_overlong
    (failed : checkProfiles source wanted .null sections = .error (.crash crash)) :
    crash = .integerTooLong ∧ ∃ front entry behind, sections = front ++ entry :: behind ∧
      (∀ earlier ∈ front, ∃ profile, Describes earlier.2 profile) ∧ Overlong entry.2 := by
  induction sections with
  | nil => cases failed
  | cons first rest ih =>
    rcases first with ⟨name, value⟩
    by_cases isObject : ∃ members, value = .object members
    · rcases isObject with ⟨members, rfl⟩
      rw [checkProfiles_cons] at failed
      rcases bind_eq_error.mp failed with failed | ⟨profile, ranProfile, failed⟩
      · rcases checkProfile_eq_crash.mp failed with ⟨isLong, overlong⟩
        exact ⟨isLong, [], _, rest, rfl, List.forall_mem_nil _, overlong⟩
      rcases bind_eq_error.mp failed with failed | ⟨_, _, failed⟩
      · rcases ih failed with ⟨isLong, front, entry, behind, rfl, described, overlong⟩
        refine ⟨isLong, _ :: front, entry, behind, rfl, ?_, overlong⟩
        exact List.forall_mem_cons.mpr ⟨⟨profile, checkProfile_eq_ok.mp ranProfile⟩, described⟩
      · cases failed
    · rw [checkProfiles_of_not_object fun members same => isObject ⟨members, same⟩] at failed
      cases failed

/-- An overlong section behind profiles that are described crashes the check of them all. -/
theorem checkProfiles_of_overlong {front behind : List (Text × Json)} {entry : Text × Json}
    (described : ∀ earlier ∈ front, ∃ profile, Describes earlier.2 profile)
    (overlong : Overlong entry.2) (source : Source) (wanted : Option Text) :
    checkProfiles source wanted .null (front ++ entry :: behind) =
      .error (.crash .integerTooLong) := by
  induction front with
  | nil =>
    rcases entry with ⟨name, value⟩
    have isObject : ∃ members, value = .object members := by
      rcases overlong with ⟨members, _, _, same, _⟩
      exact ⟨members, same⟩
    rcases isObject with ⟨members, rfl⟩
    rw [List.nil_append, checkProfiles_cons]
    exact bind_eq_error.mpr (Or.inl (checkProfile_eq_crash.mpr ⟨rfl, overlong⟩))
  | cons first others ih =>
    rcases first with ⟨name, value⟩
    rcases List.forall_mem_cons.mp described with ⟨⟨profile, describes⟩, later⟩
    have isObject : ∃ members, value = .object members := by
      rcases describes with ⟨members, _, _, same, _⟩
      exact ⟨members, same⟩
    rcases isObject with ⟨members, rfl⟩
    rw [List.cons_append, checkProfiles_cons]
    apply bind_eq_error.mpr
    exact Or.inr ⟨profile, checkProfile_eq_ok.mpr describes, bind_eq_error.mpr (Or.inl (ih later))⟩

/-! ## Values that crash -/

/-- Why a value crashes the checks: it is no object, its version is infinite, or everything passes
until a profile that is overlong. -/
inductive Trips (value : Json) : Crash → Prop
  | notAnObject (isNot : ∀ members, value ≠ .object members) :
      Trips value (.notAnObject value.kind)
  | infiniteVersion {members : List (Text × Json)} {negative : Bool}
      (isObject : value = .object members)
      (infinite : Json.find? "version" members = some (.real (.infinite negative))) :
      Trips value .infiniteVersion
  | overlong {members general front behind : List (Text × Json)} {entry : Text × Json}
      (isObject : value = .object members)
      (version : ∃ version, Json.find? "version" members = some version ∧ Denotes version 1)
      (isGlobal : Json.find? "global" members = some (.object general))
      (before : TextIfPresent "prefix_message" general)
      (after : TextIfPresent "suffix_message" general)
      (isProfiles : Json.find? "profiles" members = some (.object (front ++ entry :: behind)))
      (described : ∀ earlier ∈ front, ∃ profile, Describes earlier.2 profile)
      (overlong : Overlong entry.2) : Trips value .integerTooLong

theorem trips_of_ofJson (failed : ofJson source wanted .null value = .error (.crash crash)) :
    Trips value crash := by
  by_cases isObject : ∃ members, value = .object members
  · rcases isObject with ⟨members, rfl⟩
    rw [ofJson] at failed
    rcases bind_eq_error.mp failed with failed | ⟨version, ranVersion, failed⟩
    · rcases (checkVersion_refuses _ _).allows failed with ⟨rfl, negative, infinite⟩
      have some_ : Json.real (.infinite negative) ≠ .null := by simp
      exact .infiniteVersion rfl (find?_of_getD infinite some_)
    rcases checkVersion_eq_ok.mp ranVersion with ⟨rfl, denotes⟩
    have isVersion : ∃ version, Json.find? "version" members = some version ∧
        Denotes version 1 := by
      refine ⟨_, find?_of_getD rfl ?_, denotes⟩
      intro null_
      rw [null_] at denotes
      cases denotes
    split at failed
    case h_1 => cases failed
    case h_2 general isGlobal =>
      rcases bind_eq_error.mp failed with failed | ⟨_, ⟨rfl⟩, failed⟩
      · cases failed
      rw [overlay_null] at failed
      rcases bind_eq_error.mp failed with failed | ⟨_, ⟨rfl⟩, failed⟩
      · cases failed
      rcases bind_eq_error.mp failed with failed | ⟨wording, ranWording, failed⟩
      · exact ((checkWording_refuses _ _).allows failed).elim
      rcases checkWording_eq_ok.mp ranWording with ⟨before, after⟩
      split at failed
      case h_1 => cases failed
      case h_2 => cases failed
      case h_3 sections _ isProfiles =>
        rcases bind_eq_error.mp failed with failed | ⟨_, ⟨rfl⟩, failed⟩
        · cases failed
        rcases bind_eq_error.mp failed with failed | ⟨profiles, _, failed⟩
        · rcases exists_overlong failed with ⟨rfl, front, entry, behind, rfl, described, overlong⟩
          exact .overlong rfl isVersion (membersOf?_eq_some.mp isGlobal)
            (exists_words.mp ⟨_, before⟩) (exists_words.mp ⟨_, after⟩)
            (membersOf?_eq_some.mp isProfiles) described overlong
        rcases bind_eq_error.mp failed with failed | ⟨_, _, failed⟩
        · exact ((checkWanted_refuses _ _ _).allows failed).elim
        · cases failed
  · have isNot : ∀ members, value ≠ .object members :=
      fun members same => isObject ⟨members, same⟩
    rw [ofJson_of_not_object isNot] at failed
    cases failed
    exact .notAnObject isNot

theorem ofJson_of_trips (trips : Trips value crash) (source : Source) (wanted : Option Text) :
    ofJson source wanted .null value = .error (.crash crash) := by
  cases trips with
  | notAnObject isNot => exact ofJson_of_not_object isNot source wanted .null
  | infiniteVersion isObject infinite =>
    subst isObject
    rw [ofJson, infinite]
    rfl
  | @overlong members general front behind entry isObject version isGlobal before after isProfiles
      described overlong =>
    subst isObject
    rcases exists_words.mpr before with ⟨beforeTarget, isBefore⟩
    rcases exists_words.mpr after with ⟨afterTarget, isAfter⟩
    have worded : Worded general ⟨beforeTarget, afterTarget⟩ := ⟨isBefore, isAfter⟩
    have some_ : front ++ entry :: behind ≠ [] :=
      List.append_ne_nil_of_right_ne_nil front (List.cons_ne_nil entry behind)
    rw [ofJson_of_passed version isGlobal worded isProfiles some_]
    exact bind_eq_error.mpr (Or.inl (checkProfiles_of_overlong described overlong source wanted))

/-! ## Bytes that crash -/

/-- Why the bytes of a file crash the loading of settings: they are not UTF-8, their text is nested
too deep or has an integer that is too long, or its value crashes the checks. -/
inductive Spoils (bytes : List UInt8) : Crash → Prop
  | undecodable {fault : Utf8.Fault} (undecoded : Utf8.decode bytes = .error fault) :
      Spoils bytes (.undecodable fault)
  | tooDeep {text : Text} {bracket : Json.Bracket} (decoded : Utf8.decode bytes = .ok text)
      (unparsed : Json.read text.unifyNewlines = .error (.tooDeep bracket)) :
      Spoils bytes (.tooDeep bracket)
  | numeralTooLong {text : Text} {digits : Nat} (decoded : Utf8.decode bytes = .ok text)
      (unparsed : Json.read text.unifyNewlines = .error (.numeralTooLong digits)) :
      Spoils bytes (.numeralTooLong digits)
  | unchecked {text : Text} {value : Json} {crash : Crash}
      (decoded : Utf8.decode bytes = .ok text)
      (parsed : Json.read text.unifyNewlines = .ok value) (trips : Trips value crash) :
      Spoils bytes crash

theorem readSource_of_read (found : files.read path = .ok bytes) :
    readSource files (.file path) = readJson (.file path) bytes := by
  simp only [readSource, found]

theorem load_of_spoils (found : files.read path = .ok bytes) (spoils : Spoils bytes crash)
    (wanted : Option Text) : load files (.file path) wanted = .error (.crash crash) := by
  rw [load, readSource_of_read found]
  cases spoils with
  | undecodable undecoded => rw [readJson, undecoded]; rfl
  | tooDeep decoded unparsed => simp only [readJson, decoded, unparsed]; rfl
  | numeralTooLong decoded unparsed => simp only [readJson, decoded, unparsed]; rfl
  | unchecked decoded parsed trips =>
    rw [readJson_eq_ok.mpr ⟨_, decoded, parsed⟩]
    exact ofJson_of_trips trips (.file path) wanted

theorem spoils_of_load (found : files.read path = .ok bytes)
    (failed : load files (.file path) wanted = .error (.crash crash)) : Spoils bytes crash := by
  rcases bind_eq_error.mp failed with failed | ⟨value, read, failed⟩
  · -- The file was read, so only its bytes are left to blame.
    rcases (readSource_refuses files (.file path)).allows failed with
      stuck | ⟨stuck, _⟩ | ⟨found', undecoded⟩ | ⟨found', decoded, unparsed⟩ |
      ⟨found', decoded, unparsed⟩
    · rw [found] at stuck
      cases stuck
    · rw [found] at stuck
      cases stuck
    · cases found.symm.trans found'
      exact .undecodable undecoded
    · cases found.symm.trans found'
      exact .tooDeep decoded unparsed
    · cases found.symm.trans found'
      exact .numeralTooLong decoded unparsed
  · rw [readSource_of_read found] at read
    rcases readJson_eq_ok.mp read with ⟨text, decoded, parsed⟩
    exact .unchecked decoded parsed (trips_of_ofJson failed)

/-- **A file that can be read is loaded or refused, unless its bytes spoil the loading.** Whatever
profile is asked for, there is a document, or a fault with the code for settings, or a crash for one
of the reasons that `Spoils` lists; and each of these does crash. -/
theorem load_told_unless_spoilt (found : files.read path = .ok bytes) (wanted : Option Text) :
    let outcome := load files (.file path) wanted
    ((∃ document, outcome = .ok document) ∨
        (∃ fault, outcome = .error (.reported fault) ∧ fault.code = .config) ∨
        ∃ crash, outcome = .error (.crash crash) ∧ Spoils bytes crash) ∧
      ∀ crash, Spoils bytes crash → outcome = .error (.crash crash) := by
  intro outcome
  constructor
  · cases ran : outcome with
    | ok document => exact Or.inl ⟨document, rfl⟩
    | error failure =>
      rcases load_refuses files (.file path) wanted failure ran with
        ⟨problem, rfl⟩ | ⟨crash, rfl, _⟩
      · exact Or.inr (Or.inl ⟨_, rfl, rfl⟩)
      · exact Or.inr (Or.inr ⟨crash, rfl, spoils_of_load found ran⟩)
  · intro crash spoils
    exact load_of_spoils found spoils wanted

/-- A file whose version is beyond all numbers. -/
def boundless : List UInt8 := Utf8.encode "\x7b\"version\": 1e400\x7d"

theorem load_boundless :
    load { entries := [([['c']], .document boundless)] } (.file ⟨[], [['c']]⟩) none =
      .error (.crash .infiniteVersion) := by
  decide +kernel

/-- It is read, and spoils the loading. -/
theorem load_told_unless_spoilt_boundless :
    Files.read { entries := [([['c']], .document boundless)] } ⟨[], [['c']]⟩ = .ok boundless ∧
      Spoils boundless .infiniteVersion := by
  have found : Files.read { entries := [([['c']], .document boundless)] } ⟨[], [['c']]⟩ =
      .ok boundless := rfl
  rcases (load_told_unless_spoilt found none).1 with
    ⟨_, loaded⟩ | ⟨_, told, _⟩ | ⟨_, crashed, spoils⟩
  · cases load_boundless.symm.trans loaded
  · cases load_boundless.symm.trans told
  · cases load_boundless.symm.trans crashed
    exact ⟨found, spoils⟩

/-- Not every file that can be read is loaded, or refused with the code for settings. -/
theorem load_boundless_untold :
    ¬ ∀ (files : Files) (path : FilePath) (bytes : List UInt8) (wanted : Option Text),
      files.read path = .ok bytes →
        (∃ document, load files (.file path) wanted = .ok document) ∨
          ∃ fault, load files (.file path) wanted = .error (.reported fault) ∧
            fault.code = .config := by
  intro all
  rcases all { entries := [([['c']], .document boundless)] } ⟨[], [['c']]⟩ boundless none rfl with
    ⟨_, loaded⟩ | ⟨_, told, _⟩
  · cases load_boundless.symm.trans loaded
  · cases load_boundless.symm.trans told

end CharTally.Settings
