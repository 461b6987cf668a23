import CharTally.Proofs.Settings.Crash
import CharTally.Proofs.Target
import CharTally.Proofs.Text.Lines

/-!
# Profiles that were loaded

A document that is loaded when no profile is asked for is loaded, as the same document,
for each of its profiles (`loadRuntime_of_loaded`), and it is refused for every other name
but the empty one (`load_of_missing`). Every profile that is loaded is in a normal form
(`normal_of_loaded`), so what it says is fit to be run: its text is ASCII, and its target is
a literal that reads as itself (`fit_of_loaded`).
-/

namespace CharTally.Settings

variable {files : Files} {source : Source} {wanted : Option Text} {document : Document}
  {name : Text} {profile : Profile}

/-! ## Names -/

/-- A document is loaded for every name that passes the check of names. -/
theorem load_of_offered (loaded : load files source none = .ok document)
    (offers : Offers (some name) (document.profiles.map (·.1))) :
    load files source (some name) = .ok document := by
  obtain ⟨raw, read, unasked⟩ := load_eq_ok.mp loaded
  exact load_eq_ok.mpr ⟨raw, read, { unasked with offers }⟩

/-- A document is loaded for each of its profiles. -/
theorem load_of_loaded (loaded : load files source none = .ok document)
    (found : document.find? name = some profile) :
    load files source (some name) = .ok document := by
  have among : name ∈ document.profiles.map (·.1) := by
    apply isSome_lookup.mp
    rw [show document.profiles.lookup name = some profile from found]
    rfl
  apply load_of_offered loaded
  intro wanted same
  cases same
  exact Or.inr among

/-- The check of names comes last: a document is refused for a name that it lacks, and for nothing
else. -/
theorem load_of_missing (loaded : load files source none = .ok document)
    (missing : document.find? name = none) (named : name ≠ []) :
    load files source (some name) = refuse source (.unknownProfile name) := by
  obtain ⟨raw, read, unasked⟩ := load_eq_ok.mp loaded
  obtain ⟨general, isGlobal, worded⟩ := unasked.wording
  obtain ⟨sections, isProfiles, some_, made⟩ := unasked.profiles
  have unoffered : checkWanted source (some name) document.profiles =
      refuse source (.unknownProfile name) := by
    cases name with
    | nil => exact absurd rfl named
    | cons c letters =>
      rw [Document.find?] at missing
      rw [checkWanted, missing]
      · rfl
      · exact named
  rw [load, read]
  change ofJson source (some name) .null (.object raw) = _
  rw [ofJson_of_passed unasked.version isGlobal worded isProfiles some_,
    checkProfiles_eq_ok.mpr made]
  change (do
    checkWanted source (some name) document.profiles
    return (⟨source, 1, document.wording, document.profiles⟩ : Document)) = _
  rw [unoffered]
  rfl

/-- The empty name is not checked, so a document is loaded for it as it is for no name. -/
theorem load_of_empty (loaded : load files source none = .ok document) :
    load files source (some []) = .ok document := by
  apply load_of_offered loaded
  intro wanted same
  cases same
  exact Or.inl rfl

theorem loadRuntime_of_loaded (loaded : load files source none = .ok document)
    (found : document.find? name = some profile) :
    loadRuntime files source (some name) = .ok ⟨document.wording, profile⟩ := by
  refine bind_eq_ok.mpr ⟨document, load_of_loaded loaded found, ?_⟩
  rw [Option.bind_some, found]
  rfl

/-- A name that no profile has is refused, and the fault says which name and where. -/
theorem loadRuntime_of_unknown (loaded : load files source none = .ok document)
    (missing : document.find? name = none) (named : name ≠ []) :
    loadRuntime files source (some name) =
      .error (.reported (.settings source (.unknownProfile name))) := by
  rw [loadRuntime, load_of_missing loaded missing named]
  rfl

/-- The empty name gets past the check and crashes the lookup behind it. -/
theorem loadRuntime_of_empty (loaded : load files source none = .ok document)
    (missing : document.find? [] = none) :
    loadRuntime files source (some []) = .error (.crash (.noSuchProfile (some []))) :=
  loadRuntime_of_unnamed (load_of_empty loaded) missing

/-! ## The normal form -/

/-- A profile that is read as itself: its description is not empty and has no blanks at its ends,
its target is ASCII, and so is its text. -/
structure Profile.Normal (profile : Profile) : Prop where
  stripped : Text.strip profile.description = profile.description
  described : profile.description ≠ []
  target : profile.target.toNat ≤ Text.maxAscii
  text : profile.text.isAscii = true

/-- Every section that makes a profile makes one in normal form. -/
theorem normal_of_describes {section_ : Json} (describes : Describes section_ profile) :
    profile.Normal := by
  rcases describes with ⟨_, words, literal, _, _, notBlank, isStripped, _, _, parsed, _, ascii⟩
  constructor
  · rw [isStripped]
    exact Text.trim_trim Text.isBlank words
  · rw [isStripped]
    exact notBlank
  · exact Target.toNat_of_parse parsed
  · exact ascii

/-- What is loaded has profiles, of distinct names, and all of them are in normal form. -/
theorem normal_of_loaded (loaded : load files source wanted = .ok document) :
    document.version = 1 ∧ document.profiles ≠ [] ∧ (document.profiles.map (·.1)).Nodup ∧
      ∀ entry ∈ document.profiles, entry.2.Normal := by
  rcases load_eq_ok.mp loaded with ⟨raw, read, made⟩
  rcases made.profiles with ⟨sections, isProfiles, some_, makes⟩
  refine ⟨made.version_eq, ?_, ?_, ?_⟩
  · intro none_
    rw [none_] at makes
    cases makes
    exact some_ rfl
  · rw [names_of_makes makes]
    exact nodup_names_of_readSource read isProfiles
  · intro entry member
    rcases section_of_makes makes member with ⟨section_, _, describes⟩
    exact normal_of_describes describes

theorem mem_of_find? (found : document.find? name = some profile) :
    (name, profile) ∈ document.profiles := by
  rw [Document.find?, List.lookup_eq_some_iff] at found
  obtain ⟨front, behind, whole, _⟩ := found
  rw [whole]
  exact List.mem_append_right front List.mem_cons_self

/-- A profile that was loaded can be run: no part of it is refused. -/
theorem fit_of_loaded (loaded : load files source none = .ok document)
    (found : document.find? name = some profile) :
    profile.text.isAscii = true ∧ Target.parse [profile.target] = .ok profile.target := by
  rcases normal_of_loaded loaded with ⟨_, _, _, normal⟩
  have isNormal : profile.Normal := normal _ (mem_of_find? found)
  exact ⟨isNormal.text, Target.parse_singleton isNormal.target⟩

end CharTally.Settings
