import CharTally.Proofs.Json.Halves
import CharTally.Proofs.Settings.Profile
import CharTally.Proofs.Text.Utf8

/-!
# Settings that are written

Reading settings strips descriptions, resolves target literals and fills in the usual
words. What comes out is in a normal form (`Profile.Normal`): none of these steps changes
it any more. Nor does reading JSON, which joins the two halves of a surrogate pair, change
texts in which they stand nowhere beside one another (`Unpaired`). So a document that is
written out of such profiles (`written`) is loaded as what it was written out of, in its
order (`load_of_normal`), and since everything that is loaded is in normal form
(`normal_of_loaded`, `unpaired_of_loaded`), a loaded document that is written is loaded as
the same document. `load_written` states both.
-/

namespace CharTally.Settings

variable {files : Files} {path : FilePath} {source : Source} {wanted : Option Text}
  {wording : Wording} {profile : Profile} {profiles : List (Text × Profile)}
  {document : Document}

/-! ## Values in files -/

/-- A value that fits is read from a file that holds its text. -/
theorem readSource_render {value : Json} (fits : Json.Fits Json.maxDepth value)
    (found : files.read path = .ok (Utf8.encode value.render)) :
    readSource files (.file path) = .ok value.joined := by
  -- A written value has no line break in it, so unifying line ends leaves it alone.
  have plain := Json.only_render value
  have noReturn : scalar '\r' ∉ value.render := plain.not_mem (by decide)
  have decoded := Utf8.decode_encode (Json.isWhole_of_plain plain)
  refine readSource_eq_ok.mpr ⟨_, found, readJson_eq_ok.mpr ⟨_, decoded, ?_⟩⟩
  rw [Text.unifyNewlines_of_noReturn noReturn, Json.read_render fits]

/-- What is read from a source has no halves to be joined. -/
theorem joined_of_readSource {value : Json} (read : readSource files source = .ok value) :
    value.joined = value := by
  cases source with
  | bundled =>
    cases read
    rfl
  | file path =>
    obtain ⟨bytes, _, read⟩ := readSource_eq_ok.mp read
    obtain ⟨text, decoded, parsed⟩ := readJson_eq_ok.mp read
    exact Json.joined_of_read (Text.isWhole_unifyNewlines (Utf8.isWhole_of_decode decoded)) parsed

theorem joined_of_find? {members : List (Text × Json)} {name : Text} {value : Json}
    (joined : (Json.object members).joined = .object members)
    (found : Json.find? name members = some value) :
    Json.joinHalves name = name ∧ value.joined = value := by
  rw [Json.joined, Json.object.injEq, Json.joinedMembers_eq_map] at joined
  have member : (name, value) ∈ members := by
    rw [Json.find?, List.lookup_eq_some_iff] at found
    obtain ⟨front, behind, whole, _⟩ := found
    rw [whole]
    exact List.mem_append_right front List.mem_cons_self
  have same := List.map_inj_left.mp (joined.trans (List.map_id members).symm) _ member
  exact Prod.mk.inj same

/-! ## Writing -/

/-- The section that a profile is written as. -/
def Profile.toSection (profile : Profile) : Json :=
  bundledProfile profile.description [profile.target] profile.text

/-- The sections that profiles are written as, each under its name. -/
def sectionsOf (profiles : List (Text × Profile)) : List (Text × Json) :=
  profiles.map fun (name, profile) => (name, profile.toSection)

/-- The global section that a wording is written as. -/
def generalOf (wording : Wording) : List (Text × Json) :=
  [("prefix_message", .text wording.beforeTarget), ("suffix_message", .text wording.afterTarget)]

/-- The members of a document with a global section and sections for profiles. -/
def composed (general sections : List (Text × Json)) : List (Text × Json) :=
  [("version", .integer 1), ("global", .object general), ("profiles", .object sections)]

/-- The document that is written out of a wording and profiles. -/
def written (wording : Wording) (profiles : List (Text × Profile)) : Json :=
  .object (composed (generalOf wording) (sectionsOf profiles))

theorem fits_bundledProfile (description target text : Text) (depth : Nat) :
    Json.Fits (depth + 1) (bundledProfile description target text) := by
  have distinct : ((["description", "target", "string"] : List Text).map Json.joinHalves).Nodup :=
    by decide
  refine .object ?_ distinct
  simp only [List.forall_mem_cons]
  exact ⟨.text, .text, .text, List.forall_mem_nil _⟩

/-- A document is read back if its sections are, and no name stands twice among them. -/
theorem fits_composed {general sections : List (Text × Json)}
    (generalFits : Json.Fits 984 (.object general))
    (sectionsFit : ∀ entry ∈ sections, Json.Fits 983 entry.2)
    (distinct : (sections.map fun entry => Json.joinHalves entry.1).Nodup) :
    Json.Fits Json.maxDepth (.object (composed general sections)) := by
  have members : ((["version", "global", "profiles"] : List Text).map Json.joinHalves).Nodup := by
    decide
  have version : Json.Fits 984 (.integer 1) :=
    .integer (Numeral.isShort_of_lt (by decide : 1 ≤ Numeral.maxDigits) (by decide))
  change Json.Fits (984 + 1) _
  refine .object ?_ members
  simp only [composed, List.forall_mem_cons]
  exact ⟨version, generalFits, .object sectionsFit distinct, List.forall_mem_nil _⟩

/-- In no text of a wording and of profiles do the halves of a pair stand beside one another. -/
structure Unpaired (wording : Wording) (profiles : List (Text × Profile)) : Prop where
  before : Json.joinHalves wording.beforeTarget = wording.beforeTarget
  after : Json.joinHalves wording.afterTarget = wording.afterTarget
  names : ∀ entry ∈ profiles, Json.joinHalves entry.1 = entry.1
  descriptions : ∀ entry ∈ profiles,
    Json.joinHalves entry.2.description = entry.2.description

theorem Unpaired.map_names (unpaired : Unpaired wording profiles) :
    ((sectionsOf profiles).map fun entry => Json.joinHalves entry.1) = profiles.map (·.1) := by
  rw [sectionsOf, List.map_map]
  exact List.map_congr_left unpaired.names

/-- What is written is read back if the names of the profiles are distinct. -/
theorem fits_written (unpaired : Unpaired wording profiles)
    (distinct : (profiles.map (·.1)).Nodup) :
    Json.Fits Json.maxDepth (written wording profiles) := by
  have words : ((["prefix_message", "suffix_message"] : List Text).map Json.joinHalves).Nodup := by
    decide
  apply fits_composed
  · refine .object ?_ words
    simp only [generalOf, List.forall_mem_cons]
    exact ⟨.text, .text, List.forall_mem_nil _⟩
  · intro entry member
    rcases List.mem_map.mp member with ⟨⟨name, profile⟩, _, rfl⟩
    exact fits_bundledProfile profile.description [profile.target] profile.text 982
  · rw [unpaired.map_names]
    exact distinct

theorem joined_toSection (unpaired : Json.joinHalves profile.description = profile.description)
    (normal : profile.Normal) : profile.toSection.joined = profile.toSection := by
  have target : Text.isAscii [profile.target] = true := by
    rw [Text.isAscii_cons, decide_eq_true normal.target]
    rfl
  rw [Profile.toSection, bundledProfile]
  simp only [Json.joined, Json.joinedMembers, unpaired,
    Json.joinHalves_of_isWhole (Text.isWhole_of_isAscii target),
    Json.joinHalves_of_isWhole (Text.isWhole_of_isAscii normal.text)]
  rfl

/-- Reading does not change what is written. -/
theorem joined_written (unpaired : Unpaired wording profiles)
    (normal : ∀ entry ∈ profiles, entry.2.Normal) :
    (written wording profiles).joined = written wording profiles := by
  have sections : Json.joinedMembers (sectionsOf profiles) = sectionsOf profiles := by
    rw [Json.joinedMembers_eq_map, sectionsOf, List.map_map]
    refine List.map_congr_left fun entry member => ?_
    exact Prod.ext (unpaired.names entry member)
      (joined_toSection (unpaired.descriptions entry member) (normal entry member))
  rw [written, composed, generalOf]
  simp only [Json.joined, Json.joinedMembers, sections, unpaired.before, unpaired.after]
  rfl

/-! ## Loading what is written -/

/-- The section of a profile in normal form makes this profile. -/
theorem describes_toSection (normal : profile.Normal) : Describes profile.toSection profile := by
  refine ⟨_, profile.description, [profile.target], rfl, rfl, ?_, ?_, rfl, List.cons_ne_nil _ _,
    ?_, rfl, normal.text⟩
  · rw [normal.stripped]
    exact normal.described
  · exact normal.stripped.symm
  · exact Target.parse_singleton normal.target

theorem makes_sectionsOf (normal : ∀ entry ∈ profiles, entry.2.Normal) :
    List.Forall₂ Makes (sectionsOf profiles) profiles := by
  induction profiles with
  | nil => exact .nil
  | cons entry others ih =>
    rcases List.forall_mem_cons.mp normal with ⟨first, rest⟩
    exact .cons ⟨rfl, describes_toSection first⟩ (ih rest)

/-- A document written out of profiles in normal form is loaded as what it was written out of. -/
theorem load_of_normal
    (found : files.read path = .ok (Utf8.encode (written wording profiles).render))
    (unpaired : Unpaired wording profiles) (some_ : profiles ≠ [])
    (distinct : (profiles.map (·.1)).Nodup) (normal : ∀ entry ∈ profiles, entry.2.Normal)
    (offers : Offers wanted (profiles.map (·.1))) :
    load files (.file path) wanted = .ok ⟨.file path, 1, wording, profiles⟩ := by
  have read := readSource_render (fits_written unpaired distinct) found
  rw [joined_written unpaired normal] at read
  refine load_eq_ok.mpr ⟨_, read, ?_⟩
  exact {
    source_eq := rfl
    version_eq := rfl
    version := ⟨_, rfl, .integer 1⟩
    wording := ⟨generalOf wording, rfl, Or.inr rfl, Or.inr rfl⟩
    profiles := by
      refine ⟨sectionsOf profiles, rfl, ?_, makes_sectionsOf normal⟩
      exact fun none_ => some_ (List.map_eq_nil_iff.mp none_)
    offers }

/-- In what is loaded, the halves of pairs stand nowhere beside one another. -/
theorem unpaired_of_loaded (loaded : load files source wanted = .ok document) :
    Unpaired document.wording document.profiles := by
  obtain ⟨raw, read, made⟩ := load_eq_ok.mp loaded
  have joined := joined_of_readSource read
  obtain ⟨general, isGlobal, before, after⟩ := made.wording
  obtain ⟨sections, isProfiles, _, makes⟩ := made.profiles
  have joinedGeneral := (joined_of_find? joined isGlobal).2
  have joinedSections := (joined_of_find? joined isProfiles).2
  have words {name usual words : Text} (usual_ : usual.isWhole = true)
      (are : Words (Json.find? name general) usual words) : Json.joinHalves words = words := by
    rcases are with ⟨_, rfl⟩ | found
    · exact Json.joinHalves_of_isWhole usual_
    · exact Json.text.inj (joined_of_find? joinedGeneral found).2
  have entries : ∀ entry ∈ document.profiles, Json.joinHalves entry.1 = entry.1 ∧
      Json.joinHalves entry.2.description = entry.2.description := by
    rintro ⟨name, profile⟩ member
    obtain ⟨section_, isSection, _, description, _, rfl, isDescription, _, stripped, _⟩ :=
      section_of_makes makes member
    rw [Json.joined, Json.object.injEq, Json.joinedMembers_eq_map] at joinedSections
    have same := List.map_inj_left.mp (joinedSections.trans (List.map_id sections).symm) _ isSection
    obtain ⟨sameName, sameSection⟩ := Prod.mk.inj same
    have words := Json.text.inj (joined_of_find? sameSection isDescription).2
    refine ⟨sameName, ?_⟩
    dsimp only
    rw [stripped]
    exact Json.joinHalves_eq_self.mpr (Json.joinHalves_eq_self.mp words).strip
  exact ⟨words (by decide) before, words (by decide) after,
    fun entry member => (entries entry member).1, fun entry member => (entries entry member).2⟩

/-- **Loading is a normal form.** Let a file hold the document that is written out of a wording and
profiles. If there are profiles, their names are distinct, each of them is in normal form and the
halves of pairs stand nowhere beside one another, then what is loaded is this wording with these
profiles in their order, no profile asked for or any of them; and if the wording and the profiles
were loaded from anywhere, then the same document is loaded again, with the file as its source. -/
theorem load_written
    (found : files.read path = .ok (Utf8.encode (written wording profiles).render)) :
    (Unpaired wording profiles → profiles ≠ [] → (profiles.map (·.1)).Nodup →
      (∀ entry ∈ profiles, entry.2.Normal) → ∀ wanted, Offers wanted (profiles.map (·.1)) →
        load files (.file path) wanted = .ok ⟨.file path, 1, wording, profiles⟩) ∧
      ∀ earlier source wanted document, load earlier source wanted = .ok document →
        document.wording = wording → document.profiles = profiles →
          load files (.file path) none = .ok { document with source := .file path } := by
  constructor
  · intro unpaired some_ distinct normal wanted offers
    exact load_of_normal found unpaired some_ distinct normal offers
  · intro earlier source wanted document loaded sameWording sameProfiles
    have unpaired := unpaired_of_loaded loaded
    rcases normal_of_loaded loaded with ⟨version, some_, distinct, normal⟩
    rcases document with ⟨_, _, _, _⟩
    dsimp only at version sameWording sameProfiles unpaired some_ distinct normal
    subst version sameWording sameProfiles
    exact load_of_normal found unpaired some_ distinct normal fun name none_ => nomatch none_

/-- Profiles whose names are hard to write, and whose targets are the marks of literals. -/
def outlandish : List (Text × Profile) :=
  [([], ⟨"a  b", 'x', []⟩),
    (['"', '\n', '\u2028', CodePoint.ofNat 0x1F600], ⟨"\\", '#', "\x00\x7f"⟩)]

/-- A first file and a second one, both of which hold them. -/
def twoCopies : Files :=
  let copy : Entry := .document (Utf8.encode (written ⟨" ", []⟩ outlandish).render)
  { entries := [([['c']], copy), ([['d']], copy)] }

/-- They are loaded from the first file, and what was loaded there is loaded from the second. -/
theorem load_written_outlandish :
    let document : Document := ⟨.file ⟨[], [['c']]⟩, 1, ⟨" ", []⟩, outlandish⟩
    load twoCopies (.file ⟨[], [['c']]⟩) none = .ok document ∧
      load twoCopies (.file ⟨[], [['d']]⟩) none =
        .ok { document with source := .file ⟨[], [['d']]⟩ } := by
  intro document
  have distinct : (outlandish.map (·.1)).Nodup := by decide
  have normal : ∀ entry ∈ outlandish, entry.2.Normal := by
    intro entry member
    simp only [outlandish, List.mem_cons, List.not_mem_nil, or_false] at member
    rcases member with rfl | rfl
    · exact ⟨by decide, by decide, by decide, by decide⟩
    · exact ⟨by decide, by decide, by decide, by decide⟩
  have unpaired : Unpaired ⟨" ", []⟩ outlandish := ⟨rfl, rfl, by decide, by decide⟩
  have first := (load_written (rfl : twoCopies.read ⟨[], [['c']]⟩ = _)).1 unpaired
    (List.cons_ne_nil _ _) distinct normal none fun name none_ => nomatch none_
  have second := (load_written (rfl : twoCopies.read ⟨[], [['d']]⟩ = _)).2 twoCopies _ none
    document first rfl rfl
  exact ⟨first, second⟩

end CharTally.Settings
