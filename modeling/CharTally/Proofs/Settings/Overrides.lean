import CharTally.Proofs.Settings.Written

/-!
# Overrides are edits

Overrides for a profile change nothing that could not be changed in the document itself.
`edited` is the document in which they stand, key by key, in the global section and in the
section of the profile; checking a document under overrides comes to the same as checking
the edited document without any (`ofJson_overriding`), because the overrides are laid over
a section before anything is checked in it. Sections of other names are checked as they
stand.
-/

namespace CharTally.Settings

variable {files : Files} {source : Source} {name other : Text} {value : Json}
  {members raw globals sections : List (Text × Json)} {document : Document}

/-! ## Edited members -/

/-- Overrides for the global section and for the profile that is asked for. -/
def overriding (general part : List (Text × Json)) : Json :=
  .object [("global", .object general), ("profile", .object part)]

/-- Members in which more is set, key by key, in the object of a name. Where no object has the
name, nothing is set. -/
def amended (name : Text) (more members : List (Text × Json)) : List (Text × Json) :=
  match Json.find? name members with
  | some (.object inner) => Json.put name (.object (Json.putAll inner more)) members
  | _ => members

/-- The members of a document whose global section has one part of the overrides set in it, and
whose section for a profile has the other. -/
def edited (name : Text) (general part raw : List (Text × Json)) : List (Text × Json) :=
  let members := amended "global" general raw
  match Json.find? "profiles" members with
  | some (.object sections) =>
    Json.put "profiles" (.object (amended name part sections)) members
  | _ => members

theorem amended_of_object {inner : List (Text × Json)}
    (found : Json.find? name members = some (.object inner)) (more : List (Text × Json)) :
    amended name more members = Json.put name (.object (Json.putAll inner more)) members := by
  rw [amended, found]

theorem find?_amended {inner : List (Text × Json)}
    (found : Json.find? name members = some (.object inner)) (more : List (Text × Json)) :
    Json.find? name (amended name more members) = some (.object (Json.putAll inner more)) := by
  rw [amended_of_object found, Json.find?_put, if_pos rfl]

/-- What stands under other names is not touched. -/
theorem find?_amended_of_ne (differs : other ≠ name) (more members : List (Text × Json)) :
    Json.find? other (amended name more members) = Json.find? other members := by
  unfold amended
  split
  · rw [Json.find?_put, if_neg differs]
  · rfl

/-- The names stay where they are. -/
theorem names_amended (name : Text) (more members : List (Text × Json)) :
    (amended name more members).map (·.1) = members.map (·.1) := by
  unfold amended
  split
  case h_1 inner found =>
    have known : name ∈ members.map (·.1) := by
      apply isSome_lookup.mp
      rw [show members.lookup name = some (.object inner) from found]
      rfl
    rw [Json.names_put, if_pos known]
  case h_2 => rfl

theorem amended_ne_nil (some_ : members ≠ []) (name : Text) (more : List (Text × Json)) :
    amended name more members ≠ [] := by
  intro none_
  have names := names_amended name more members
  rw [none_, List.map_nil, eq_comm, List.map_eq_nil_iff] at names
  exact some_ names

/-- Members of other names in front are passed over. -/
theorem amended_cons_of_ne (differs : other ≠ name) (value : Json)
    (more rest : List (Text × Json)) :
    amended name more ((other, value) :: rest) = (other, value) :: amended name more rest := by
  have passed : Json.find? name ((other, value) :: rest) = Json.find? name rest := by
    rw [Json.find?_cons, if_neg (Ne.symm differs)]
  unfold amended
  rw [passed]
  split
  · rw [Json.put, if_neg differs]
  · rfl

theorem amended_cons_self (name : Text) (inner more rest : List (Text × Json)) :
    amended name more ((name, .object inner) :: rest) =
      (name, .object (Json.putAll inner more)) :: rest := by
  have found : Json.find? name ((name, .object inner) :: rest) = some (.object inner) := by
    rw [Json.find?_cons, if_pos rfl]
  rw [amended_of_object found, Json.put, if_pos rfl]

/-! ## An edited document -/

section Edited

variable (isGlobal : Json.find? "global" raw = some (.object globals))
  (isProfiles : Json.find? "profiles" raw = some (.object sections))
  (general part : List (Text × Json))
include isProfiles

theorem edited_eq : edited name general part raw =
    Json.put "profiles" (.object (amended name part sections)) (amended "global" general raw) := by
  have kept : Json.find? "profiles" (amended "global" general raw) = some (.object sections) := by
    rw [find?_amended_of_ne (by decide), isProfiles]
  simp only [edited, kept]

theorem find?_edited_profiles : Json.find? "profiles" (edited name general part raw) =
    some (.object (amended name part sections)) := by
  rw [edited_eq isProfiles, Json.find?_put, if_pos rfl]

include isGlobal in
theorem find?_edited_global : Json.find? "global" (edited name general part raw) =
    some (.object (Json.putAll globals general)) := by
  rw [edited_eq isProfiles, Json.find?_put, if_neg (by decide), find?_amended isGlobal]

/-- The rest of the document is not touched. -/
theorem find?_edited_of_ne (notGlobal : other ≠ ("global" : Text))
    (notProfiles : other ≠ ("profiles" : Text)) :
    Json.find? other (edited name general part raw) = Json.find? other raw := by
  rw [edited_eq isProfiles, Json.find?_put, if_neg notProfiles, find?_amended_of_ne notGlobal]

end Edited

/-! ## Checking under overrides -/

/-- An object is laid over members key by key. -/
theorem overlay_object (members more : List (Text × Json)) :
    overlay members (.object more) = .ok (Json.putAll members more) := by
  cases more with
  | nil => rfl
  | cons first rest => rfl

/-- A section of another name is checked as it stands. -/
theorem checkProfiles_cons_of_ne {part : Json} {rest later : List (Text × Json)}
    (differs : other ≠ name) (value : Json)
    (alike : checkProfiles source (some name) part rest =
      checkProfiles source (some name) .null later) :
    checkProfiles source (some name) part ((other, value) :: rest) =
      checkProfiles source (some name) .null ((other, value) :: later) := by
  have unasked : ¬ (some name = some other ∧ other ≠ []) := by
    intro asked
    exact differs (Option.some.inj asked.1).symm
  cases value with
  | object members => rw [checkProfiles, checkProfiles, if_neg unasked, if_neg unasked, alike]
  | null => rfl
  | bool value => rfl
  | integer value => rfl
  | real value => rfl
  | text value => rfl
  | array items => rfl

/-- Overrides for a profile are laid over no section of another name. -/
theorem checkProfiles_of_not_mem (absent : name ∉ sections.map (·.1)) (part : Json) :
    checkProfiles source (some name) part sections =
      checkProfiles source (some name) .null sections := by
  induction sections with
  | nil => rfl
  | cons entry rest ih =>
    rcases entry with ⟨other, value⟩
    have differs : other ≠ name := Ne.symm (List.ne_of_not_mem_cons absent)
    exact checkProfiles_cons_of_ne differs value (ih (List.not_mem_of_not_mem_cons absent))

/-- What stands under a name, if anything does, is an object. -/
def ObjectIfPresent (name : Text) (members : List (Text × Json)) : Prop :=
  ∀ value, Json.find? name members = some value → ∃ inner, value = .object inner

/-- Checking profiles under overrides for one of them is checking them with its section amended. -/
theorem checkProfiles_overriding (named : name ≠ []) (distinct : (sections.map (·.1)).Nodup)
    (isObject : ObjectIfPresent name sections) (part : List (Text × Json)) :
    checkProfiles source (some name) (.object part) sections =
      checkProfiles source (some name) .null (amended name part sections) := by
  induction sections with
  | nil => rfl
  | cons entry rest ih =>
    rcases entry with ⟨other, value⟩
    rcases List.nodup_cons.mp distinct with ⟨fresh, others⟩
    by_cases same : other = name
    · -- The section of the profile: the overrides are laid over it, and over none behind it.
      subst same
      have asked : some other = some other ∧ other ≠ [] := ⟨rfl, named⟩
      have first : Json.find? other ((other, value) :: rest) = some value := by
        rw [Json.find?_cons, if_pos rfl]
      rcases isObject value first with ⟨inner, rfl⟩
      rw [amended_cons_self, checkProfiles, checkProfiles, if_pos asked, if_pos asked,
        overlay_object, overlay_null, checkProfiles_of_not_mem fresh]
    · have isObjectLater : ObjectIfPresent name rest := by
        intro found isFound
        apply isObject found
        rw [Json.find?_cons, if_neg (Ne.symm same), isFound]
      rw [amended_cons_of_ne same]
      exact checkProfiles_cons_of_ne same value (ih others isObjectLater)

/-- Checking a document under overrides is checking the edited document. -/
theorem ofJson_overriding (isGlobal : Json.find? "global" raw = some (.object globals))
    (isProfiles : Json.find? "profiles" raw = some (.object sections)) (some_ : sections ≠ [])
    (named : name ≠ []) (distinct : (sections.map (·.1)).Nodup)
    (isObject : ObjectIfPresent name sections) (general part : List (Text × Json)) :
    ofJson source (some name) (overriding general part) (.object raw) =
      ofJson source (some name) .null (.object (edited name general part raw)) := by
  have version : Json.find? "version" (edited name general part raw) =
      Json.find? "version" raw :=
    find?_edited_of_ne isProfiles general part (by decide) (by decide)
  have givenGeneral : overridePart (overriding general part) "global" = .ok (.object general) := rfl
  have givenPart : overridePart (overriding general part) "profile" = .ok (.object part) := rfl
  have givenNothing (name : Text) : overridePart .null name = .ok .null := rfl
  rw [ofJson_of_sections isGlobal isProfiles some_,
    ofJson_of_sections (find?_edited_global isGlobal isProfiles general part)
      (find?_edited_profiles isProfiles general part) (amended_ne_nil some_ name part),
    version]
  simp only [givenGeneral, givenPart, givenNothing, overlay_object, overlay_null, bind, Except.bind,
    checkProfiles_overriding named distinct isObject]

/-! ## Loading under overrides -/

/-- A profile of another name than the one that is edited is described by its own section. -/
theorem describes_of_edited {profile : Profile}
    (isProfiles : Json.find? "profiles" raw = some (.object sections))
    (distinct : (sections.map (·.1)).Nodup) {general part : List (Text × Json)}
    (loaded : Loaded source (some name) (edited name general part raw) document)
    (differs : other ≠ name) (member : (other, profile) ∈ document.profiles) :
    ∃ section_, Json.find? other sections = some section_ ∧ Describes section_ profile := by
  rcases loaded.profiles with ⟨amendedSections, found, _, makes⟩
  rw [find?_edited_profiles isProfiles] at found
  cases found
  rcases section_of_makes makes member with ⟨section_, among, describes⟩
  have stands : Json.find? other (amended name part sections) = some section_ := by
    apply Json.find?_of_mem _ among
    rw [names_amended]
    exact distinct
  rw [find?_amended_of_ne differs] at stands
  exact ⟨section_, stands, describes⟩

/-- **Overriding is editing.** Let a document be read that has a global section and sections for
profiles, and let the section of a name, if there is one, be an object. To ask for the profile of
this name under overrides has the outcome, a document or a failure, of asking for it without any in
the edited document, wherever that is read from. The profiles have the names and the order of the
sections, and every other profile is what its own section describes. -/
theorem load_overriding (read : readSource files source = .ok (.object raw))
    (isGlobal : Json.find? "global" raw = some (.object globals))
    (isProfiles : Json.find? "profiles" raw = some (.object sections)) (some_ : sections ≠ [])
    (named : name ≠ []) (isObject : ObjectIfPresent name sections)
    (general part : List (Text × Json)) :
    let outcome := load files source (some name) (overriding general part)
    outcome = ofJson source (some name) .null (.object (edited name general part raw)) ∧
      (∀ others, readSource others source = .ok (.object (edited name general part raw)) →
        load others source (some name) = outcome) ∧
      ∀ document, outcome = .ok document →
        document.profiles.map (·.1) = sections.map (·.1) ∧
          ∀ other profile, other ≠ name → (other, profile) ∈ document.profiles →
            ∃ section_, Json.find? other sections = some section_ ∧
              Describes section_ profile := by
  intro outcome
  have distinct := nodup_names_of_readSource read isProfiles
  have same : outcome =
      ofJson source (some name) .null (.object (edited name general part raw)) := by
    rw [← ofJson_overriding isGlobal isProfiles some_ named distinct isObject general part]
    simp only [outcome, load, read]
    rfl
  refine ⟨same, ?_, ?_⟩
  · intro others readEdited
    rw [same, load, readEdited]
    rfl
  · intro document made
    rw [same] at made
    have loaded : Loaded source (some name) (edited name general part raw) document :=
      ofJson_eq_ok.mp made
    constructor
    · rcases loaded.profiles with ⟨amendedSections, found, _, makes⟩
      rw [find?_edited_profiles isProfiles] at found
      cases found
      rw [names_of_makes makes, names_amended]
    · intro other profile differs member
      exact describes_of_edited isProfiles distinct loaded differs member

/-- A document with one profile that is in order and one whose target is none. -/
def halfMade : List (Text × Json) :=
  composed [] [("a", bundledProfile "a" "a" "a-b"), ("b", bundledProfile "b" "ab" "a-b")]

/-- A file that holds it. -/
def unfinished : Files where
  entries := [([['c']], .document (Utf8.encode (Json.object halfMade).render))]

/-- No profile of it is loaded until an override sets the target of the second; and an override that
takes the target of the first away is refused as the file would be. -/
theorem load_overriding_halfMade :
    let source : Source := .file ⟨[], [['c']]⟩
    let finishing : List (Text × Json) := [("target", .text "x62")]
    let breaking : List (Text × Json) := [("target", .null)]
    let finished : Document :=
      ⟨source, 1, {}, [(['a'], ⟨"a", 'a', "a-b"⟩), (['b'], ⟨"b", 'b', "a-b"⟩)]⟩
    load unfinished source (some ['b']) =
        refuse source (.badTarget ['b'] "ab" .unrecognised) ∧
      load unfinished source (some ['b']) (overriding [] finishing) = .ok finished ∧
      ofJson source (some ['b']) .null (.object (edited ['b'] [] finishing halfMade)) =
        .ok finished ∧
      load unfinished source (some ['a']) (overriding [] breaking) =
        refuse source (.noTarget ['a']) ∧
      ofJson source (some ['a']) .null (.object (edited ['a'] [] breaking halfMade)) =
        refuse source (.noTarget ['a']) := by
  intro source finishing breaking finished
  have fits : Json.Fits Json.maxDepth (.object halfMade) := by
    apply fits_composed
    · exact .object (List.forall_mem_nil _) List.nodup_nil
    · simp only [List.forall_mem_cons]
      exact ⟨fits_bundledProfile _ _ _ 982, fits_bundledProfile _ _ _ 982, List.forall_mem_nil _⟩
    · decide
  have read : readSource unfinished source = .ok (.object halfMade) := readSource_render fits rfl
  have isObject (name : Text) (member : name = ['a'] ∨ name = ['b']) : ObjectIfPresent name
      [("a", bundledProfile "a" "a" "a-b"), ("b", bundledProfile "b" "ab" "a-b")] := by
    intro value found
    rcases member with rfl | rfl
    · cases found
      exact ⟨_, rfl⟩
    · cases found
      exact ⟨_, rfl⟩
  have mends := load_overriding read rfl rfl (List.cons_ne_nil _ _) (List.cons_ne_nil _ _)
    (isObject ['b'] (Or.inr rfl)) [] finishing
  have breaks := load_overriding read rfl rfl (List.cons_ne_nil _ _) (List.cons_ne_nil _ _)
    (isObject ['a'] (Or.inl rfl)) [] breaking
  have mended : ofJson source (some ['b']) .null (.object (edited ['b'] [] finishing halfMade)) =
      .ok finished := by
    decide +kernel
  have broken : ofJson source (some ['a']) .null (.object (edited ['a'] [] breaking halfMade)) =
      refuse source (.noTarget ['a']) := by
    decide +kernel
  have unmended : load unfinished source (some ['b']) =
      refuse source (.badTarget ['b'] "ab" .unrecognised) := by
    decide +kernel
  exact ⟨unmended, mends.1.trans mended, mended, breaks.1.trans broken, broken⟩

end CharTally.Settings
