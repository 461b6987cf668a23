import CharTally.Files
import CharTally.Proofs.Session
import CharTally.Proofs.Text.Utf8

/-!
# What becomes of places

Two relations say how files may change. `KeepsFolders` says that every folder is
still there, which is all that `walk` asks for: a path that led to a place leads
to it for ever (`locate_of_keepsFolders`). `Grows` says that nothing changed except
that folders were added where nothing stood; that is what making folders does
(`ensureFolders_grows`), and where a path already leads somewhere it does nothing
(`ensureFolders_parent_of_locate`).

`Vacant` is the state in which a file can be created at a path: the folders above
it can be made, and then nothing stands there.
-/

namespace CharTally.Files

variable {files made later : Files} {path : FilePath} {here place : Place} {names : List Text}

/-! ## Looking up and setting -/

theorem get?_start (start : files.isStart place = true) : files.get? place = some .folder := by
  rw [get?, if_pos start]

@[simp] theorem here_clear (files : Files) (place : Place) :
    (files.clear place).here = files.here :=
  rfl

@[simp] theorem here_set (files : Files) (place : Place) (entry : Entry) :
    (files.set place entry).here = files.here := rfl

theorem lookup_filter_ne {other : Place} (entries : List (Place × Entry))
    (differs : other ≠ place) :
    (entries.filter fun (known, _) => known ≠ place).lookup other = entries.lookup other := by
  induction entries with
  | nil => rfl
  | cons entry rest ih =>
    obtain ⟨known, content⟩ := entry
    by_cases same : known = place
    · subst same
      rw [List.filter_cons_of_neg (by simp), ih, List.lookup_cons, beq_false_of_ne differs]
    · rw [List.filter_cons_of_pos (by simpa using same), List.lookup_cons, List.lookup_cons, ih]

theorem lookup_filter_self (entries : List (Place × Entry)) :
    (entries.filter fun (known, _) => known ≠ place).lookup place = none := by
  induction entries with
  | nil => rfl
  | cons entry rest ih =>
    obtain ⟨known, content⟩ := entry
    by_cases same : known = place
    · rw [List.filter_cons_of_neg (by simp [same]), ih]
    · rw [List.filter_cons_of_pos (by simpa using same), List.lookup_cons,
        beq_false_of_ne (Ne.symm same), ih]

/-- What is taken away is gone, and every other place is as it was. A start stays. -/
theorem get?_clear (files : Files) (place other : Place) (notStart : files.isStart place = false) :
    (files.clear place).get? other = if other = place then none else files.get? other := by
  by_cases same : other = place
  · subst same
    rw [if_pos rfl, get?, isStart, here_clear, ← isStart,
      if_neg (ne_true_of_eq_false notStart)]
    exact lookup_filter_self files.entries
  · rw [if_neg same, get?, get?]
    simp only [clear, lookup_filter_ne files.entries same]
    rfl

/-- Every other place is as it was. -/
theorem get?_set_elsewhere (files : Files) {other : Place} (entry : Entry)
    (differs : other ≠ place) : (files.set place entry).get? other = files.get? other := by
  rw [get?, get?, set]
  simp only [List.lookup_cons, beq_false_of_ne differs, clear,
    lookup_filter_ne files.entries differs]
  rfl

/-- What was set is there, and every other place is as it was. Nothing can be set at a start. -/
theorem get?_set (files : Files) (place other : Place) (entry : Entry)
    (notStart : files.isStart place = false) :
    (files.set place entry).get? other =
      if other = place then some entry else files.get? other := by
  by_cases same : other = place
  · subst same
    rw [if_pos rfl, get?, isStart, here_set, ← isStart,
      if_neg (ne_true_of_eq_false notStart), set]
    exact List.lookup_cons_self
  · rw [if_neg same, get?_set_elsewhere files entry same]

theorem get?_set_self (files : Files) (entry : Entry) (notStart : files.isStart place = false) :
    (files.set place entry).get? place = some entry := by
  rw [get?_set files place place entry notStart, if_pos rfl]

theorem get?_set_of_ne (files : Files) {other : Place} (entry : Entry)
    (notStart : files.isStart place = false) (differs : other ≠ place) :
    (files.set place entry).get? other = files.get? other := by
  rw [get?_set files place other entry notStart, if_neg differs]

/-- A place where no folder stands is no start. -/
theorem isStart_eq_false (notFolder : files.get? place ≠ some .folder) :
    files.isStart place = false := by
  cases start : files.isStart place with
  | false => rfl
  | true => exact absurd (get?_start start) notFolder

/-! ## Paths keep leading where they led -/

/-- Every folder is still there, and relative paths start where they started. -/
structure KeepsFolders (files later : Files) : Prop where
  here : later.here = files.here
  folders : ∀ place, files.get? place = some .folder → later.get? place = some .folder

theorem KeepsFolders.refl (files : Files) : KeepsFolders files files :=
  ⟨rfl, fun _ folder => folder⟩

theorem KeepsFolders.trans (first : KeepsFolders files made) (second : KeepsFolders made later) :
    KeepsFolders files later where
  here := second.here.trans first.here
  folders place folder := second.folders place (first.folders place folder)

theorem KeepsFolders.set (entry : Entry) (notFolder : files.get? place ≠ some .folder) :
    KeepsFolders files (files.set place entry) where
  here := rfl
  folders other folder := by
    have differs : other ≠ place := by rintro rfl; exact notFolder folder
    rw [get?_set_of_ne files entry (isStart_eq_false notFolder) differs]
    exact folder

/-- A name leads on from a folder, unless it is too long for one. -/
theorem walk_cons_eq_ok {name : Text} :
    files.walk here (name :: names) = .ok place ↔
      files.get? here = some .folder ∧ (name = up ∨ isTooLong name = false) ∧
        files.walk (stepFrom here name) names = .ok place := by
  rw [walk]
  cases found : files.get? here with
  | none => simp
  | some entry =>
    cases entry with
    | folder =>
      by_cases dots : name = up
      · simp [dots]
      · by_cases long : isTooLong name = true <;> simp [dots, long]
    | document bytes => simp
    | ledger content => simp

theorem walk_of_keepsFolders (kept : KeepsFolders files later)
    (walked : files.walk here names = .ok place) : later.walk here names = .ok place := by
  induction names generalizing here with
  | nil => exact walked
  | cons name rest ih =>
    obtain ⟨folder, fits, onward⟩ := walk_cons_eq_ok.mp walked
    exact walk_cons_eq_ok.mpr ⟨kept.folders here folder, fits, ih onward⟩

/-- A path that can be looked up at all. -/
structure Usable (path : FilePath) : Prop where
  flawless : path.flaw? = none
  short : path.isTooLong = false

theorem locate_eq_ok :
    files.locate path = .ok place ↔
      Usable path ∧ files.walk (files.start path) path.names = .ok place := by
  rw [locate]
  cases flaw : path.flaw? with
  | some found =>
    refine ⟨nofun, fun located => ?_⟩
    cases flaw.symm.trans located.1.flawless
  | none =>
    cases long : path.isTooLong with
    | true =>
      refine ⟨nofun, fun located => ?_⟩
      cases long.symm.trans located.1.short
    | false =>
      have usable : Usable path := ⟨flaw, long⟩
      cases walked : files.walk (files.start path) path.names <;> simp [usable]

theorem start_of_here (same : later.here = files.here) (path : FilePath) :
    later.start path = files.start path := by
  rw [start, start, same]

theorem spelled_of_here (same : later.here = files.here) (path : FilePath) :
    later.spelled path = files.spelled path := by
  rw [spelled, spelled, start_of_here same]

theorem eq_foldl_of_walk (walked : files.walk here names = .ok place) :
    place = names.foldl stepFrom here := by
  induction names generalizing here with
  | nil =>
    cases walked
    rfl
  | cons name rest ih =>
    obtain ⟨_, _, onward⟩ := walk_cons_eq_ok.mp walked
    exact ih onward

/-- Where a path leads, it leads to the place that it spells. -/
theorem eq_spelled (located : files.locate path = .ok place) : place = files.spelled path :=
  eq_foldl_of_walk (locate_eq_ok.mp located).2

theorem locate_of_keepsFolders (kept : KeepsFolders files later)
    (located : files.locate path = .ok place) : later.locate path = .ok place := by
  obtain ⟨usable, walked⟩ := locate_eq_ok.mp located
  rw [← start_of_here kept.here] at walked
  exact locate_eq_ok.mpr ⟨usable, walk_of_keepsFolders kept walked⟩

theorem locate_set (entry : Entry) (notFolder : files.get? here ≠ some .folder)
    (located : files.locate path = .ok place) : (files.set here entry).locate path = .ok place :=
  locate_of_keepsFolders (KeepsFolders.set entry notFolder) located

/-- The last of some names leads on from the folder to which those in front of it lead. -/
theorem walk_concat {name : Text} :
    files.walk here (names ++ [name]) = .ok place ↔
      ∃ folder, files.walk here names = .ok folder ∧ files.get? folder = some .folder ∧
        (name = up ∨ isTooLong name = false) ∧ place = stepFrom folder name := by
  induction names generalizing here with
  | nil =>
    rw [List.nil_append, walk_cons_eq_ok]
    constructor
    · rintro ⟨folder, fits, arrived⟩
      cases arrived
      exact ⟨here, rfl, folder, fits, rfl⟩
    · rintro ⟨_, ⟨rfl⟩, folder, fits, rfl⟩
      exact ⟨folder, fits, rfl⟩
  | cons first rest ih =>
    rw [List.cons_append, walk_cons_eq_ok, ih]
    constructor
    · rintro ⟨isFolder, fits, folder, walked, more⟩
      exact ⟨folder, walk_cons_eq_ok.mpr ⟨isFolder, fits, walked⟩, more⟩
    · rintro ⟨folder, walked, more⟩
      obtain ⟨isFolder, fits, onward⟩ := walk_cons_eq_ok.mp walked
      exact ⟨isFolder, fits, folder, onward, more⟩

/-- A name that is too long is so in all files. -/
theorem walk_ne_nameTooLong (files : Files) (walked : later.walk here names = .ok place) :
    files.walk here names ≠ .error .nameTooLong := by
  induction names generalizing here with
  | nil => exact fun h => nomatch h
  | cons name rest ih =>
    obtain ⟨_, fits, onward⟩ := walk_cons_eq_ok.mp walked
    have next := ih onward
    rw [walk]
    cases files.get? here with
    | none => simp
    | some entry =>
      cases entry with
      | folder =>
        have short : ¬ (name ≠ up ∧ isTooLong name = true) := by
          rintro ⟨named, long⟩
          rcases fits with dots | short
          · exact named dots
          · cases long.symm.trans short
        simpa only [if_neg short] using next
      | document bytes => simp
      | ledger content => simp

/-! ## Paths that can be used -/

theorem joined_cons_cons (separator first second : Text) (rest : List Text) :
    Text.joined separator (first :: second :: rest) =
      first ++ (separator ++ Text.joined separator (second :: rest)) := by
  simp [Text.joined, List.intercalate]

theorem joined_singleton (separator text : Text) : Text.joined separator [text] = text := by
  simp [Text.joined, List.intercalate]

/-- Without the last of some names, their text is the beginning of what it was. -/
theorem joined_dropLast (separator : Text) (names : List Text) :
    Text.joined separator names.dropLast <+: Text.joined separator names := by
  induction names with
  | nil => exact List.prefix_refl _
  | cons first rest ih =>
    cases rest with
    | nil => exact List.nil_prefix
    | cons second rest =>
      rw [joined_cons_cons, List.dropLast_cons_cons]
      cases front : (second :: rest).dropLast with
      | nil =>
        rw [joined_singleton]
        exact List.prefix_append _ _
      | cons third more =>
        rw [joined_cons_cons, ← front]
        exact (List.prefix_append_right_inj first).mpr
          ((List.prefix_append_right_inj separator).mpr ih)

/-- The parent of a path is spelled with its code points, or is a dot. -/
theorem mem_toText_parent {c : CodePoint} (member : c ∈ path.parent.toText) :
    c = scalar '.' ∨ c ∈ path.toText := by
  rw [FilePath.toText] at member
  split at member
  · exact Or.inl (List.mem_singleton.mp member)
  · rename_i named
    apply Or.inr
    have shown : path.toText = path.root ++ Text.joined "/" path.names := by
      rw [FilePath.toText, if_neg]
      intro unnamed
      simp_all [FilePath.parent]
    rw [shown]
    rcases List.mem_append.mp member with inRoot | inNames
    · exact List.mem_append_left _ inRoot
    · exact List.mem_append_right _ ((joined_dropLast "/" path.names).subset inNames)

theorem flaw?_eq_none : path.flaw? = none ↔
    (∀ c ∈ path.toText, c.isHalf = true → FilePath.standsForByte c = true) ∧
      path.hasNul = false := by
  rw [FilePath.flaw?, ← Utf8.unencodable?_eq_none]
  cases Utf8.unencodable? path.toText FilePath.standsForByte with
  | some fault => simp
  | none => cases path.hasNul <;> simp

theorem width_append (names more : List Text) :
    FilePath.width (names ++ more) = FilePath.width names + FilePath.width more := by
  induction names with
  | nil => exact (Nat.zero_add _).symm
  | cons name rest ih =>
    rw [List.cons_append, FilePath.width, FilePath.width, ih]
    omega

/-- A path is as usable as those that begin with it. -/
theorem Usable.parent (usable : Usable path) : Usable path.parent := by
  obtain ⟨spared, clean⟩ := flaw?_eq_none.mp usable.flawless
  refine ⟨flaw?_eq_none.mpr ⟨?_, ?_⟩, ?_⟩
  · intro c member isHalf
    rcases mem_toText_parent member with rfl | inside
    · cases isHalf
    · exact spared c inside isHalf
  · rw [FilePath.hasNul, List.any_eq_false] at clean ⊢
    exact fun name member => clean name ((List.dropLast_sublist _).mem member)
  · obtain ⟨tail, whole⟩ := List.dropLast_prefix path.names
    have short := usable.short
    rw [FilePath.isTooLong, decide_eq_false_iff_not, ← whole, width_append] at short
    rw [FilePath.isTooLong, decide_eq_false_iff_not]
    dsimp only [FilePath.parent]
    omega

/-- A path leads to a place through the folder of its parent, in these files and in all files where
the parent leads to this folder. -/
theorem locate_parent (located : files.locate path = .ok place) (named : path.names ≠ []) :
    ∃ folder, files.locate path.parent = .ok folder ∧ files.get? folder = some .folder ∧
      ∀ later : Files, later.locate path.parent = .ok folder → later.get? folder = some .folder →
        later.locate path = .ok place := by
  obtain ⟨usable, walked⟩ := locate_eq_ok.mp located
  have whole : path.names = path.parent.names ++ [path.names.getLast named] :=
    (List.dropLast_concat_getLast named).symm
  rw [whole] at walked
  obtain ⟨folder, walkedParent, isFolder, fits, arrived⟩ := walk_concat.mp walked
  refine ⟨folder, locate_eq_ok.mpr ⟨usable.parent, walkedParent⟩, isFolder, ?_⟩
  intro later locatedLater folderLater
  obtain ⟨_, walkedLater⟩ := locate_eq_ok.mp locatedLater
  refine locate_eq_ok.mpr ⟨usable, ?_⟩
  rw [whole]
  exact walk_concat.mpr ⟨folder, walkedLater, folderLater, fits, arrived⟩

/-- A path without names leads to a start. -/
theorem names_ne_nil (located : files.locate path = .ok place)
    (notFolder : files.get? place ≠ some .folder) : path.names ≠ [] := by
  obtain ⟨_, walked⟩ := locate_eq_ok.mp located
  intro none_
  rw [none_, walk] at walked
  cases walked
  refine notFolder (get?_start ?_)
  unfold start isStart
  split <;> simp

/-! ## Making folders -/

/-- Nothing changed except that folders were added where nothing stood. -/
structure Grows (files later : Files) : Prop where
  here : later.here = files.here
  places : ∀ place, later.get? place = files.get? place ∨
    (files.get? place = none ∧ later.get? place = some .folder)

theorem Grows.refl (files : Files) : Grows files files := ⟨rfl, fun _ => Or.inl rfl⟩

theorem Grows.trans (first : Grows files made) (second : Grows made later) :
    Grows files later where
  here := second.here.trans first.here
  places place := by
    rcases second.places place with same | ⟨absent, folder⟩
    · rcases first.places place with same' | ⟨absent, folder⟩
      · exact Or.inl (same.trans same')
      · exact Or.inr ⟨absent, same.trans folder⟩
    · rcases first.places place with same' | ⟨absent', folder'⟩
      · exact Or.inr ⟨same'.symm.trans absent, folder⟩
      · rw [folder'] at absent; cases absent

theorem Grows.get?_eq_some (grown : Grows files later) {entry : Entry}
    (found : files.get? place = some entry) : later.get? place = some entry := by
  rcases grown.places place with same | ⟨absent, _⟩
  · exact same.trans found
  · rw [absent] at found; cases found

theorem Grows.get?_eq_none (grown : Grows files later) (absent : later.get? place = none) :
    files.get? place = none := by
  rcases grown.places place with same | ⟨absent', _⟩
  · exact same.symm.trans absent
  · exact absent'

/-- What is no folder behind the growth was there before it. -/
theorem Grows.get?_of_not_folder (grown : Grows files later)
    (notFolder : later.get? place ≠ some .folder) : later.get? place = files.get? place := by
  rcases grown.places place with same | ⟨_, folder⟩
  · exact same
  · exact absurd folder notFolder

theorem Grows.keepsFolders (grown : Grows files later) : KeepsFolders files later where
  here := grown.here
  folders _ folder := grown.get?_eq_some folder

/-- A folder may be put where nothing stands. -/
theorem Grows.folder (absent : files.get? place = none) :
    Grows files (files.set place .folder) where
  here := rfl
  places other := by
    have notFolder : files.get? place ≠ some .folder := by rw [absent]; exact fun h => nomatch h
    have notStart := isStart_eq_false notFolder
    by_cases same : other = place
    · subst same
      exact Or.inr ⟨absent, get?_set_self files .folder notStart⟩
    · exact Or.inl (get?_set_of_ne files .folder notStart same)

/-- One folder is made where nothing stands, or nothing changes. -/
theorem leftBy_ensureFolder_cases (path : FilePath) (files : Files) :
    leftBy (ensureFolder path) files = files ∨
      ∃ place, files.locate path = .ok place ∧ files.get? place = none ∧
        leftBy (ensureFolder path) files = files.set place .folder := by
  rw [leftBy, ensureFolder]
  cases tried : files.makeFolder path with
  | error fault =>
    apply Or.inl
    dsimp only
    by_cases known : files.isFolder path = true
    · rw [if_pos known]
    · rw [if_neg known]
  | ok added =>
    rw [makeFolder] at tried
    cases located : files.locate path with
    | error fault => rw [located] at tried; cases tried
    | ok place =>
      rw [located] at tried
      dsimp only at tried
      cases found : files.get? place with
      | some entry => rw [found] at tried; cases tried
      | none =>
        rw [found] at tried
        cases tried
        exact Or.inr ⟨place, rfl, found, rfl⟩

theorem leftBy_ensureFolder_grows (path : FilePath) (files : Files) :
    Grows files (leftBy (ensureFolder path) files) := by
  rcases leftBy_ensureFolder_cases path files with same | ⟨place, _, absent, made⟩
  · rw [same]
    exact Grows.refl files
  · rw [made]
    exact .folder absent

/-- The last folder is made alone, or behind those above it. -/
theorem ensureFoldersFrom_cons (root name : Text) (rest : List Text) (files : Files) :
    ensureFoldersFrom root (name :: rest) files =
        (ensureFoldersFrom root rest >>= fun _ =>
          ensureFolder ⟨root, (name :: rest).reverse⟩) files ∨
      ensureFoldersFrom root (name :: rest) files =
        ensureFolder ⟨root, (name :: rest).reverse⟩ files := by
  rw [ensureFoldersFrom]
  dsimp only
  split
  · exact Or.inl rfl
  · exact Or.inr rfl

theorem leftBy_ensureFoldersFrom_grows (root : Text) (names : List Text) (files : Files) :
    Grows files (leftBy (ensureFoldersFrom root names) files) := by
  induction names generalizing files with
  | nil => exact leftBy_ensureFolder_grows ⟨root, []⟩ files
  | cons name rest ih =>
    rcases ensureFoldersFrom_cons root name rest files with above | alone
    · -- the folders above come first, and may be all that is made
      have grown := ih files
      rw [leftBy, above, ← leftBy, leftBy_bind]
      cases ran : ensureFoldersFrom root rest files with
      | ok _ middle =>
        rw [leftBy_of_ok ran] at grown
        exact grown.trans (leftBy_ensureFolder_grows _ middle)
      | error fault after =>
        rw [leftBy_of_error ran] at grown
        exact grown
    · rw [leftBy, alone, ← leftBy]
      exact leftBy_ensureFolder_grows _ files

theorem ensureFoldersFrom_grows {root : Text}
    (ran : ensureFoldersFrom root names files = .ok () made) : Grows files made := by
  have grown := leftBy_ensureFoldersFrom_grows root names files
  rw [leftBy_of_ok ran] at grown
  exact grown

/-- Making folders only adds folders, even if it fails on the way. -/
theorem leftBy_ensureFolders_grows (path : FilePath) (files : Files) :
    Grows files (leftBy (ensureFolders path) files) := by
  have grown := leftBy_ensureFoldersFrom_grows path.root path.names.reverse files
  unfold leftBy ensureFolders at *
  by_cases deep : maxMissing < files.missing path
  · rw [if_pos deep]
    exact Grows.refl files
  · rw [if_neg deep]
    exact grown

theorem ensureFolders_grows (ran : ensureFolders path files = .ok () made) : Grows files made := by
  have grown := leftBy_ensureFolders_grows path files
  rw [leftBy_of_ok ran] at grown
  exact grown

theorem makeFolder_of_folder (located : files.locate path = .ok place)
    (folder : files.get? place = some .folder) :
    files.makeFolder path = .error (.obstacle path .occupied) := by
  rw [makeFolder, located]
  dsimp only
  rw [folder]

theorem ensureFolder_of_folder (located : files.locate path = .ok place)
    (folder : files.get? place = some .folder) : ensureFolder path files = .ok () files := by
  have known : files.isFolder path = true := by
    rw [isFolder, located]
    simp [folder]
  rw [ensureFolder, makeFolder_of_folder located folder]
  dsimp only
  rw [if_pos known]

/-- Folders are made one by one, unless too many are missing. -/
theorem ensureFolders_eq_ok : ensureFolders path files = .ok () made ↔
    files.missing path ≤ maxMissing ∧
      ensureFoldersFrom path.root path.names.reverse files = .ok () made := by
  rw [ensureFolders]
  split
  · exact ⟨nofun, fun within => by omega⟩
  · exact (and_iff_right (by omega)).symm

/-- No folder is missing in front of one that is there. -/
theorem missing_of_folder (located : files.locate path = .ok place)
    (folder : files.get? place = some .folder) : files.missing path = 0 := by
  have tried := makeFolder_of_folder located folder
  rw [missing]
  cases shape : path.names.reverse with
  | nil => rfl
  | cons name rest =>
    have whole : (⟨path.root, (name :: rest).reverse⟩ : FilePath) = path := by
      rw [← shape, List.reverse_reverse]
    rw [missingFrom, whole, tried]

/-- A folder that is there is left alone. -/
theorem ensureFolders_of_folder (located : files.locate path = .ok place)
    (folder : files.get? place = some .folder) : ensureFolders path files = .ok () files := by
  have tried := makeFolder_of_folder located folder
  have ensured := ensureFolder_of_folder located folder
  refine ensureFolders_eq_ok.mpr ⟨by rw [missing_of_folder located folder]; omega, ?_⟩
  cases shape : path.names.reverse with
  | nil =>
    have whole : (⟨path.root, []⟩ : FilePath) = path := by
      obtain ⟨root, names⟩ := path
      simp_all
    rw [ensureFoldersFrom, whole]
    exact ensured
  | cons name rest =>
    have whole : (⟨path.root, (name :: rest).reverse⟩ : FilePath) = path := by
      rw [← shape, List.reverse_reverse]
    rw [ensureFoldersFrom]
    dsimp only
    rw [whole, tried]
    exact ensured

/-- A folder that was made, or was there, is where its path leads. -/
theorem locate_of_ensureFolder (ran : ensureFolder path files = .ok () made) :
    ∃ place, made.locate path = .ok place ∧ made.get? place = some .folder := by
  rw [ensureFolder] at ran
  cases tried : files.makeFolder path with
  | ok added =>
    rw [tried] at ran
    cases ran
    rw [makeFolder] at tried
    cases located : files.locate path with
    | error fault => rw [located] at tried; cases tried
    | ok place =>
      rw [located] at tried
      dsimp only at tried
      cases found : files.get? place with
      | some entry => rw [found] at tried; cases tried
      | none =>
        rw [found] at tried
        cases tried
        have notFolder : files.get? place ≠ some .folder := by simp [found]
        exact ⟨place, locate_set .folder notFolder located,
          get?_set_self files .folder (isStart_eq_false notFolder)⟩
  | error fault =>
    rw [tried] at ran
    dsimp only at ran
    split at ran
    case isFalse => cases ran
    case isTrue known =>
      cases ran
      rw [isFolder] at known
      cases located : files.locate path with
      | error fault => rw [located] at known; cases known
      | ok place =>
        rw [located] at known
        exact ⟨place, rfl, of_decide_eq_true known⟩

theorem locate_of_ensureFoldersFrom {root : Text}
    (ran : ensureFoldersFrom root names files = .ok () made) :
    ∃ place, made.locate ⟨root, names.reverse⟩ = .ok place ∧
      made.get? place = some .folder := by
  cases names with
  | nil => exact locate_of_ensureFolder ran
  | cons name rest =>
    rcases ensureFoldersFrom_cons root name rest files with above | alone
    · rw [above] at ran
      obtain ⟨_, _, _, last⟩ := bind_eq_ok.mp ran
      exact locate_of_ensureFolder last
    · rw [alone] at ran
      exact locate_of_ensureFolder ran

/-- Folders that were made need not be made again. -/
theorem ensureFolders_again (ran : ensureFolders path files = .ok () made) :
    ensureFolders path made = .ok () made := by
  obtain ⟨place, located, folder⟩ := locate_of_ensureFoldersFrom (ensureFolders_eq_ok.mp ran).2
  rw [List.reverse_reverse] at located
  exact ensureFolders_of_folder located folder

/-- Where a path already leads to a place for a file, there is no folder left to make. -/
theorem ensureFolders_parent_of_locate (located : files.locate path = .ok place)
    (notFolder : files.get? place ≠ some .folder) :
    ensureFolders path.parent files = .ok () files := by
  obtain ⟨folder, locatedParent, isFolder, _⟩ :=
    locate_parent located (names_ne_nil located notFolder)
  exact ensureFolders_of_folder locatedParent isFolder

/-! ## Documents -/

/-- Bytes are added to a document, or begin one, or are lost behind a ledger. -/
theorem append_eq_ok {more : List UInt8} (ran : files.append path more = .ok later) :
    ∃ place, files.locate path = .ok place ∧
      (files.get? place = none ∧ later = files.set place (.document more) ∨
        (∃ bytes, files.get? place = some (.document bytes) ∧
          later = files.set place (.document (bytes ++ more))) ∨
        ∃ content, files.get? place = some (.ledger content) ∧ later = files) := by
  unfold append at ran
  cases located : files.locate path with
  | error fault => rw [located] at ran; cases ran
  | ok place =>
    refine ⟨place, rfl, ?_⟩
    rw [located] at ran
    dsimp only at ran
    cases found : files.get? place with
    | none => rw [found] at ran; cases ran; exact Or.inl ⟨rfl, rfl⟩
    | some entry =>
      rw [found] at ran
      cases entry with
      | folder => cases ran
      | document bytes => cases ran; exact Or.inr (Or.inl ⟨bytes, rfl, rfl⟩)
      | ledger content => cases ran; exact Or.inr (Or.inr ⟨content, rfl, rfl⟩)

/-- No folder comes by writing to a document. -/
theorem folder_of_append {more : List UInt8} (added : files.append path more = .ok later)
    (folder : later.get? place = some .folder) : files.get? place = some .folder := by
  obtain ⟨there, _, outcome⟩ := append_eq_ok added
  have other {bytes : List UInt8} (notFolder : files.get? there ≠ some .folder)
      (isFolder : (files.set there (.document bytes)).get? place = some .folder) :
      files.get? place = some .folder := by
    rw [get?_set files there place _ (isStart_eq_false notFolder)] at isFolder
    split at isFolder
    case isTrue => cases isFolder
    case isFalse => exact isFolder
  rcases outcome with ⟨absent, rfl⟩ | ⟨bytes, present, rfl⟩ | ⟨content, _, rfl⟩
  · exact other (by simp [absent]) folder
  · exact other (by simp [present]) folder
  · exact folder

/-- Bytes can be added wherever a path leads to something other than a folder. -/
theorem append_of_locate (located : files.locate path = .ok place)
    (notFolder : files.get? place ≠ some .folder) (more : List UInt8) :
    ∃ later, files.append path more = .ok later := by
  rw [append, located]
  dsimp only
  cases found : files.get? place with
  | none => exact ⟨_, rfl⟩
  | some entry =>
    cases entry with
    | folder => exact absurd found notFolder
    | document bytes => exact ⟨_, rfl⟩
    | ledger content => exact ⟨_, rfl⟩

/-! ## Ledgers that are left alone -/

/-- Folders stay, and no ledger comes, goes or changes. -/
structure KeepsLedgers (files later : Files) : Prop where
  folders : KeepsFolders files later
  ledgers : ∀ place content, later.get? place = some (.ledger content) ↔
    files.get? place = some (.ledger content)

theorem KeepsLedgers.refl (files : Files) : KeepsLedgers files files :=
  ⟨KeepsFolders.refl files, fun _ _ => Iff.rfl⟩

theorem KeepsLedgers.of_grows (grown : Grows files later) : KeepsLedgers files later where
  folders := grown.keepsFolders
  ledgers place content := by
    rcases grown.places place with same | ⟨absent, folder⟩
    · rw [same]
    · simp [absent, folder]

/-- A document that is put where no folder and no ledger stands leaves both alone. -/
theorem KeepsLedgers.set_document (bytes : List UInt8)
    (notFolder : files.get? place ≠ some .folder)
    (notLedger : ∀ content, files.get? place ≠ some (.ledger content)) :
    KeepsLedgers files (files.set place (.document bytes)) where
  folders := KeepsFolders.set _ notFolder
  ledgers other content := by
    rw [get?_set files place other _ (isStart_eq_false notFolder)]
    split
    case isTrue same => simp [same, notLedger content]
    case isFalse => rfl

/-- What is written to a document leaves ledgers alone. -/
theorem KeepsLedgers.append {more : List UInt8} (added : files.append path more = .ok later) :
    KeepsLedgers files later := by
  obtain ⟨place, _, outcome⟩ := append_eq_ok added
  rcases outcome with ⟨absent, rfl⟩ | ⟨bytes, present, rfl⟩ | ⟨content, _, rfl⟩
  · exact set_document _ (by simp [absent]) (by simp [absent])
  · exact set_document _ (by simp [present]) (by simp [present])
  · exact refl _

/-! ## Work that cannot begin -/

/-- What a path is like if work on it cannot begin: a NUL is in it, or half of a surrogate pair that
stands for no byte, or it has more names than folders can be made at once. -/
def Spoils (path : FilePath) : Unworkable → Prop
  | .flaw .nul => path.hasNul = true
  | .flaw (.unencodable _) =>
    ∃ c ∈ path.toText, c.isHalf = true ∧ FilePath.standsForByte c = false
  | .tooDeep => maxMissing < path.names.length

variable {why : Unworkable}

/-- The folders above a path can be made, and then nothing stands where it leads. -/
def Vacant (path : FilePath) (files : Files) : Prop :=
  ∃ made place, ensureFolders path.parent files = .ok () made ∧
    made.locate path = .ok place ∧ made.get? place = none

/-- Behind the making of the folders there is still room, and nothing more to make. -/
theorem Vacant.ensured (vacant : Vacant path files) :
    ∃ made, ensureFolders path.parent files = .ok () made ∧ Vacant path made := by
  obtain ⟨made, place, ran, located, absent⟩ := vacant
  have notFolder : made.get? place ≠ some .folder := by rw [absent]; exact fun h => nomatch h
  exact ⟨made, ran, made, place, ensureFolders_parent_of_locate located notFolder, located, absent⟩

/-- Where a vacant path leads to, nothing stands. -/
theorem Vacant.get?_eq_none (vacant : Vacant path files) (located : files.locate path = .ok place) :
    files.get? place = none := by
  obtain ⟨made, there, ran, located', absent⟩ := vacant
  have grown := ensureFolders_grows ran
  cases (locate_of_keepsFolders grown.keepsFolders located).symm.trans located'
  exact grown.get?_eq_none absent

/-- A vacant path leads nowhere, or to a place where nothing stands. -/
theorem Vacant.contains (vacant : Vacant path files) : files.contains path = .ok false := by
  rw [Files.contains]
  cases found : files.locate path with
  | ok here =>
    dsimp only
    rw [vacant.get?_eq_none found]
    rfl
  | error fault =>
    obtain ⟨made, place, ran, located, absent⟩ := vacant
    obtain ⟨usable, walked⟩ := locate_eq_ok.mp located
    rw [start_of_here (ensureFolders_grows ran).here] at walked
    have short := walk_ne_nameTooLong files walked
    rw [locate, usable.flawless] at found
    dsimp only at found
    rw [if_neg (ne_true_of_eq_false usable.short)] at found
    cases stopped : files.walk (files.start path) path.names with
    | ok here => rw [stopped] at found; cases found
    | error what =>
      rw [stopped] at found short
      cases found
      cases what <;> first | rfl | exact absurd rfl short

end CharTally.Files
