import CharTally.Proofs.Files
import Mathlib.Data.List.Infix

/-!
# Room for files

Making folders can fail: a file may stand in the way, a name may be too long, or too
many folders may be missing. It does not fail where there is room. `made` stands for
files with some more folders in which a path leads to a place. As long as the files that
are there lie `Within` it, making folders on the way succeeds, adds nothing that `made`
lacks, and the path leads to its place (`ensureFolders_parent_within`). As nothing is
made beyond `made`, there is still room for every other path behind it; and there is,
too, when files come or go where `made` has no folders.

What stands off the way to a path has no part in this: it is left as it was
(`ensureFolders_off`), and a file that is put there leaves room for the path
(`ensureFolders_parent_off`). So do folders, on the way or off it, that are not put at
its end (`ensureFolders_parent_of_grows`).
-/

namespace CharTally.Files

variable {files made later : Files} {path : FilePath} {here place : Place} {names : List Text}
  {entry : Entry}

/-! ## Two stages -/

/-- The folders of the one stage are folders of the other, and where the other has more of them,
nothing stands in the one. -/
structure Within (files made : Files) : Prop where
  here : made.here = files.here
  folders : ∀ place, files.get? place = some .folder → made.get? place = some .folder
  room : ∀ place, made.get? place = some .folder →
    files.get? place = none ∨ files.get? place = some .folder

theorem Grows.within (grown : Grows files made) : Within files made where
  here := grown.here
  folders _ folder := grown.get?_eq_some folder
  room place folder := by
    rcases grown.places place with same | ⟨absent, _⟩
    · exact Or.inr (same.symm.trans folder)
    · exact Or.inl absent

/-- A folder that the later stage has may be put into the earlier one. -/
theorem Within.set_folder (within : Within files made) (absent : files.get? place = none)
    (folder : made.get? place = some .folder) : Within (files.set place .folder) made := by
  have notStart : files.isStart place = false := isStart_eq_false (by simp [absent])
  refine ⟨within.here, fun other isFolder => ?_, fun other isFolder => ?_⟩
  · rw [get?_set files place other .folder notStart] at isFolder
    split at isFolder
    case isTrue same => rw [same, folder]
    case isFalse => exact within.folders other isFolder
  · rw [get?_set files place other .folder notStart]
    split
    case isTrue => exact Or.inr rfl
    case isFalse => exact within.room other isFolder

/-- A file may be put where the later stage has no folder. -/
theorem Within.set_file (within : Within files made) (notFolder : made.get? place ≠ some .folder)
    (isFile : entry ≠ .folder) : Within (files.set place entry) made := by
  have notFolderHere : files.get? place ≠ some .folder :=
    fun folder => notFolder (within.folders place folder)
  have notStart := isStart_eq_false notFolderHere
  refine ⟨within.here, fun other isFolder => ?_, fun other isFolder => ?_⟩
  · rw [get?_set files place other entry notStart] at isFolder
    split at isFolder
    case isTrue => exact absurd (Option.some.inj isFolder) isFile
    case isFalse => exact within.folders other isFolder
  · have differs : other ≠ place := by
      rintro rfl
      exact notFolder isFolder
    rw [get?_set_of_ne files entry notStart differs]
    exact within.room other isFolder

/-- Where names lead in the later stage, they lead in the earlier one, unless a folder is missing
on the way. -/
theorem walk_within (within : Within files made) (walked : made.walk here names = .ok place) :
    files.walk here names = .ok place ∨ files.walk here names = .error .absent := by
  induction names generalizing here with
  | nil => exact Or.inl walked
  | cons name rest ih =>
    obtain ⟨folder, fits, onward⟩ := walk_cons_eq_ok.mp walked
    rcases within.room here folder with absent | isFolder
    · apply Or.inr
      rw [walk, absent]
    · rcases ih onward with arrived | stopped
      · exact Or.inl (walk_cons_eq_ok.mpr ⟨isFolder, fits, arrived⟩)
      · apply Or.inr
        have short : ¬ (name ≠ up ∧ isTooLong name = true) := by
          rintro ⟨named, long⟩
          rcases fits with dots | short
          · exact named dots
          · cases long.symm.trans short
        rw [← stopped, walk, isFolder]
        dsimp only
        rw [if_neg short]

theorem locate_within (within : Within files made) (located : made.locate path = .ok place) :
    files.locate path = .ok place ∨ files.locate path = .error (.obstacle path .absent) := by
  obtain ⟨usable, walked⟩ := locate_eq_ok.mp located
  rw [start_of_here within.here] at walked
  rcases walk_within within walked with arrived | stopped
  · exact Or.inl (locate_eq_ok.mpr ⟨usable, arrived⟩)
  · apply Or.inr
    rw [locate, usable.flawless]
    dsimp only
    rw [if_neg (ne_true_of_eq_false usable.short), stopped]

/-- A folder of the later stage, and the folder above it. -/
theorem locate_above {root name : Text} {rest : List Text}
    (located : made.locate ⟨root, (name :: rest).reverse⟩ = .ok place) :
    ∃ above, made.locate ⟨root, rest.reverse⟩ = .ok above ∧ made.get? above = some .folder ∧
      ∀ later : Files, later.locate ⟨root, rest.reverse⟩ = .ok above →
        later.get? above = some .folder →
        later.locate ⟨root, (name :: rest).reverse⟩ = .ok place := by
  have named : (⟨root, (name :: rest).reverse⟩ : FilePath).names ≠ [] := by simp
  have isParent : (⟨root, (name :: rest).reverse⟩ : FilePath).parent = ⟨root, rest.reverse⟩ := by
    simp [FilePath.parent]
  obtain ⟨above, locatedAbove, isFolder, onward⟩ := locate_parent located named
  rw [isParent] at locatedAbove onward
  exact ⟨above, locatedAbove, isFolder, onward⟩

/-! ## What is missing -/

/-- Where no folder is lost on the way to a folder of the later stage, no more of them are missing
than before. -/
theorem missingFrom_le_of_within {root : Text} (within : Within files made)
    (kept : KeepsFolders files later) (located : made.locate ⟨root, names.reverse⟩ = .ok place) :
    later.missingFrom root names ≤ files.missingFrom root names := by
  induction names generalizing place with
  | nil => exact Nat.le_refl 0
  | cons name rest ih =>
    rw [missingFrom]
    split
    case h_2 => exact Nat.zero_le _
    case h_1 missed failed =>
      rcases locate_within within located with there | missing
      · -- what leads to a place still does
        have stays := locate_of_keepsFolders kept there
        rw [makeFolder, stays] at failed
        dsimp only at failed
        cases found : later.get? place with
        | none => rw [found] at failed; cases failed
        | some entry => rw [found] at failed; cases failed
      · have failedBefore : files.makeFolder ⟨root, (name :: rest).reverse⟩ =
            .error (.obstacle ⟨root, (name :: rest).reverse⟩ .absent) := by
          rw [makeFolder, missing]
        obtain ⟨above, locatedAbove, _⟩ := locate_above located
        rw [missingFrom, failedBefore]
        exact Nat.succ_le_succ (ih locatedAbove)

theorem missing_parent_le (within : Within files made) (kept : KeepsFolders files later)
    (located : made.locate path = .ok place) (named : path.names ≠ []) :
    later.missing path.parent ≤ files.missing path.parent := by
  obtain ⟨above, locatedAbove, _⟩ := locate_parent located named
  have locatedRight : made.locate ⟨path.parent.root, path.parent.names.reverse.reverse⟩ =
      .ok above := by
    rw [List.reverse_reverse]
    exact locatedAbove
  exact missingFrom_le_of_within within kept locatedRight

/-! ## Making folders where there is room -/

/-- One folder is made, or is there, where the later stage has it. -/
theorem ensureFolder_within (within : Within files made) (located : files.locate path = .ok place)
    (folder : made.get? place = some .folder) :
    ∃ later, ensureFolder path files = .ok () later ∧ Within later made ∧
      later.locate path = .ok place ∧ later.get? place = some .folder := by
  rcases within.room place folder with absent | isFolder
  · have notFolder : files.get? place ≠ some .folder := by simp [absent]
    refine ⟨files.set place .folder, ?_, within.set_folder absent folder,
      locate_set .folder notFolder located, get?_set_self files _ (isStart_eq_false notFolder)⟩
    rw [ensureFolder, makeFolder, located]
    dsimp only
    rw [absent]
  · exact ⟨files, ensureFolder_of_folder located isFolder, within, located, isFolder⟩

theorem ensureFoldersFrom_within {root : Text} (within : Within files made)
    (located : made.locate ⟨root, names.reverse⟩ = .ok place)
    (folder : made.get? place = some .folder) :
    ∃ later, ensureFoldersFrom root names files = .ok () later ∧ Within later made ∧
      later.locate ⟨root, names.reverse⟩ = .ok place ∧ later.get? place = some .folder := by
  induction names generalizing place with
  | nil =>
    obtain ⟨usable, walked⟩ := locate_eq_ok.mp located
    rw [start_of_here within.here] at walked
    exact ensureFolder_within within (locate_eq_ok.mpr ⟨usable, walked⟩) folder
  | cons name rest ih =>
    rw [ensureFoldersFrom]
    dsimp only
    rcases locate_within within located with there | missing
    · -- the folders above are there, and at most the last one is made
      have alone (other : FilePath) : files.makeFolder ⟨root, (name :: rest).reverse⟩ ≠
          .error (.obstacle other .absent) := by
        intro failed
        rw [makeFolder, there] at failed
        dsimp only at failed
        cases found : files.get? place with
        | none => rw [found] at failed; cases failed
        | some entry => rw [found] at failed; cases failed
      split
      case h_1 other failed => exact absurd failed (alone other)
      case h_2 => exact ensureFolder_within within there folder
    · -- the folders above are made first, and then the last one
      obtain ⟨above, locatedAbove, isFolder, onward⟩ := locate_above located
      obtain ⟨middle, ran, withinMiddle, locatedMiddle, folderMiddle⟩ := ih locatedAbove isFolder
      have failed : files.makeFolder ⟨root, (name :: rest).reverse⟩ =
          .error (.obstacle ⟨root, (name :: rest).reverse⟩ .absent) := by
        rw [makeFolder, missing]
      rw [failed]
      dsimp only
      rw [bind_of_ok ran]
      exact ensureFolder_within withinMiddle (onward middle locatedMiddle folderMiddle) folder

/-- **Folders are made where there is room.** If a path leads to a file, or to nothing, once some
folders are added, and not too many of them are missing, the folders above it are made, none of them
needlessly, and then it leads there. -/
theorem ensureFolders_parent_within (within : Within files made)
    (few : files.missing path.parent ≤ maxMissing) (located : made.locate path = .ok place)
    (notFolder : made.get? place ≠ some .folder) :
    ∃ later, ensureFolders path.parent files = .ok () later ∧ Within later made ∧
      later.locate path = .ok place := by
  obtain ⟨above, locatedAbove, isFolder, onward⟩ :=
    locate_parent located (names_ne_nil located notFolder)
  have reversed : (⟨path.parent.root, path.parent.names.reverse.reverse⟩ : FilePath) =
      path.parent := by
    rw [List.reverse_reverse]
  rw [← reversed] at locatedAbove
  obtain ⟨later, ran, withinLater, locatedLater, folderLater⟩ :=
    ensureFoldersFrom_within within locatedAbove isFolder
  rw [reversed] at locatedLater
  exact ⟨later, ensureFolders_eq_ok.mpr ⟨few, ran⟩, withinLater,
    onward later locatedLater folderLater⟩

/-! ## Off the way -/

/-- The names of a path lead to a place, or through it. -/
def OnWay (files : Files) (path : FilePath) (place : Place) : Prop :=
  ∃ names, names <+: path.names ∧ place = names.foldl stepFrom (files.start path)

instance (files : Files) (path : FilePath) (place : Place) : Decidable (OnWay files path place) :=
  decidable_of_iff (∃ names ∈ path.names.inits, place = names.foldl stepFrom (files.start path)) <|
    exists_congr fun names => and_congr_left' (List.mem_inits names path.names)

theorem onWay_spelled (files : Files) (path : FilePath) : OnWay files path (files.spelled path) :=
  ⟨path.names, List.prefix_refl _, rfl⟩

theorem onWay_of_here {later : Files} (same : later.here = files.here) :
    OnWay later path place ↔ OnWay files path place := by
  rw [OnWay, OnWay, start_of_here same]

theorem OnWay.of_parent (onWay : OnWay files path.parent place) : OnWay files path place := by
  obtain ⟨names, front, here⟩ := onWay
  exact ⟨names, front.trans (List.dropLast_prefix path.names), here⟩

theorem OnWay.concat {root name : Text} (onWay : OnWay files ⟨root, names⟩ place) :
    OnWay files ⟨root, names ++ [name]⟩ place := by
  obtain ⟨known, front, here⟩ := onWay
  exact ⟨known, front.trans (List.prefix_append names [name]), here⟩

/-- A folder is made at the end of its way. -/
theorem leftBy_ensureFolder_off (off : ¬ OnWay files path place) :
    (leftBy (ensureFolder path) files).get? place = files.get? place := by
  rcases leftBy_ensureFolder_cases path files with same | ⟨here, located, absent, made⟩
  · rw [same]
  · have notFolder : files.get? here ≠ some .folder := by simp [absent]
    have differs : place ≠ here := by
      rintro rfl
      rw [eq_spelled located] at off
      exact off (onWay_spelled files path)
    rw [made]
    exact get?_set_of_ne files .folder (isStart_eq_false notFolder) differs

theorem leftBy_ensureFoldersFrom_off {root : Text}
    (off : ¬ OnWay files ⟨root, names.reverse⟩ place) :
    (leftBy (ensureFoldersFrom root names) files).get? place = files.get? place := by
  induction names with
  | nil => exact leftBy_ensureFolder_off off
  | cons name rest ih =>
    rcases ensureFoldersFrom_cons root name rest files with above | alone
    · have same : (leftBy (ensureFoldersFrom root rest) files).get? place = files.get? place := by
        refine ih fun onWay => off ?_
        rw [List.reverse_cons]
        exact onWay.concat
      rw [leftBy, above, ← leftBy, leftBy_bind]
      cases ran : ensureFoldersFrom root rest files with
      | ok _ middle =>
        rw [leftBy_of_ok ran] at same
        have here := (ensureFoldersFrom_grows ran).here
        rw [← same]
        exact leftBy_ensureFolder_off fun onWay => off ((onWay_of_here here).mp onWay)
      | error fault after =>
        rw [leftBy_of_error ran] at same
        exact same
    · rw [leftBy, alone, ← leftBy]
      exact leftBy_ensureFolder_off off

/-- Making a folder and those above it changes nothing off the way to it, even if it fails. -/
theorem leftBy_ensureFolders_off (off : ¬ OnWay files path place) :
    (leftBy (ensureFolders path) files).get? place = files.get? place := by
  have same : (leftBy (ensureFoldersFrom path.root path.names.reverse) files).get? place =
      files.get? place := by
    refine leftBy_ensureFoldersFrom_off ?_
    rw [List.reverse_reverse]
    exact off
  unfold leftBy ensureFolders at *
  by_cases deep : maxMissing < files.missing path
  · rw [if_pos deep]
  · rw [if_neg deep]
    exact same

theorem ensureFolders_off (ran : ensureFolders path files = .ok () made)
    (off : ¬ OnWay files path place) : made.get? place = files.get? place := by
  have same := leftBy_ensureFolders_off off
  rw [leftBy_of_ok ran] at same
  exact same

/-- Only folders were added, and only on the way to the folder of a path, if one is named. -/
structure GrowsOn (path : Option FilePath) (files later : Files) : Prop
    extends Grows files later where
  off : ∀ place, (∀ file ∈ path, ¬ OnWay files file.parent place) →
    later.get? place = files.get? place

theorem GrowsOn.refl (path : Option FilePath) (files : Files) : GrowsOn path files files :=
  ⟨.refl files, fun _ _ => rfl⟩

/-- A file that is put off the way to a path at which nothing stands leaves room for it, and no
folder is made elsewhere on that account. -/
theorem ensureFolders_parent_off (ran : ensureFolders path.parent files = .ok () made)
    (located : made.locate path = .ok here) (absent : made.get? here = none)
    (off : ¬ OnWay files path place) (notFolder : files.get? place ≠ some .folder)
    (isFile : entry ≠ .folder) :
    ∃ later, ensureFolders path.parent (files.set place entry) = .ok () later ∧
      later.locate path = .ok here ∧ later.get? here = none ∧
      ∀ other, later.get? other = some .folder → made.get? other = some .folder := by
  have grown := ensureFolders_grows ran
  have notFolderThere : made.get? place ≠ some .folder := by
    rw [ensureFolders_off ran fun onWay => off onWay.of_parent]
    exact notFolder
  have notFolderHere : made.get? here ≠ some .folder := by simp [absent]
  have within := grown.within.set_file notFolderThere isFile
  have few := Nat.le_trans
    (missing_parent_le grown.within (KeepsFolders.set entry notFolder) located
      (names_ne_nil located notFolderHere))
    (ensureFolders_eq_ok.mp ran).1
  obtain ⟨later, ranThen, withinThen, locatedThen⟩ :=
    ensureFolders_parent_within within few located notFolderHere
  refine ⟨later, ranThen, locatedThen, ?_, withinThen.folders⟩
  -- nothing is put at the end of the way, neither the file nor a folder
  have differs : here ≠ place := by
    rintro rfl
    rw [eq_spelled located, spelled_of_here grown.here] at off
    exact off (onWay_spelled files path)
  have notFolderThen : later.get? here ≠ some .folder :=
    fun folder => notFolderHere (withinThen.folders here folder)
  rw [(ensureFolders_grows ranThen).get?_of_not_folder notFolderThen,
    get?_set_of_ne files entry (isStart_eq_false notFolder) differs]
  exact grown.get?_eq_none absent

/-! ## Folders of two stages -/

/-- The folders of a stage, as entries. -/
def folderEntries (files : Files) : List (Place × Entry) :=
  (files.entries.filter fun (known, _) => files.get? known = some .folder).map
    fun (known, _) => (known, .folder)

/-- One stage, with the folders of another one added. -/
def withFolders (made later : Files) : Files :=
  { made with entries := later.folderEntries ++ made.entries }

theorem lookup_folderEntries (notStart : files.isStart place = false) :
    files.folderEntries.lookup place =
      if files.get? place = some .folder then some .folder else none := by
  cases found : files.folderEntries.lookup place with
  | some entry =>
    obtain ⟨front, back, split, _⟩ := List.lookup_eq_some_iff.mp found
    have member : (place, entry) ∈ files.folderEntries := by simp [split]
    obtain ⟨⟨known, _⟩, isFolder, same⟩ := List.mem_map.mp member
    cases same
    rw [if_pos (of_decide_eq_true (List.mem_filter.mp isFolder).2)]
  | none =>
    rw [if_neg]
    intro folder
    have kept := folder
    rw [get?, if_neg (ne_true_of_eq_false notStart)] at folder
    obtain ⟨front, back, split, _⟩ := List.lookup_eq_some_iff.mp folder
    have member : (place, Entry.folder) ∈ files.folderEntries :=
      List.mem_map.mpr ⟨(place, .folder), List.mem_filter.mpr ⟨by simp [split], by simpa⟩, rfl⟩
    exact absurd (List.lookup_eq_none_iff.mp found _ member) (by simp)

/-- A folder stands where one of the two has a folder, and else what stood in the first. -/
theorem get?_withFolders (same : later.here = made.here) (place : Place) :
    (withFolders made later).get? place =
      if later.get? place = some .folder then some .folder else made.get? place := by
  have starts : later.isStart place = made.isStart place := by rw [isStart, isStart, same]
  cases start : made.isStart place with
  | true =>
    have folder : later.get? place = some .folder := if_pos (starts.trans start)
    rw [if_pos folder]
    exact if_pos start
  | false =>
    have found : (withFolders made later).get? place =
        (later.folderEntries ++ made.entries).lookup place := if_neg (ne_true_of_eq_false start)
    have stood : made.get? place = made.entries.lookup place := if_neg (ne_true_of_eq_false start)
    rw [found, stood, List.lookup_append, lookup_folderEntries (starts.trans start)]
    split <;> rfl

/-- Folders that are added leave room for a path at which nothing stands, if none is put at its end;
and no folder is made on that account that neither stage has. -/
theorem ensureFolders_parent_of_grows (ran : ensureFolders path.parent files = .ok () made)
    (located : made.locate path = .ok here) (absent : made.get? here = none)
    (grown : Grows files later) (free : later.get? here ≠ some .folder) :
    ∃ last, ensureFolders path.parent later = .ok () last ∧
      last.locate path = .ok here ∧ last.get? here = none ∧
      ∀ other, last.get? other = some .folder →
        made.get? other = some .folder ∨ later.get? other = some .folder := by
  have grownMade := ensureFolders_grows ran
  have same : later.here = made.here := grown.here.trans grownMade.here.symm
  have found := get?_withFolders same
  have kept : KeepsFolders made (withFolders made later) := by
    refine ⟨rfl, fun other folder => ?_⟩
    rw [found]
    split
    case isTrue => rfl
    case isFalse => exact folder
  have within : Within later (withFolders made later) := by
    refine ⟨same.symm, fun other folder => (found other).trans (if_pos folder),
      fun other folder => ?_⟩
    rw [found] at folder
    split at folder
    case isTrue isFolder => exact Or.inr isFolder
    case isFalse notFolder =>
      rcases grownMade.within.room other folder with absent | isFolder
      · rcases grown.places other with stays | ⟨_, isFolder⟩
        · exact Or.inl (stays.trans absent)
        · exact Or.inr isFolder
      · exact Or.inr (grown.get?_eq_some isFolder)
  have locatedBoth := locate_of_keepsFolders kept located
  have notFolder : (withFolders made later).get? here ≠ some .folder := by
    rw [found, if_neg free, absent]
    exact (Option.some_ne_none _).symm
  have few := Nat.le_trans
    (missing_parent_le grownMade.within grown.keepsFolders located
      (names_ne_nil located (by simp [absent])))
    (ensureFolders_eq_ok.mp ran).1
  obtain ⟨last, ranThen, withinThen, locatedThen⟩ :=
    ensureFolders_parent_within within few locatedBoth notFolder
  refine ⟨last, ranThen, locatedThen, ?_, fun other folder => ?_⟩
  · -- nothing stood there before, and no folder was put there
    have notFolderThen : last.get? here ≠ some .folder :=
      fun folder => notFolder (withinThen.folders here folder)
    rw [(ensureFolders_grows ranThen).get?_of_not_folder notFolderThen,
      grown.get?_of_not_folder free]
    exact grownMade.get?_eq_none absent
  · have isFolder := withinThen.folders other folder
    rw [found] at isFolder
    by_cases there : later.get? other = some .folder
    · exact Or.inr there
    · rw [if_neg there] at isFolder
      exact Or.inl isFolder

end CharTally.Files
