import CharTally.Ledger.Store
import CharTally.Proofs.Files
import CharTally.Proofs.Ledger

/-!
# Opening a ledger, and putting it back

A ledger that is opened is the one that stands at its place; what stands beside it may
be taken away. `Touches` is the frame of all work at a place: elsewhere nothing changes,
beside it files may go, and at the place itself stands what can be opened.

Opening settles a place: what stands beside the ledger is taken away once, and from then
on the ledger is opened as it is (`openAt_of_settled`), also when it was put back
(`settled_written`). `Sound` is what a place needs for all of this to succeed, and work
at the place keeps it.
-/

namespace CharTally.Store

variable {α : Type} {files made later : Files} {path : FilePath} {place other : Place}
  {content former latter : Ledger} {ending : Text} {why : LedgerReason}

/-! ## Beside a ledger -/

/-- A place beside that of a ledger belongs to it too. -/
def Beside (place other : Place) : Prop :=
  other = journalOf place ∨ other = pagesOf place ∨ other = indexOf place

instance (place other : Place) : Decidable (Beside place other) :=
  inferInstanceAs (Decidable (_ ∨ _ ∨ _))

theorem beside_ne_self (some_ : ending ≠ []) : beside place ending ≠ place := by
  intro same
  rcases List.eq_nil_or_concat place with rfl | ⟨above, name, rfl⟩
  · cases same
  · rw [beside, List.concat_eq_append, List.dropLast_concat, List.getLastD_concat] at same
    have named : name ++ ending = name := by simpa using same
    exact some_ (List.append_right_eq_self.mp named)

theorem beside_inj {first second : Text} :
    beside place first = beside place second ↔ first = second := by
  rw [beside, beside, List.append_cancel_left_eq, List.cons.injEq, List.append_cancel_left_eq,
    and_iff_left rfl]

theorem journalOf_ne_self (place : Place) : journalOf place ≠ place := beside_ne_self (by decide)

theorem pagesOf_ne_self (place : Place) : pagesOf place ≠ place := beside_ne_self (by decide)

theorem indexOf_ne_self (place : Place) : indexOf place ≠ place := beside_ne_self (by decide)

theorem Beside.ne (isBeside : Beside place other) : other ≠ place := by
  rcases isBeside with rfl | rfl | rfl
  · exact journalOf_ne_self place
  · exact pagesOf_ne_self place
  · exact indexOf_ne_self place

theorem journalOf_ne_pagesOf (place : Place) : journalOf place ≠ pagesOf place :=
  fun same => absurd (beside_inj.mp same) (by decide)

theorem journalOf_ne_indexOf (place : Place) : journalOf place ≠ indexOf place :=
  fun same => absurd (beside_inj.mp same) (by decide)

theorem pagesOf_ne_indexOf (place : Place) : pagesOf place ≠ indexOf place :=
  fun same => absurd (beside_inj.mp same) (by decide)

/-! ## What can be opened -/

/-- The ledger at a place; where none stands, an empty one. -/
def ledgerAt (files : Files) (place : Place) : Ledger :=
  match files.get? place with
  | some (.ledger content) => content
  | _ => {}

/-- What can be opened as a ledger: nothing, an empty document, and a ledger. -/
def Opens (files : Files) (place : Place) : Prop :=
  files.get? place = none ∨ files.get? place = some (.document []) ∨
    ∃ content, files.get? place = some (.ledger content)

theorem Opens.not_folder (opens : Opens files place) : files.get? place ≠ some .folder := by
  rcases opens with absent | empty | ⟨content, ledger⟩
  · rw [absent]; exact fun h => nomatch h
  · rw [empty]; exact fun h => nomatch h
  · rw [ledger]; exact fun h => nomatch h

theorem ledgerAt_of_get?_eq (same : later.get? place = files.get? place) :
    ledgerAt later place = ledgerAt files place := by
  rw [ledgerAt, ledgerAt, same]

theorem ledgerAt_of_found (found : files.get? place = some (.ledger content)) :
    ledgerAt files place = content := by
  rw [ledgerAt, found]

theorem ledgerAt_of_keepsLedgers (keeps : Files.KeepsLedgers files later) (place : Place) :
    ledgerAt later place = ledgerAt files place := by
  unfold ledgerAt
  split
  case h_1 content found => rw [(keeps.ledgers place content).mp found]
  case h_2 none_ =>
    split
    case h_1 content found => exact absurd ((keeps.ledgers place content).mpr found) (none_ content)
    case h_2 => rfl

theorem Opens.of_get?_eq (same : later.get? place = files.get? place)
    (opens : Opens files place) : Opens later place := by
  rw [Opens, same]
  exact opens

/-- Where a ledger with something in it is opened, it stands. -/
theorem get?_of_ledgerAt_ne (some_ : ledgerAt files place ≠ {}) :
    files.get? place = some (.ledger (ledgerAt files place)) := by
  unfold ledgerAt at some_ ⊢
  split
  case h_1 content found => exact found
  case h_2 others =>
    split at some_
    case h_1 content found => exact absurd found (others content)
    case h_2 => exact absurd rfl some_

theorem bytesAt_of_get?_eq (same : later.get? place = files.get? place) :
    later.bytesAt place = files.bytesAt place := by
  rw [Files.bytesAt, Files.bytesAt, same]

theorem bytesAt_of_absent (absent : files.get? place = none) : files.bytesAt place = [] := by
  rw [Files.bytesAt, absent]

/-- Added folders put no bytes anywhere. -/
theorem bytesAt_of_grows (grown : Files.Grows files later) (none_ : files.bytesAt place = []) :
    later.bytesAt place = [] := by
  rcases grown.places place with same | ⟨_, folder⟩
  · rw [bytesAt_of_get?_eq same, none_]
  · rw [Files.bytesAt, folder]

theorem not_folder_of_bytesAt (some_ : files.bytesAt place ≠ []) :
    files.get? place ≠ some .folder := by
  intro folder
  rw [Files.bytesAt, folder] at some_
  exact some_ rfl

/-! ## What is touched -/

/-- What stands at a place is what stood there, or it stood beside a ledger and is gone. -/
def Stays (place : Place) (files later : Files) (other : Place) : Prop :=
  later.get? other = files.get? other ∨
    Beside place other ∧ files.get? other ≠ some .folder ∧ later.get? other = none

/-- Only the ledger at a place was touched, and what stands beside it was at most taken away. -/
structure Touches (place : Place) (files later : Files) : Prop where
  here : later.here = files.here
  own : later.get? place = files.get? place ∨ Opens files place ∧ Opens later place
  others : ∀ other, other ≠ place → Stays place files later other

theorem Stays.trans (first : Stays place files made other) (second : Stays place made later other) :
    Stays place files later other := by
  rcases second with same | ⟨isBeside, notFolder, gone⟩
  · rcases first with before | ⟨isBeside, notFolder, gone⟩
    · exact Or.inl (same.trans before)
    · exact Or.inr ⟨isBeside, notFolder, same.trans gone⟩
  · rcases first with before | ⟨_, notFolderBefore, _⟩
    · exact Or.inr ⟨isBeside, before ▸ notFolder, gone⟩
    · exact Or.inr ⟨isBeside, notFolderBefore, gone⟩

theorem Touches.refl (place : Place) (files : Files) : Touches place files files :=
  ⟨rfl, Or.inl rfl, fun _ _ => Or.inl rfl⟩

theorem Touches.trans (first : Touches place files made) (second : Touches place made later) :
    Touches place files later where
  here := second.here.trans first.here
  own := by
    rcases second.own with same | ⟨opens, opensLater⟩
    · rcases first.own with before | ⟨opensBefore, opens⟩
      · exact Or.inl (same.trans before)
      · exact Or.inr ⟨opensBefore, opens.of_get?_eq same⟩
    · rcases first.own with before | ⟨opensBefore, _⟩
      · exact Or.inr ⟨opens.of_get?_eq before.symm, opensLater⟩
      · exact Or.inr ⟨opensBefore, opensLater⟩
  others other differs := (first.others other differs).trans (second.others other differs)

/-- What stands elsewhere stood there before. -/
theorem Touches.found_elsewhere (touches : Touches place files later) (elsewhere : other ≠ place)
    (found : later.get? other = some (.ledger content)) : content = ledgerAt files other := by
  rcases touches.others other elsewhere with same | ⟨_, _, gone⟩
  · exact (ledgerAt_of_found (same.symm.trans found)).symm
  · cases gone.symm.trans found

theorem Touches.keepsFolders (touches : Touches place files later) :
    Files.KeepsFolders files later where
  here := touches.here
  folders other folder := by
    by_cases same : other = place
    · subst same
      rcases touches.own with still | ⟨opens, _⟩
      · exact still.trans folder
      · exact absurd folder opens.not_folder
    · rcases touches.others other same with still | ⟨_, notFolder, _⟩
      · exact still.trans folder
      · exact absurd folder notFolder

/-- No folder comes by work on a ledger. -/
theorem Touches.folder (touches : Touches place files later)
    (folder : later.get? other = some .folder) : files.get? other = some .folder := by
  by_cases same : other = place
  · subst same
    rcases touches.own with still | ⟨_, opens⟩
    · exact still.symm.trans folder
    · exact absurd folder opens.not_folder
  · rcases touches.others other same with still | ⟨_, _, gone⟩
    · exact still.symm.trans folder
    · rw [gone] at folder
      cases folder

/-- At most what stands beside a ledger was taken away, or an empty document put in its place. -/
structure Tidies (place : Place) (files later : Files) : Prop
    extends Touches place files later where
  same : ledgerAt later place = ledgerAt files place

theorem Tidies.refl (place : Place) (files : Files) : Tidies place files files :=
  ⟨.refl place files, rfl⟩

theorem Tidies.trans (first : Tidies place files made) (second : Tidies place made later) :
    Tidies place files later :=
  ⟨first.toTouches.trans second.toTouches, second.same.trans first.same⟩

/-- Taking away what stands beside touches nothing else. -/
theorem Tidies.clear (isBeside : Beside place other) (notFolder : files.get? other ≠ some .folder) :
    Tidies place files (files.clear other) := by
  have notStart := Files.isStart_eq_false notFolder
  have own : (files.clear other).get? place = files.get? place := by
    rw [Files.get?_clear files other place notStart, if_neg isBeside.ne.symm]
  refine ⟨⟨rfl, Or.inl own, fun place_ _ => ?_⟩, ledgerAt_of_get?_eq own⟩
  rw [Stays, Files.get?_clear files other place_ notStart]
  split
  case isTrue same =>
    subst same
    exact Or.inr ⟨isBeside, notFolder, rfl⟩
  case isFalse => exact Or.inl rfl

/-- Work that tidies at each of its steps. -/
theorem tidies_bind {β : Type} {first : Work α} {second : α → Work β}
    (tidies : Tidies place files (leftBy first files))
    (then_ : ∀ value files, Tidies place files (leftBy (second value) files)) :
    Tidies place files (leftBy (first >>= second) files) := by
  rw [leftBy_bind]
  cases ran : first files with
  | error failure left =>
    rw [leftBy_of_error ran] at tidies
    exact tidies
  | ok value left =>
    rw [leftBy_of_ok ran] at tidies
    exact tidies.trans (then_ value left)

/-! ## Opening -/

theorem create_eq_ok (ran : create place files = .ok () later) :
    files.get? place = none ∧ later = files.set place (.document []) ∨
      files.get? place ≠ none ∧ later = files := by
  unfold create at ran
  cases found : files.get? place with
  | none => rw [found] at ran; cases ran; exact Or.inl ⟨rfl, rfl⟩
  | some entry =>
    rw [found] at ran
    cases entry <;> cases ran <;> exact Or.inr ⟨nofun, rfl⟩

theorem create_tidies (place : Place) (files : Files) :
    Tidies place files (leftBy (create place) files) := by
  unfold leftBy create
  cases found : files.get? place with
  | none =>
    have notStart : files.isStart place = false := Files.isStart_eq_false (by simp [found])
    have empty := Files.get?_set_self files (.document []) notStart
    refine ⟨⟨rfl, Or.inr ⟨Or.inl found, Or.inr (Or.inl empty)⟩, fun other differs => ?_⟩, ?_⟩
    · exact Or.inl (Files.get?_set_of_ne files _ notStart differs)
    · rw [ledgerAt, ledgerAt, empty, found]
  | some entry => cases entry <;> exact .refl place files

/-- A journal that stays: there is none, or it was played back. -/
def JournalSettled (place : Place) (files : Files) : Prop :=
  files.bytesAt (journalOf place) = [] ∧
      (files.bytesAt place = [] ∨ files.get? (journalOf place) ≠ some .folder) ∨
    files.bytesAt place ≠ [] ∧ (files.bytesAt (journalOf place)).head? = some 0

/-- There are no pages, and no folder is in their place. -/
def PagesSettled (place : Place) (files : Files) : Prop :=
  files.get? (pagesOf place) ≠ some .folder ∧ files.bytesAt (pagesOf place) = []

/-- Pages that can be read: no folder is in the place of their index, or they are not needed. -/
def Indexed (place : Place) (files : Files) : Prop :=
  files.get? (indexOf place) = some .folder →
    files.bytesAt place = [] ∨ files.bytesAt (pagesOf place) = []

instance (place : Place) (files : Files) : Decidable (Indexed place files) :=
  inferInstanceAs (Decidable (_ → _))

/-- A journal is taken away, or it stays, or a folder is in its place. -/
theorem settleJournal_cases (place : Place) (files : Files) :
    settleJournal place files = .ok () (files.clear (journalOf place)) ∧
        files.get? (journalOf place) ≠ some .folder ∨
      settleJournal place files = .ok () files ∧ JournalSettled place files ∨
      settleJournal place files = .error .diskError files ∧
        files.get? (journalOf place) = some .folder := by
  unfold settleJournal JournalSettled
  cases journal : files.bytesAt (journalOf place) with
  | nil =>
    cases files.bytesAt place with
    | nil => exact Or.inr (Or.inl ⟨rfl, Or.inl ⟨rfl, Or.inl rfl⟩⟩)
    | cons first more =>
      dsimp only
      split
      case isTrue folder => exact Or.inr (Or.inr ⟨rfl, folder⟩)
      case isFalse notFolder => exact Or.inr (Or.inl ⟨rfl, Or.inl ⟨rfl, Or.inr notFolder⟩⟩)
  | cons mark more =>
    have notFolder : files.get? (journalOf place) ≠ some .folder :=
      not_folder_of_bytesAt (by simp [journal])
    cases files.bytesAt place with
    | nil => exact Or.inl ⟨rfl, notFolder⟩
    | cons first rest =>
      dsimp only
      split
      case isTrue zero => exact Or.inr (Or.inl ⟨rfl, Or.inr ⟨nofun, by simp [zero]⟩⟩)
      case isFalse => exact Or.inl ⟨rfl, notFolder⟩

/-- Pages are taken away, with their index or without it, or there are none, or a folder is in the
place of one of the two. -/
theorem settlePages_cases (place : Place) (files : Files) :
    settlePages place files = .ok () (files.clear (pagesOf place)) ∧
        files.get? (pagesOf place) ≠ some .folder ∨
      settlePages place files = .ok () ((files.clear (pagesOf place)).clear (indexOf place)) ∧
        files.get? (pagesOf place) ≠ some .folder ∧
        files.get? (indexOf place) ≠ some .folder ∨
      settlePages place files = .ok () files ∧ PagesSettled place files ∨
      (∃ why, settlePages place files = .error why files) ∧
        (files.get? (pagesOf place) = some .folder ∨ ¬ Indexed place files) := by
  by_cases folder : files.get? (pagesOf place) = some .folder
  · exact Or.inr (Or.inr (Or.inr ⟨⟨_, if_pos folder⟩, Or.inl folder⟩))
  · rw [settlePages, if_neg folder, PagesSettled]
    by_cases noPages : files.bytesAt (pagesOf place) = []
    · exact Or.inr (Or.inr (Or.inl ⟨if_pos noPages, folder, noPages⟩))
    · rw [if_neg noPages]
      by_cases new : files.bytesAt place = []
      · exact Or.inl ⟨if_pos new, folder⟩
      · rw [if_neg new]
        by_cases index : files.get? (indexOf place) = some .folder
        · refine Or.inr (Or.inr (Or.inr ⟨⟨_, if_pos index⟩, Or.inr fun indexed => ?_⟩))
          exact (indexed index).elim new noPages
        · exact Or.inr (Or.inl ⟨if_neg index, folder, index⟩)

theorem settleJournal_tidies (place : Place) (files : Files) :
    Tidies place files (leftBy (settleJournal place) files) := by
  rcases settleJournal_cases place files with ⟨ran, notFolder⟩ | ⟨ran, _⟩ | ⟨failed, _⟩
  · rw [leftBy_of_ok ran]
    exact .clear (Or.inl rfl) notFolder
  · rw [leftBy_of_ok ran]
    exact .refl place files
  · rw [leftBy_of_error failed]
    exact .refl place files

theorem settlePages_tidies (place : Place) (files : Files) :
    Tidies place files (leftBy (settlePages place) files) := by
  rcases settlePages_cases place files with
    ⟨ran, notFolder⟩ | ⟨ran, notFolder, index⟩ | ⟨ran, _⟩ | ⟨⟨why, failed⟩, _⟩
  · rw [leftBy_of_ok ran]
    exact .clear (Or.inr (Or.inl rfl)) notFolder
  · rw [leftBy_of_ok ran]
    have cleared : Tidies place files (files.clear (pagesOf place)) :=
      .clear (Or.inr (Or.inl rfl)) notFolder
    exact cleared.trans (.clear (Or.inr (Or.inr rfl)) fun folder => index (cleared.folder folder))
  · rw [leftBy_of_ok ran]
    exact .refl place files
  · rw [leftBy_of_error failed]
    exact .refl place files

theorem content_of_opens (opens : Opens files place) :
    Store.content place files = .ok (ledgerAt files place) files := by
  unfold Store.content ledgerAt
  rcases opens with absent | empty | ⟨content, ledger⟩
  · rw [absent]
  · rw [empty]
  · rw [ledger]

theorem content_eq_ok (ran : Store.content place files = .ok content later) :
    later = files ∧ Opens files place ∧ content = ledgerAt files place := by
  have opens : Opens files place := by
    unfold Store.content at ran
    unfold Opens
    cases found : files.get? place with
    | none => exact Or.inl rfl
    | some entry =>
      rw [found] at ran
      cases entry with
      | folder => cases ran
      | document bytes =>
        cases bytes with
        | nil => exact Or.inr (Or.inl rfl)
        | cons first more => cases ran
      | ledger content => exact Or.inr (Or.inr ⟨content, rfl⟩)
  cases (content_of_opens opens).symm.trans ran
  exact ⟨rfl, opens, rfl⟩

theorem leftBy_content (place : Place) (files : Files) :
    leftBy (Store.content place) files = files := by
  rw [leftBy, Store.content]
  split
  case h_1 found => split at found <;> cases found <;> rfl
  case h_2 found =>
    split at found <;> cases found
    rfl

/-- Opening tidies, whether or not it fails. -/
theorem openAt_tidies (place : Place) (files : Files) :
    Tidies place files (leftBy (openAt place) files) := by
  refine tidies_bind (create_tidies place files) fun _ files => ?_
  refine tidies_bind (settleJournal_tidies place files) fun _ files => ?_
  refine tidies_bind (settlePages_tidies place files) fun _ files => ?_
  rw [leftBy_content]
  exact .refl place files

/-- Something stands at the place, and what stands beside it stays. -/
structure Settled (place : Place) (files : Files) : Prop where
  present : files.get? place ≠ none
  journal : JournalSettled place files
  pages : PagesSettled place files

/-- What is settled is opened as it is. -/
theorem openAt_of_settled (settled : Settled place files) (opens : Opens files place) :
    openAt place files = .ok (ledgerAt files place) files := by
  have created : create place files = .ok () files := by
    unfold create
    rcases opens with absent | empty | ⟨content, ledger⟩
    · exact absurd absent settled.present
    · rw [empty]
    · rw [ledger]
  have journal : settleJournal place files = .ok () files := by
    unfold settleJournal
    rcases settled.journal with ⟨none_, own | notFolder⟩ | ⟨own, zero⟩
    · rw [none_, own]
    · rw [none_]
      cases files.bytesAt place with
      | nil => rfl
      | cons first more => exact if_neg notFolder
    · obtain ⟨more, marked⟩ := List.head?_eq_some_iff.mp zero
      obtain ⟨first, rest, written⟩ := List.exists_cons_of_ne_nil own
      rw [marked, written]
      rfl
  have pages : settlePages place files = .ok () files := by
    rw [settlePages, if_neg settled.pages.1, if_pos settled.pages.2]
  rw [openAt, bind_of_ok created, bind_of_ok journal, bind_of_ok pages]
  exact content_of_opens opens

theorem get?_of_settleJournal (ran : settleJournal place files = .ok () later)
    (differs : other ≠ journalOf place) : later.get? other = files.get? other := by
  rcases settleJournal_cases place files with ⟨took, notFolder⟩ | ⟨took, _⟩ | ⟨failed, _⟩
  · cases took.symm.trans ran
    rw [Files.get?_clear files _ other (Files.isStart_eq_false notFolder), if_neg differs]
  · cases took.symm.trans ran
    rfl
  · cases failed.symm.trans ran

theorem journalSettled_of_settleJournal (ran : settleJournal place files = .ok () later) :
    JournalSettled place later := by
  rcases settleJournal_cases place files with ⟨took, notFolder⟩ | ⟨took, settled⟩ | ⟨failed, _⟩
  · cases took.symm.trans ran
    have gone : (files.clear (journalOf place)).get? (journalOf place) = none := by
      rw [Files.get?_clear files _ _ (Files.isStart_eq_false notFolder), if_pos rfl]
    exact Or.inl ⟨bytesAt_of_absent gone, Or.inr (by simp [gone])⟩
  · cases took.symm.trans ran
    exact settled
  · cases failed.symm.trans ran

theorem get?_of_settlePages (ran : settlePages place files = .ok () later)
    (notPages : other ≠ pagesOf place) (notIndex : other ≠ indexOf place) :
    later.get? other = files.get? other := by
  rcases settlePages_cases place files with
    ⟨took, notFolder⟩ | ⟨took, notFolder, index⟩ | ⟨took, _⟩ | ⟨⟨why, failed⟩, _⟩
  · cases took.symm.trans ran
    rw [Files.get?_clear files _ other (Files.isStart_eq_false notFolder), if_neg notPages]
  · cases took.symm.trans ran
    have indexThen : (files.clear (pagesOf place)).get? (indexOf place) ≠ some .folder := by
      rw [Files.get?_clear files _ _ (Files.isStart_eq_false notFolder),
        if_neg (pagesOf_ne_indexOf place).symm]
      exact index
    rw [Files.get?_clear _ _ other (Files.isStart_eq_false indexThen), if_neg notIndex,
      Files.get?_clear files _ other (Files.isStart_eq_false notFolder), if_neg notPages]
  · cases took.symm.trans ran
    rfl
  · cases failed.symm.trans ran

theorem pagesSettled_of_settlePages (ran : settlePages place files = .ok () later) :
    PagesSettled place later := by
  have gone (notFolder : files.get? (pagesOf place) ≠ some .folder) :
      (files.clear (pagesOf place)).get? (pagesOf place) = none := by
    rw [Files.get?_clear files _ _ (Files.isStart_eq_false notFolder), if_pos rfl]
  have settled {left : Files} (absent : left.get? (pagesOf place) = none) :
      PagesSettled place left :=
    ⟨by simp [absent], bytesAt_of_absent absent⟩
  rcases settlePages_cases place files with
    ⟨took, notFolder⟩ | ⟨took, notFolder, index⟩ | ⟨took, stays⟩ | ⟨⟨why, failed⟩, _⟩
  · cases took.symm.trans ran
    exact settled (gone notFolder)
  · cases took.symm.trans ran
    have indexThen : (files.clear (pagesOf place)).get? (indexOf place) ≠ some .folder := by
      rw [Files.get?_clear files _ _ (Files.isStart_eq_false notFolder),
        if_neg (pagesOf_ne_indexOf place).symm]
      exact index
    refine settled ?_
    rw [Files.get?_clear _ _ _ (Files.isStart_eq_false indexThen),
      if_neg (pagesOf_ne_indexOf place), gone notFolder]
  · cases took.symm.trans ran
    exact stays
  · cases failed.symm.trans ran

/-- What was settled stays so where it is as it was. -/
theorem JournalSettled.of_get?_eq (settled : JournalSettled place files)
    (own : later.get? place = files.get? place)
    (journal : later.get? (journalOf place) = files.get? (journalOf place)) :
    JournalSettled place later := by
  rw [JournalSettled, bytesAt_of_get?_eq own, bytesAt_of_get?_eq journal, journal]
  exact settled

/-- A ledger that was opened is the one that stood at its place, and it is settled. -/
theorem openAt_eq_ok (opened : openAt place files = .ok content later) :
    Opens files place ∧ content = ledgerAt files place ∧
      Opens later place ∧ content = ledgerAt later place ∧ Settled place later := by
  obtain ⟨_, created, ranCreate, rest⟩ := bind_eq_ok.mp opened
  obtain ⟨_, rid, ranJournal, rest⟩ := bind_eq_ok.mp rest
  obtain ⟨_, settled, ranPages, ranContent⟩ := bind_eq_ok.mp rest
  obtain ⟨rfl, opens, rfl⟩ := content_eq_ok ranContent
  -- the ledger itself is as it was created
  have ownPages : later.get? place = rid.get? place :=
    get?_of_settlePages ranPages (pagesOf_ne_self place).symm (indexOf_ne_self place).symm
  have own : later.get? place = created.get? place :=
    ownPages.trans (get?_of_settleJournal ranJournal (journalOf_ne_self place).symm)
  have journal : later.get? (journalOf place) = rid.get? (journalOf place) :=
    get?_of_settlePages ranPages (journalOf_ne_pagesOf place) (journalOf_ne_indexOf place)
  have journalSettled : JournalSettled place later :=
    (journalSettled_of_settleJournal ranJournal).of_get?_eq ownPages journal
  have pagesSettled := pagesSettled_of_settlePages ranPages
  rcases create_eq_ok ranCreate with ⟨absent, rfl⟩ | ⟨present, rfl⟩
  · have notFolder : files.get? place ≠ some .folder := by simp [absent]
    rw [Files.get?_set_self files _ (Files.isStart_eq_false notFolder)] at own
    refine ⟨Or.inl absent, ?_, opens, rfl, by simp [own], journalSettled, pagesSettled⟩
    rw [ledgerAt, ledgerAt, own, absent]
  · exact ⟨opens.of_get?_eq own.symm, ledgerAt_of_get?_eq own, opens, rfl, own ▸ present,
      journalSettled, pagesSettled⟩

/-! ## Putting back -/

/-- The files in which a ledger was put back that had changed. -/
def written (files : Files) (place : Place) (latter : Ledger) : Files :=
  (files.clear (journalOf place)).set place (.ledger latter)

/-- The ledger stands there as it became, its journal is gone, and all else is as it was. -/
theorem get?_written (opens : Opens files place)
    (notFolder : files.get? (journalOf place) ≠ some .folder) (latter : Ledger) (other : Place) :
    (written files place latter).get? other =
      if other = place then some (.ledger latter)
      else if other = journalOf place then none
      else files.get? other := by
  have notStart := Files.isStart_eq_false notFolder
  have own : (files.clear (journalOf place)).get? place = files.get? place := by
    rw [Files.get?_clear files _ _ notStart, if_neg (journalOf_ne_self place).symm]
  have notStartOwn := Files.isStart_eq_false (opens.of_get?_eq own).not_folder
  rw [written, Files.get?_set _ place other _ notStartOwn, Files.get?_clear files _ other notStart]

theorem written_touches (opens : Opens files place)
    (notFolder : files.get? (journalOf place) ≠ some .folder) (latter : Ledger) :
    Touches place files (written files place latter) := by
  have found := get?_written opens notFolder latter
  refine ⟨rfl, Or.inr ⟨opens, ?_⟩, fun other differs => ?_⟩
  · exact Or.inr (Or.inr ⟨latter, (found place).trans (if_pos rfl)⟩)
  · rw [Stays, found other, if_neg differs]
    split
    case isTrue same =>
      subst same
      exact Or.inr ⟨Or.inl rfl, notFolder, rfl⟩
    case isFalse => exact Or.inl rfl

theorem settled_written (opens : Opens files place)
    (notFolder : files.get? (journalOf place) ≠ some .folder) (settled : Settled place files)
    (latter : Ledger) : Settled place (written files place latter) := by
  have found := get?_written opens notFolder latter
  have own : (written files place latter).get? place = some (.ledger latter) :=
    (found place).trans (if_pos rfl)
  have gone : (written files place latter).get? (journalOf place) = none := by
    rw [found, if_neg (journalOf_ne_self place), if_pos rfl]
  have pages : (written files place latter).get? (pagesOf place) = files.get? (pagesOf place) := by
    rw [found, if_neg (pagesOf_ne_self place), if_neg (journalOf_ne_pagesOf place).symm]
  refine ⟨by simp [own], Or.inl ⟨bytesAt_of_absent gone, Or.inr (by simp [gone])⟩, ?_⟩
  rw [PagesSettled, bytesAt_of_get?_eq pages, pages]
  exact settled.pages

/-- What work on the ledger at a place yields: the ledger as it became. -/
structure Yields (place : Place) (latter : Ledger) (files later : Files) : Prop
    extends Touches place files later where
  opens : Opens later place
  content : ledgerAt later place = latter

theorem Yields.trans (first : Yields place former files made)
    (second : Yields place latter made later) : Yields place latter files later :=
  ⟨first.toTouches.trans second.toTouches, second.opens, second.content⟩

/-- A ledger with something in it is there. -/
theorem Yields.found (yields : Yields place latter files later) (some_ : latter ≠ {}) :
    later.get? place = some (.ledger latter) := by
  rw [← yields.content] at some_ ⊢
  exact get?_of_ledgerAt_ne some_

/-- A journal can be written where its name is short enough and no folder stands in its place. -/
theorem isWritable_iff : isWritable files place = true ↔
    Files.isTooLong ((journalOf place).getLastD []) = false ∧
      files.get? (journalOf place) ≠ some .folder := by
  rw [isWritable, Bool.and_eq_true, decide_eq_true_eq, Bool.not_eq_true']

/-- A ledger that is put back stands at its place as it became, and it is settled still. -/
theorem putBack_eq_ok (ran : putBack place former latter files = .ok () later)
    (opens : Opens files place) (stands : ledgerAt files place = former)
    (settled : Settled place files) :
    Yields place latter files later ∧ Settled place later ∧
      (latter ≠ former → isWritable later place = true) := by
  unfold putBack at ran
  split at ran
  case isTrue same =>
    cases ran
    exact ⟨⟨.refl place files, opens, stands.trans same.symm⟩, settled, fun changed =>
      absurd same changed⟩
  case isFalse =>
    split at ran <;> cases ran
    case isTrue writable =>
      rw [isWritable_iff] at writable
      have found := (get?_written opens writable.2 latter place).trans (if_pos rfl)
      refine ⟨⟨written_touches opens writable.2 latter, Or.inr (Or.inr ⟨latter, found⟩),
        ledgerAt_of_found found⟩, settled_written opens writable.2 settled latter, fun _ => ?_⟩
      have gone : (written files place latter).get? (journalOf place) = none := by
        rw [get?_written opens writable.2, if_neg (journalOf_ne_self place), if_pos rfl]
      exact isWritable_iff.mpr ⟨writable.1, gone ▸ (Option.some_ne_none _).symm⟩

theorem putBack_eq_error (failed : putBack place former latter files = .error why later) :
    later = files ∧ latter ≠ former ∧ isWritable files place = false := by
  unfold putBack at failed
  split at failed
  case isTrue => cases failed
  case isFalse changed =>
    split at failed <;> cases failed
    case isFalse unwritable => exact ⟨rfl, changed, eq_false_of_ne_true unwritable⟩

/-! ## Steps at a place -/

variable {action : LedgerAction} {step : Ledger.Step α} {value : α} {failure : Failure}

/-- A step that succeeds was taken on the ledger at its place, and yields what it left. -/
theorem stepAt_eq_ok (ran : stepAt place path action step files = .ok value later) :
    ∃ latter, Opens files place ∧ step (ledgerAt files place) = .ok value latter ∧
      Yields place latter files later ∧ Settled place later ∧
      (latter ≠ ledgerAt files place → isWritable later place = true) := by
  unfold stepAt at ran
  cases opened : openAt place files with
  | error why left => rw [opened] at ran; cases ran
  | ok former left =>
    rw [opened] at ran
    dsimp only at ran
    obtain ⟨opens, rfl, opensLeft, stands, settled⟩ := openAt_eq_ok opened
    have tidies := openAt_tidies place files
    rw [leftBy_of_ok opened] at tidies
    cases stepped : step (ledgerAt files place) with
    | error fault latter => rw [stepped] at ran; cases ran
    | ok answer latter =>
      rw [stepped] at ran
      dsimp only at ran
      cases put : putBack place (ledgerAt files place) latter left with
      | error why left => rw [put] at ran; cases ran
      | ok _ after =>
        rw [put] at ran
        cases ran
        obtain ⟨yields, settledThen, writable⟩ := putBack_eq_ok put opensLeft stands.symm settled
        exact ⟨latter, opens, rfl,
          ⟨tidies.toTouches.trans yields.toTouches, yields.opens, yields.content⟩, settledThen,
          writable⟩

/-- A step that fails tidies, and it is refused, or the step itself fails. -/
theorem stepAt_eq_error (failed : stepAt place path action step files = .error failure later) :
    Tidies place files later ∧ ((∃ why, failure = refusal path action why) ∨
      ∃ fault left, step (ledgerAt files place) = .error fault left ∧
        failure = ofFault path action fault) := by
  have tidies := openAt_tidies place files
  unfold stepAt at failed
  cases opened : openAt place files with
  | error why left =>
    rw [opened] at failed
    rw [leftBy_of_error opened] at tidies
    cases failed
    exact ⟨tidies, Or.inl ⟨why, rfl⟩⟩
  | ok former left =>
    rw [opened] at failed
    rw [leftBy_of_ok opened] at tidies
    dsimp only at failed
    obtain ⟨_, rfl, _⟩ := openAt_eq_ok opened
    cases stepped : step (ledgerAt files place) with
    | error fault latter =>
      rw [stepped] at failed
      cases failed
      exact ⟨tidies, Or.inr ⟨fault, latter, rfl, rfl⟩⟩
    | ok answer latter =>
      rw [stepped] at failed
      dsimp only at failed
      cases put : putBack place (ledgerAt files place) latter left with
      | ok _ after => rw [put] at failed; cases failed
      | error why after =>
        rw [put] at failed
        cases failed
        obtain ⟨rfl, _⟩ := putBack_eq_error put
        exact ⟨tidies, Or.inl ⟨why, rfl⟩⟩

/-- At a settled place, a step that fails changes nothing. -/
theorem stepAt_eq_error_of_settled (settled : Settled place files) (opens : Opens files place)
    (failed : stepAt place path action step files = .error failure later) : later = files := by
  unfold stepAt at failed
  rw [openAt_of_settled settled opens] at failed
  dsimp only at failed
  split at failed
  case h_1 => cases failed; rfl
  case h_2 latter _ =>
    split at failed
    case h_1 put => cases failed; exact (putBack_eq_error put).1
    case h_2 => cases failed

/-- At a settled place, a step that leaves the ledger as it is changes nothing. -/
theorem stepAt_of_settled (settled : Settled place files) (opens : Opens files place)
    (stepped : step (ledgerAt files place) = .ok value (ledgerAt files place)) :
    stepAt place path action step files = .ok value files := by
  unfold stepAt
  rw [openAt_of_settled settled opens]
  dsimp only
  rw [stepped]
  dsimp only
  rw [putBack, if_pos rfl]

/-! ## Where every step can be taken -/

/-- A ledger can be opened and written at a place: its path is short enough, no folder is in the
place of its journal or of its pages, and pages can be read. -/
structure Sound (files : Files) (path : FilePath) (place : Place) : Prop where
  short : isTooLong files path = false
  journal : isWritable files place = true
  pages : files.get? (pagesOf place) ≠ some .folder
  index : Indexed place files

instance (files : Files) (path : FilePath) (place : Place) : Decidable (Sound files path place) :=
  decidable_of_iff (isTooLong files path = false ∧ isWritable files place = true ∧
      files.get? (pagesOf place) ≠ some .folder ∧ Indexed place files)
    ⟨fun ⟨short, journal, pages, index⟩ => ⟨short, journal, pages, index⟩,
      fun ⟨short, journal, pages, index⟩ => ⟨short, journal, pages, index⟩⟩

theorem isTooLong_of_here (same : later.here = files.here) (path : FilePath) :
    isTooLong later path = isTooLong files path := by
  rw [isTooLong, isTooLong, Files.spelled_of_here same, Files.start_of_here same]

theorem isWritable_of_folders (writable : isWritable files place = true)
    (folder : later.get? (journalOf place) = some .folder →
      files.get? (journalOf place) = some .folder) : isWritable later place = true :=
  have ⟨short, free⟩ := isWritable_iff.mp writable
  isWritable_iff.mpr ⟨short, fun isFolder => free (folder isFolder)⟩

/-- A place stays sound if no folder comes beside it, and pages can be read still. -/
theorem Sound.of_folders (sound : Sound files path place) (same : later.here = files.here)
    (folder : ∀ other, Beside place other → later.get? other = some .folder →
      files.get? other = some .folder) (index : Indexed place later) : Sound later path place where
  short := (isTooLong_of_here same path).trans sound.short
  journal := isWritable_of_folders sound.journal (folder _ (Or.inl rfl))
  pages isFolder := sound.pages (folder _ (Or.inr (Or.inl rfl)) isFolder)
  index := index

/-- Where nothing stands, no pages are read. -/
theorem indexed_of_absent (absent : files.get? place = none) : Indexed place files :=
  fun _ => Or.inl (bytesAt_of_absent absent)

/-- Pages that can be read can be read still if no folder comes in the place of their index. -/
theorem Indexed.of_get?_eq (indexed : Indexed place files)
    (own : later.get? place = files.get? place)
    (pages : later.get? (pagesOf place) = files.get? (pagesOf place))
    (folder : later.get? (indexOf place) = some .folder →
      files.get? (indexOf place) = some .folder) : Indexed place later := by
  rw [Indexed, bytesAt_of_get?_eq own, bytesAt_of_get?_eq pages]
  exact fun isFolder => indexed (folder isFolder)

/-- Work that settles a place keeps it sound. -/
theorem Sound.of_settled (sound : Sound files path place) (touches : Touches place files later)
    (settled : Settled place later) : Sound later path place :=
  sound.of_folders touches.here (fun _ _ folder => touches.folder folder) fun _ =>
    Or.inr settled.pages.2

theorem Sound.not_folder (sound : Sound files path place) :
    files.get? (journalOf place) ≠ some .folder :=
  (isWritable_iff.mp sound.journal).2

/-- At a sound place, what can be opened is opened. -/
theorem openAt_of_sound (sound : Sound files path place) (opens : Opens files place) :
    ∃ later, openAt place files = .ok (ledgerAt files place) later := by
  cases opened : openAt place files with
  | ok content later =>
    obtain ⟨_, rfl, _⟩ := openAt_eq_ok opened
    exact ⟨later, rfl⟩
  | error why left =>
    exfalso
    -- none of the four steps is refused
    rcases bind_eq_error.mp opened with refused | ⟨_, made, ran, rest⟩
    · unfold create at refused
      rcases opens with absent | empty | ⟨content, ledger⟩
      · rw [absent] at refused; cases refused
      · rw [empty] at refused; cases refused
      · rw [ledger] at refused; cases refused
    have created := (create_tidies place files).toTouches
    rw [leftBy_of_ok ran] at created
    obtain ⟨opensMade, indexMade⟩ : Opens made place ∧ Indexed place made := by
      rcases create_eq_ok ran with ⟨absent, rfl⟩ | ⟨_, rfl⟩
      · have notFolder : files.get? place ≠ some .folder := by simp [absent]
        have empty := Files.get?_set_self files (.document []) (Files.isStart_eq_false notFolder)
        refine ⟨Or.inr (Or.inl empty), fun _ => Or.inl ?_⟩
        rw [Files.bytesAt, empty]
      · exact ⟨opens, sound.index⟩
    rcases bind_eq_error.mp rest with refused | ⟨_, rid, ranJournal, rest⟩
    · rcases settleJournal_cases place made with ⟨took, _⟩ | ⟨took, _⟩ | ⟨_, folder⟩
      · cases took.symm.trans refused
      · cases took.symm.trans refused
      · exact sound.not_folder (created.folder folder)
    have settledJournal := (settleJournal_tidies place made).toTouches
    rw [leftBy_of_ok ranJournal] at settledJournal
    have stays {other : Place} (differs : other ≠ journalOf place) :
        rid.get? other = made.get? other := get?_of_settleJournal ranJournal differs
    have opensRid := opensMade.of_get?_eq (stays (journalOf_ne_self place).symm)
    have indexRid := indexMade.of_get?_eq (stays (journalOf_ne_self place).symm)
      (stays (journalOf_ne_pagesOf place).symm) settledJournal.folder
    rcases bind_eq_error.mp rest with refused | ⟨_, last, ranPages, refused⟩
    · rcases settlePages_cases place rid with
        ⟨took, _⟩ | ⟨took, _⟩ | ⟨took, _⟩ | ⟨_, folder | unread⟩
      · cases took.symm.trans refused
      · cases took.symm.trans refused
      · cases took.symm.trans refused
      · exact sound.pages (created.folder (settledJournal.folder folder))
      · exact unread indexRid
    have opensLast := opensRid.of_get?_eq (get?_of_settlePages ranPages
      (pagesOf_ne_self place).symm (indexOf_ne_self place).symm)
    cases (content_of_opens opensLast).symm.trans refused

/-- **At a sound place every step is taken**: it yields what it leaves of the ledger, or the ledger
as it was if it fails, and the place is settled. -/
theorem stepAt_of_sound (action : LedgerAction) (sound : Sound files path place)
    (opens : Opens files place) (step : Ledger.Step α) :
    match step (ledgerAt files place) with
    | .ok value latter =>
      ∃ later, stepAt place path action step files = .ok value later ∧
        Yields place latter files later ∧ Settled place later
    | .error fault _ =>
      ∃ later, stepAt place path action step files = .error (ofFault path action fault) later ∧
        Yields place (ledgerAt files place) files later ∧ Settled place later := by
  obtain ⟨left, opened⟩ := openAt_of_sound sound opens
  obtain ⟨_, _, opensLeft, stands, settled⟩ := openAt_eq_ok opened
  have tidies := openAt_tidies place files
  rw [leftBy_of_ok opened] at tidies
  have writable := isWritable_of_folders sound.journal tidies.folder
  cases stepped : step (ledgerAt files place) with
  | error fault latter =>
    refine ⟨left, ?_, ⟨tidies.toTouches, opensLeft, stands.symm⟩, settled⟩
    rw [stepAt, opened]
    dsimp only
    rw [stepped]
  | ok value latter =>
    obtain ⟨later, put⟩ : ∃ later,
        putBack place (ledgerAt files place) latter left = .ok () later := by
      rw [putBack, if_pos writable]
      split <;> exact ⟨_, rfl⟩
    obtain ⟨yields, settledThen, _⟩ := putBack_eq_ok put opensLeft stands.symm settled
    refine ⟨later, ?_, ⟨tidies.toTouches.trans yields.toTouches, yields.opens, yields.content⟩,
      settledThen⟩
    rw [stepAt, opened]
    dsimp only
    rw [stepped]
    dsimp only
    rw [put]

end CharTally.Store
