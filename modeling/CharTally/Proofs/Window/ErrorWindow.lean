import CharTally.Proofs.Window.Literals
import CharTally.Proofs.Window.Story

/-!
# The error window

An error window is opened by each fault that is told, after the one that may still stand is
deleted, and it is deleted by the button in it. The button works on when the window is gone:
its orders are counted and delete nothing.

`Follows` says what the form knows of all this behind a story: whether there has been a fault,
which fault stands in the window, how many orders to delete there were, and that the windows
that were opened are those that were removed and the one that stands. Every event keeps it
(`follows_concat`), so it holds of every state that is seen
(`error_window_follows_faults`).
-/

namespace CharTally.Window

variable {source : Settings.Source} {workspace : Workspace} {document : Settings.Document}
  {form after : Form} {event : Event} {events : List Event} {past : List Moment}
  {moment : Moment} {fault : Fault}

/-! ## Moments that matter to the window -/

namespace Moment

/-- A fault is told. -/
def fails (moment : Moment) : Bool := moment.turn.fault?.isSome

/-- The button in the error window is clicked. -/
def closes (moment : Moment) : Bool := moment.event = .click .close

/-- An error window stands before the event. -/
def isCovered (moment : Moment) : Bool := moment.before.error.isSome

theorem fails_of_told (told : moment.turn = .told fault) : moment.fails = true := by
  rw [fails, told]
  rfl

theorem not_told_of_quiet (quiet : moment.fails = false) (fault : Fault) :
    moment.turn ≠ .told fault := by
  intro told
  rw [fails_of_told told] at quiet
  cases quiet

end Moment

/-- The fault of the last click that failed, if it was not closed since. -/
def Standing (past : List Moment) (fault : Fault) : Prop :=
  ∃ earlier moment later, past = earlier ++ moment :: later ∧ moment.turn = .told fault ∧
    ∀ other ∈ later, other.fails = false ∧ other.closes = false

/-- How often the button in the error window was clicked since the first fault. -/
def closings (past : List Moment) : Nat :=
  (past.dropWhile fun moment => !moment.fails).countP Moment.closes

theorem not_standing_nil (fault : Fault) : ¬ Standing [] fault := by
  rintro ⟨earlier, moment, later, same, _⟩
  exact List.append_ne_nil_of_right_ne_nil earlier (List.cons_ne_nil moment later) same.symm

/-- A fault comes to stand by being told, and stays until another is told or it is closed. -/
theorem standing_concat :
    Standing (past ++ [moment]) fault ↔
      moment.turn = .told fault ∨
        Standing past fault ∧ moment.fails = false ∧ moment.closes = false := by
  constructor
  · rintro ⟨earlier, failing, later, same, told, quiet⟩
    rcases List.eq_nil_or_concat later with rfl | ⟨front, last, rfl⟩
    · obtain ⟨_, isLast⟩ := List.append_inj' same rfl
      cases isLast
      exact Or.inl told
    · rw [List.concat_eq_append] at same quiet
      rw [← List.cons_append, ← List.append_assoc] at same
      obtain ⟨rfl, isLast⟩ := List.append_inj' same rfl
      cases isLast
      obtain ⟨quietFront, quietLast⟩ := List.forall_mem_append.mp quiet
      exact Or.inr ⟨⟨earlier, failing, front, rfl, told, quietFront⟩,
        quietLast moment (List.mem_singleton_self moment)⟩
  · rintro (told | ⟨⟨earlier, failing, later, rfl, told, quiet⟩, stays⟩)
    · exact ⟨past, moment, [], rfl, told, List.forall_mem_nil _⟩
    · refine ⟨earlier, failing, later ++ [moment], List.append_assoc .., told, ?_⟩
      rw [List.forall_mem_append]
      exact ⟨quiet, List.forall_mem_singleton.mpr stays⟩

theorem closings_concat (apart : moment.fails = true → moment.closes = false) :
    closings (past ++ [moment]) =
      closings past + if past.any Moment.fails && moment.closes then 1 else 0 := by
  unfold closings
  rw [List.dropWhile_append]
  by_cases quiet : ∀ other ∈ past, other.fails = false
  · have never : past.any Moment.fails = false := by
      simpa using quiet
    have gone : past.dropWhile (fun moment => !moment.fails) = [] := by
      simpa [List.dropWhile_eq_nil_iff] using quiet
    rw [gone, never]
    cases failing : moment.fails with
    | true => simp [failing, apart failing]
    | false => simp [failing]
  · have ever : past.any Moment.fails = true := by
      simpa using quiet
    have some_ : (past.dropWhile fun moment => !moment.fails).isEmpty = false := by
      rw [List.isEmpty_eq_false_iff, ne_eq, List.dropWhile_eq_nil_iff]
      simpa using quiet
    rw [some_, ever, if_neg Bool.false_ne_true, List.countP_append, List.countP_singleton,
      Bool.true_and]

/-! ## What the form knows -/

/-- A form knows the faults and closings of a story. -/
structure Follows (past : List Moment) (form : Form) : Prop where
  everFailed : form.everFailed = past.any Moment.fails
  error : ∀ text, form.error = some text ↔
    ∃ fault, Standing past fault ∧ text = "An error occurred:\n" ++ fault.tagged
  deleted : form.deleted = closings past + past.countP fun moment =>
    moment.fails && moment.isCovered
  windows : past.countP Moment.fails = (past.countP fun moment =>
    (moment.fails || moment.closes) && moment.isCovered) + form.error.toList.length

/-- Where there was no fault, no error window stands. -/
theorem Follows.error_eq_none (follows : Follows past form) (never : form.everFailed = false) :
    form.error = none := by
  rw [follows.everFailed, List.any_eq_false] at never
  rw [Option.eq_none_iff_forall_ne_some]
  intro text shown
  obtain ⟨fault, ⟨earlier, failing, later, rfl, told, _⟩, _⟩ := (follows.error text).mp shown
  exact never failing (List.mem_append_right earlier List.mem_cons_self)
    (Moment.fails_of_told told)

/-- A fault that is told stands in the window, and one that stood there is deleted. -/
theorem follows_told (follows : Follows past form) (told : moment.turn = .told fault)
    (before : moment.before = form) (unclosed : moment.closes = false) :
    Follows (past ++ [moment]) (form.showFault fault) := by
  have fails := Moment.fails_of_told told
  have covered : moment.isCovered = form.error.isSome := by rw [Moment.isCovered, before]
  constructor
  · rw [List.any_append, List.any_cons, fails, Bool.true_or, Bool.or_true]
    rfl
  · intro text
    change some ("An error occurred:\n" ++ fault.message) = some text ↔ _
    rw [Fault.message_eq, Option.some.injEq]
    constructor
    · rintro rfl
      exact ⟨fault, standing_concat.mpr (Or.inl told), rfl⟩
    · rintro ⟨other, standing, rfl⟩
      rcases standing_concat.mp standing with toldOther | ⟨_, quiet, _⟩
      · cases told.symm.trans toldOther
        rfl
      · cases fails.symm.trans quiet
  · change (if form.error.isSome then form.deleted + 1 else form.deleted) = _
    rw [closings_concat fun _ => unclosed, unclosed, Bool.and_false, if_neg Bool.false_ne_true,
      List.countP_append, List.countP_singleton, fails, covered, Bool.true_and, follows.deleted]
    split <;> omega
  · change _ = _ + 1
    rw [List.countP_append, List.countP_append, List.countP_singleton, List.countP_singleton,
      fails, covered, Bool.true_or, Bool.true_and, follows.windows]
    cases form.error <;> rfl

/-- Closing removes the window that stands; it orders so whenever there has been one. -/
theorem follows_closed (follows : Follows past form) (closed : moment.turn = .closed)
    (before : moment.before = form) (closes : moment.closes = true) :
    Follows (past ++ [moment]) form.close := by
  have quiet : moment.fails = false := by
    rw [Moment.fails, closed]
    rfl
  have covered : moment.isCovered = form.error.isSome := by rw [Moment.isCovered, before]
  have gone : form.close.error = none := by
    rw [Form.close]
    split
    case isTrue => rfl
    case isFalse never => exact follows.error_eq_none (Bool.eq_false_iff.mpr never)
  constructor
  · rw [List.any_append, List.any_cons, quiet, ← follows.everFailed, List.any_nil,
      Bool.or_false, Bool.or_false, Form.close]
    split <;> rfl
  · intro text
    rw [gone]
    constructor
    · intro none_
      cases none_
    · rintro ⟨fault, standing, _⟩
      rcases standing_concat.mp standing with told | ⟨_, _, unclosed⟩
      · cases closed.symm.trans told
      · cases closes.symm.trans unclosed
  · rw [closings_concat fun fails => absurd fails (by rw [quiet]; exact Bool.false_ne_true),
      closes, ← follows.everFailed, List.countP_append, List.countP_singleton, quiet,
      Bool.false_and, if_neg Bool.false_ne_true, Bool.and_true, Form.close]
    have deleted := follows.deleted
    split
    case isTrue =>
      change form.deleted + 1 = _
      omega
    case isFalse => omega
  · rw [gone, List.countP_append, List.countP_append, List.countP_singleton,
      List.countP_singleton, quiet, closes, covered, if_neg Bool.false_ne_true, Bool.or_true,
      Bool.true_and, follows.windows]
    cases form.error <;> rfl

/-- Nothing else touches the window. -/
theorem follows_quiet (follows : Follows past form) (quiet : moment.fails = false)
    (unclosed : moment.closes = false) (everFailed : after.everFailed = form.everFailed)
    (error : after.error = form.error) (deleted : after.deleted = form.deleted) :
    Follows (past ++ [moment]) after := by
  constructor
  · rw [everFailed, follows.everFailed, List.any_append, List.any_cons, quiet, List.any_nil,
      Bool.or_false, Bool.or_false]
  · intro text
    rw [error, follows.error text]
    constructor
    · rintro ⟨fault, standing, rfl⟩
      exact ⟨fault, standing_concat.mpr (Or.inr ⟨standing, quiet, unclosed⟩), rfl⟩
    · rintro ⟨fault, standing, rfl⟩
      rcases standing_concat.mp standing with told | ⟨standing, _⟩
      · exact absurd told (Moment.not_told_of_quiet quiet fault)
      · exact ⟨fault, standing, rfl⟩
  · rw [deleted, follows.deleted, closings_concat fun _ => unclosed, unclosed, Bool.and_false,
      if_neg Bool.false_ne_true, List.countP_append, List.countP_singleton, quiet,
      Bool.false_and, if_neg Bool.false_ne_true]
    rfl
  · rw [error, List.countP_append, List.countP_append, List.countP_singleton,
      List.countP_singleton, quiet, unclosed, Bool.or_false, Bool.false_and,
      if_neg Bool.false_ne_true, follows.windows]
    rfl

/-- **What one event does**: the form behind it knows one moment more. -/
theorem follows_concat (follows : Follows past moment.before)
    (comes : Comes source workspace moment.before moment.event moment.turn) :
    Follows (past ++ [moment]) (moment.turn.apply moment.before) := by
  obtain ⟨form, event, turned, after⟩ := moment
  cases comes with
  | unloaded | uncounted => exact follows_told follows rfl rfl rfl
  | closed => exact follows_closed follows rfl rfl rfl
  | set field value => cases field <;> exact follows_quiet follows rfl rfl rfl rfl rfl
  | loaded | counted | idle => exact follows_quiet follows rfl rfl rfl rfl rfl
  | @crashed button crash failed =>
    cases button with
    | close => cases failed
    | load | count => exact follows_quiet follows rfl rfl rfl rfl rfl

theorem follows_behind (document : Settings.Document) (events : List Event) :
    Follows (story source workspace { form := firstForm document } events)
      (State.behind source workspace { form := firstForm document } events).form := by
  induction events using List.reverseRecOn with
  | nil =>
    obtain ⟨error, everFailed, deleted⟩ := error_firstForm document
    constructor
    · exact everFailed
    · intro text
      change (firstForm document).error = some text ↔ _
      rw [error]
      constructor
      · intro none_
        cases none_
      · rintro ⟨fault, standing, _⟩
        exact absurd standing (not_standing_nil fault)
    · exact deleted
    · change 0 = 0 + (firstForm document).error.toList.length
      rw [error]
      rfl
  | append_singleton earlier event ih =>
    rw [story_concat, behind_concat, next_eq]
    exact follows_concat ih (comes_turn ..)

/-- **The error window follows the faults.** Whatever is done in the window of a document, at all
times: an error window stands exactly if a click has failed and was not closed since, and it tells
the fault of the last click that failed, as the log did when the fault was told; as many windows
were opened as were removed, and one more if one stands, so there is never more than one; and the
orders to delete it are the closings since the first fault and the faults that were told while a
window stood. -/
theorem error_window_follows_faults (source : Settings.Source) (workspace : Workspace)
    (document : Settings.Document) (events : List Event) :
    let moments := story source workspace { form := firstForm document } events
    states source workspace document events =
        { form := firstForm document } :: moments.map Moment.seen ∧
      (∀ moment ∈ moments,
        Comes source workspace moment.before moment.event moment.turn ∧
          ∀ fault, moment.turn = .told fault →
            moment.after.log = moment.before.log ++ "Error: " ++ fault.tagged ++ "\n") ∧
      ∀ place state, (states source workspace document events)[place]? = some state →
        let past := moments.take place
        (∀ text, state.form.error = some text ↔
          ∃ fault, Standing past fault ∧ text = "An error occurred:\n" ++ fault.tagged) ∧
        past.countP Moment.fails =
          (past.countP fun moment => (moment.fails || moment.closes) && moment.isCovered) +
            state.form.error.toList.length ∧
        state.form.deleted =
          closings past + past.countP fun moment => moment.fails && moment.isCovered := by
  intro moments
  refine ⟨?_, ?_, ?_⟩
  · rw [map_seen_story]
    rfl
  · intro moment member
    obtain ⟨state, event, _, rfl⟩ := exists_of_mem_story member
    refine ⟨comes_turn .., ?_⟩
    intro fault told
    have isTold : turn source workspace state.form event = .told fault := told
    rw [after_momentOf, isTold, ← Fault.message_eq]
    rfl
  · intro place state isSeen
    dsimp only [moments]
    rw [take_story, getElem?_states isSeen]
    have follows : Follows (story source workspace { form := firstForm document }
        (events.take place)) _ := follows_behind document (events.take place)
    exact ⟨follows.error, follows.windows, follows.deleted⟩

/-- Closing before any fault, a fault, a fault while its window stands, two closings, and a fault
behind a log that somebody wrote. -/
def threeFaults : List Event :=
  [.click .close, .set .target "xG", .click .count, .set .profile "z", .click .load,
    .click .close, .click .close, .set .log "a", .click .load]

/-- Of three windows two were removed, by three orders. -/
theorem error_window_follows_faults_threeFaults :
    ∃ state, (states .bundled bare usualDocument threeFaults)[9]? = some state ∧
      state.form.error.toList.length = 1 ∧ state.form.deleted = 3 := by
  have within : 9 < (states .bundled bare usualDocument threeFaults).length := by decide +kernel
  obtain ⟨_, _, each⟩ := error_window_follows_faults .bundled bare usualDocument threeFaults
  obtain ⟨_, windows, deleted⟩ := each 9 _ (List.getElem?_eq_getElem within)
  refine ⟨_, List.getElem?_eq_getElem within, ?_, ?_⟩
  · have three : ((story .bundled bare { form := firstForm usualDocument } threeFaults).take
        9).countP Moment.fails = 3 := by
      decide +kernel
    have two : (((story .bundled bare { form := firstForm usualDocument } threeFaults).take
        9).countP fun moment => (moment.fails || moment.closes) && moment.isCovered) = 2 := by
      decide +kernel
    omega
  · rw [deleted]
    decide +kernel

end CharTally.Window
