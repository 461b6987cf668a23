import CharTally.Proofs.Failure
import CharTally.Window
import Mathlib.Data.List.Induction

/-!
# What comes of events

A click has the workspace, the settings and the form behind it, and yet only a few things
can come of it. `turn` says which, and `Turn.apply` what this does to the form; together they
are a step of the window (`next_eq`). So what holds behind every list of events is
shown by going through the turns once.

`story` tells a list of events moment by moment: the form before, what came of the event, and
the form after. It follows the states that are seen (`getElem?_states`), and a longer list of
events is told by a longer story (`story_concat`, `take_story`).
-/

namespace CharTally.Window

/-! ## Turns -/

/-- What comes of an event. -/
inductive Turn where
  | set (field : Field) (value : Text)
  | counted (line : Text)
  | loaded (profile : Settings.Profile)
  | told (fault : Fault)
  | crashed (crash : Crash)
  | closed
  | idle
deriving DecidableEq, Repr

namespace Turn

/-- What comes of a button's work. -/
def ofWork {α : Type} (done : α → Turn) : Except Failure α → Turn
  | .ok value => done value
  | .error (.reported fault) => .told fault
  | .error (.crash crash) => .crashed crash

/-- The form after a turn. -/
def apply (form : Form) : Turn → Form
  | .set field value => form.set field value
  | .counted line => form.showLine line
  | .loaded profile => form.showLiterals profile.target profile.text
  | .told fault => form.showFault fault
  | .crashed _ => form
  | .closed => form.close
  | .idle => form

/-- The sentence that was found. -/
def line? : Turn → Option Text
  | .counted line => some line
  | _ => none

/-- The fault that was told. -/
def fault? : Turn → Option Fault
  | .told fault => some fault
  | _ => none

/-- The crash that there was. -/
def crash? : Turn → Option Crash
  | .crashed crash => some crash
  | _ => none

end Turn

variable {source : Settings.Source} {workspace : Workspace} {state : State} {event : Event}
  {events : List Event}

/-- What comes of an event at a form. -/
def turn (source : Settings.Source) (workspace : Workspace) (form : Form) : Event → Turn
  | .set field value => .set field value
  | .click .load => .ofWork .loaded (namedProfile workspace.files source form)
  | .click .count => .ofWork .counted (line source form workspace)
  | .click .close => .closed
  | .idle => .idle

/-- **What one event does**: the form turns, and a crash is seen. -/
theorem next_eq (source : Settings.Source) (workspace : Workspace) (state : State)
    (event : Event) :
    state.next source workspace event =
      { form := (turn source workspace state.form event).apply state.form
        crash := (turn source workspace state.form event).crash? } := by
  cases event with
  | set field value => rfl
  | idle => rfl
  | click button =>
    cases button with
    | close => rfl
    | load =>
      rw [State.next, click, turn]
      rcases namedProfile workspace.files source state.form with (fault | crash) | profile <;> rfl
    | count =>
      rw [State.next, click, turn]
      rcases line source state.form workspace with (fault | crash) | line <;> rfl

/-- What can come of an event, and when it does. -/
inductive Comes (source : Settings.Source) (workspace : Workspace) (form : Form) :
    Event → Turn → Prop
  | set (field : Field) (value : Text) : Comes source workspace form (.set field value)
      (.set field value)
  | loaded {profile : Settings.Profile}
      (found : namedProfile workspace.files source form = .ok profile) :
      Comes source workspace form (.click .load) (.loaded profile)
  | unloaded {fault : Fault}
      (failed : namedProfile workspace.files source form = .error (.reported fault)) :
      Comes source workspace form (.click .load) (.told fault)
  | counted {report : Report} {left : Workspace} {line : Text}
      (ran : scan source form workspace = .ok report left) (written : report.line? = some line) :
      Comes source workspace form (.click .count) (.counted line)
  | uncounted {fault : Fault} {left : Workspace}
      (ran : scan source form workspace = .error (.reported fault) left) :
      Comes source workspace form (.click .count) (.told fault)
  | crashed {button : Button} {crash : Crash}
      (failed : click source workspace form button = .error crash) :
      Comes source workspace form (.click button) (.crashed crash)
  | closed : Comes source workspace form (.click .close) .closed
  | idle : Comes source workspace form .idle .idle

theorem comes_turn (source : Settings.Source) (workspace : Workspace) (form : Form)
    (event : Event) : Comes source workspace form event (turn source workspace form event) := by
  cases event with
  | set field value => exact .set field value
  | idle => exact .idle
  | click button =>
    cases button with
    | close => exact .closed
    | load =>
      rw [turn]
      cases found : namedProfile workspace.files source form with
      | ok profile => exact .loaded found
      | error failure =>
        cases failure with
        | reported fault => exact .unloaded found
        | crash crash =>
          apply Comes.crashed
          rw [click, found]
          rfl
    | count =>
      rw [turn]
      cases ran : scan source form workspace with
      | error failure left =>
        have failed : line source form workspace = .error failure := by rw [line, ran]
        rw [failed]
        cases failure with
        | reported fault => exact .uncounted ran
        | crash crash =>
          apply Comes.crashed
          rw [click, failed]
          rfl
      | ok report left =>
        cases written : report.line? with
        | some told =>
          have isLine : line source form workspace = .ok told := by
            rw [line, ran]
            dsimp only
            rw [written]
          rw [isLine]
          exact .counted ran written
        | none =>
          have failed : line source form workspace = .error (.crash .integerTooLong) := by
            rw [line, ran]
            dsimp only
            rw [written]
          rw [failed]
          apply Comes.crashed
          rw [click, failed]
          rfl

/-! ## The first form -/

theorem profile_firstForm (document : Settings.Document) :
    (firstForm document).profile = Settings.usualProfile := by
  unfold firstForm
  split <;> rfl

/-- Nothing has been told and found when the window opens. -/
theorem log_firstForm (document : Settings.Document) :
    (firstForm document).log = [] ∧ (firstForm document).result = [] := by
  unfold firstForm
  split <;> exact ⟨rfl, rfl⟩

/-- No error window has been opened and deleted when the window opens. -/
theorem error_firstForm (document : Settings.Document) :
    (firstForm document).error = none ∧ (firstForm document).everFailed = false ∧
      (firstForm document).deleted = 0 := by
  unfold firstForm
  split <;> exact ⟨rfl, rfl, rfl⟩

/-! ## Stories -/

/-- A moment of a session: the form before, the event, what comes of it, and the form after. -/
structure Moment where
  before : Form
  event : Event
  turn : Turn
  after : Form
deriving DecidableEq, Repr

/-- What is seen after a moment. -/
def Moment.seen (moment : Moment) : State := { form := moment.after, crash := moment.turn.crash? }

/-- The moment of an event. -/
def momentOf (source : Settings.Source) (workspace : Workspace) (state : State) (event : Event) :
    Moment :=
  ⟨state.form, event, turn source workspace state.form event,
    (state.next source workspace event).form⟩

/-- The moments of a list of events. -/
def story (source : Settings.Source) (workspace : Workspace) (state : State) :
    List Event → List Moment
  | [] => []
  | event :: rest =>
    momentOf source workspace state event ::
      story source workspace (state.next source workspace event) rest

/-- What is seen behind a list of events. -/
def State.behind (source : Settings.Source) (workspace : Workspace) (state : State)
    (events : List Event) : State :=
  events.foldl (State.next source workspace) state

theorem after_momentOf (source : Settings.Source) (workspace : Workspace) (state : State)
    (event : Event) :
    (momentOf source workspace state event).after =
      (turn source workspace state.form event).apply state.form := by
  rw [momentOf, next_eq]

theorem behind_concat (earlier : List Event) (event : Event) :
    state.behind source workspace (earlier ++ [event]) =
      (state.behind source workspace earlier).next source workspace event := by
  rw [State.behind, List.foldl_append]
  rfl

theorem story_append (earlier later : List Event) :
    story source workspace state (earlier ++ later) =
      story source workspace state earlier ++
        story source workspace (state.behind source workspace earlier) later := by
  induction earlier generalizing state with
  | nil => rfl
  | cons event rest ih =>
    rw [List.cons_append, story, story, ih]
    rfl

theorem story_concat (earlier : List Event) (event : Event) :
    story source workspace state (earlier ++ [event]) =
      story source workspace state earlier ++
        [momentOf source workspace (state.behind source workspace earlier) event] :=
  story_append earlier [event]

theorem length_story : (story source workspace state events).length = events.length := by
  induction events generalizing state with
  | nil => rfl
  | cons event rest ih => rw [story, List.length_cons, List.length_cons, ih]

/-- The beginning of a story is the story of the beginning. -/
theorem take_story (count : Nat) :
    (story source workspace state events).take count =
      story source workspace state (events.take count) := by
  rcases Nat.le_total count events.length with within | beyond
  · have whole : story source workspace state (events.take count ++ events.drop count) = _ :=
      story_append (events.take count) (events.drop count)
    rw [List.take_append_drop] at whole
    rw [whole, List.take_left']
    rw [length_story, List.length_take, Nat.min_eq_left within]
  · rw [List.take_of_length_le beyond, List.take_of_length_le]
    rw [length_story]
    exact beyond

/-- Each moment of a story is that of an event at some state. -/
theorem exists_of_mem_story {moment : Moment}
    (member : moment ∈ story source workspace state events) :
    ∃ earlier event, event ∈ events ∧ moment = momentOf source workspace earlier event := by
  induction events generalizing state with
  | nil => cases member
  | cons event rest ih =>
    rcases List.mem_cons.mp member with rfl | later
    · exact ⟨state, event, List.mem_cons_self, rfl⟩
    · obtain ⟨earlier, other, among, same⟩ := ih later
      exact ⟨earlier, other, List.mem_cons_of_mem event among, same⟩

/-- A story tells what is seen after each event. -/
theorem map_seen_story :
    (story source workspace state events).map Moment.seen =
      state.after source workspace events := by
  induction events generalizing state with
  | nil => rfl
  | cons event rest ih =>
    have first : (momentOf source workspace state event).seen =
        state.next source workspace event := by
      rw [Moment.seen, after_momentOf, next_eq]
      rfl
    rw [story, List.map_cons, ih, first, State.after]

/-- What is seen after some of the events is what stands behind them. -/
theorem getElem?_after {place : Nat} {seen : State}
    (isSeen : (state :: state.after source workspace events)[place]? = some seen) :
    seen = state.behind source workspace (events.take place) := by
  induction events generalizing state place with
  | nil =>
    cases place with
    | zero =>
      cases isSeen
      rfl
    | succ place => cases isSeen
  | cons event rest ih =>
    cases place with
    | zero =>
      cases isSeen
      rfl
    | succ place =>
      rw [List.getElem?_cons_succ, State.after] at isSeen
      exact ih isSeen

theorem getElem?_states {document : Settings.Document} {place : Nat} {seen : State}
    (isSeen : (states source workspace document events)[place]? = some seen) :
    seen = State.behind source workspace { form := firstForm document } (events.take place) :=
  getElem?_after isSeen

end CharTally.Window
