import CharTally.Run
import CharTally.Window.Form

/-!
The window: a form over the same run.

The settings document is read when the window opens, and again at every click
that needs it. A fault is shown and changes nothing else; a crash leaves the form
as it was.
-/

namespace CharTally.Window

/-! ## Opening -/

/-- The names of a document's profiles, in the order of their characters' codes. -/
def choices (document : Settings.Document) : List Text :=
  (document.profiles.map (·.1)).mergeSort Text.upTo

/-- The profile whose literals are shown first: the usual one, or else the first choice. -/
def firstProfile? (document : Settings.Document) : Option Settings.Profile :=
  match document.find? Settings.usualProfile with
  | some profile => some profile
  | none => (choices document).head?.bind document.find?

/-- The form when the window opens. -/
def firstForm (document : Settings.Document) : Form :=
  match firstProfile? document with
  | some first =>
    { profile := Settings.usualProfile, target := [first.target], text := first.text }
  | none => { profile := Settings.usualProfile, target := [], text := [] }

/-- What the window is opened with. -/
def opening (files : Files) (source : Settings.Source) : Except Failure Settings.Document :=
  Settings.load files source none

/-! ## Buttons -/

/-- What the form becomes when a button's work is done. -/
def shown {α : Type} (showValue : α → Form → Form) (form : Form) :
    Except Failure α → Except Crash Form
  | .ok value => .ok (showValue value form)
  | .error (.reported fault) => .ok (form.showFault fault)
  | .error (.crash crash) => .error crash

/-- The profile that the form names. -/
def namedProfile (files : Files) (source : Settings.Source) (form : Form) :
    Except Failure Settings.Profile := do
  let document ← Settings.load files source (some form.profile)
  match document.find? form.profile with
  | some profile => return profile
  | none => throw (.crash (.noSuchProfile (some form.profile)))

/-- Counts the target of the form in its text. -/
def scan (source : Settings.Source) (form : Form) : Job Report := do
  let document ← Job.ofExcept (Settings.load (← get).files source (some form.profile))
  match Target.parse form.target with
  | .error trouble => throw (.ofTarget form.target trouble)
  | .ok target =>
    Run.count [target] form.text document.wording
      { reporter := .keep, profile := some form.profile }

/-- The sentence of the scan that the form asks for. -/
def line (source : Settings.Source) (form : Form) (workspace : Workspace) : Except Failure Text :=
  match scan source form workspace with
  | .error failure _ => .error failure
  | .ok report _ =>
    match report.line? with
    | some line => .ok line
    | none => .error (.crash .integerTooLong)

/-- The form after a click. -/
def click (source : Settings.Source) (workspace : Workspace) (form : Form) :
    Button → Except Crash Form
  | .load =>
    shown (fun profile => Form.showLiterals profile.target profile.text) form
      (namedProfile workspace.files source form)
  | .count => shown Form.showLine form (line source form workspace)
  | .close => .ok form.close

/-! ## Sessions -/

/-- What is seen after an event: the form, and the crash if there was one. -/
structure State where
  form : Form
  crash : Option Crash := none
deriving DecidableEq, Repr

/-- What is seen after one more event. -/
def State.next (source : Settings.Source) (workspace : Workspace) (state : State) : Event → State
  | .set field value => { form := state.form.set field value }
  | .click button =>
    match click source workspace state.form button with
    | .ok form => { form }
    | .error crash => { form := state.form, crash := some crash }
  | .idle => { form := state.form }

/-- What is seen after each of a list of events. -/
def State.after (source : Settings.Source) (workspace : Workspace) (state : State) :
    List Event → List State
  | [] => []
  | event :: rest =>
    let next := state.next source workspace event
    next :: next.after source workspace rest

/-- What is seen in the window of a document, at first and after each event. -/
def states (source : Settings.Source) (workspace : Workspace) (document : Settings.Document)
    (events : List Event) : List State :=
  let first : State := { form := firstForm document }
  first :: first.after source workspace events

end CharTally.Window
