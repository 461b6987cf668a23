import CharTally.Failure

/-!
The form of the window: the fields that a user can see or set, and the error
window that may stand in front of them.
-/

namespace CharTally.Window

/-- The fields of the form. -/
inductive Field where
  | profile
  | target
  | text
  | log
  | result
deriving DecidableEq, Repr

namespace Field

/-- The name of a field. -/
def label : Field → Text
  | .profile => "Profile"
  | .target => "Target"
  | .text => "String"
  | .log => "Log"
  | .result => "result"

/-- The field with a name. -/
def ofLabel? (t : Text) : Option Field :=
  [Field.profile, .target, .text, .log, .result].find? fun field => field.label = t

end Field

/-- The buttons; the last one stands in the error window. -/
inductive Button where
  | load
  | count
  | close
deriving DecidableEq, Repr

namespace Button

/-- The words on a button. -/
def label : Button → Text
  | .load => "Load profile literals"
  | .count => "Count"
  | .close => "Close"

/-- The button with words on it. -/
def ofLabel? (t : Text) : Option Button :=
  [Button.load, .count, .close].find? fun button => button.label = t

end Button

/-- What a user can do. Anything that is about no field and no button is idle. -/
inductive Event where
  | set (field : Field) (value : Text)
  | click (button : Button)
  | idle
deriving DecidableEq, Repr

/-- What the form shows. `everFailed` says whether there has been an error window, and `deleted`
counts the orders to delete it. -/
structure Form where
  profile : Text
  target : Text
  text : Text
  log : Text := []
  result : Text := []
  error : Option Text := none
  everFailed : Bool := false
  deleted : Nat := 0
deriving DecidableEq, Repr

namespace Form

/-- Puts a value into a field. -/
def set (field : Field) (value : Text) (form : Form) : Form :=
  match field with
  | .profile => { form with profile := value }
  | .target => { form with target := value }
  | .text => { form with text := value }
  | .log => { form with log := value }
  | .result => { form with result := value }

/-- Shows literals in the fields for them. -/
def showLiterals (target : CodePoint) (text : Text) (form : Form) : Form :=
  { form with target := [target], text }

/-- Shows the sentence of a finished scan, also in the log. -/
def showLine (line : Text) (form : Form) : Form :=
  { form with result := line, log := form.log ++ line ++ "\n" }

/-- Shows a fault in the log and in an error window; one that is open is deleted first. -/
def showFault (fault : Fault) (form : Form) : Form :=
  { form with
    log := form.log ++ "Error: " ++ fault.message ++ "\n"
    error := some ("An error occurred:\n" ++ fault.message)
    everFailed := true
    deleted := if form.error.isSome then form.deleted + 1 else form.deleted }

/-- Orders the error window to be deleted, if there has been one. The order is counted even if the
window is gone. -/
def close (form : Form) : Form :=
  if form.everFailed then { form with error := none, deleted := form.deleted + 1 } else form

end Form

/-! ## Looks -/

/-- The pieces of the window. -/
inductive Piece where
  | viewport (title : Text)
  | window (label : Text)
  | words (words : Text)
  | choice (field : Field)
  | input (field : Field)
  | button (button : Button)
  | separator
deriving DecidableEq, Repr

/-- The pieces of the window from top to bottom. The result stands where the last words are. -/
def layout : List Piece :=
  [.viewport "charcount",
   .window "Character counter",
   .words "Profile:",
   .choice .profile,
   .words "Character to count (l, x6C or #108):",
   .input .target,
   .words "String to scan:",
   .input .text,
   .button .load,
   .separator,
   .words "Result:",
   .words [],
   .input .log,
   .button .count]

end CharTally.Window
