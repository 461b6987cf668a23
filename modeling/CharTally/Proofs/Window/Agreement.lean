import CharTally.Proofs.CommandLine.Count
import CharTally.Proofs.Window.Literals

/-!
# The window and the command line

The window scans what stands in its fields. When the literals of a profile are loaded into
them, the target that stands there is the character that was read from the settings; it is
read once more when the scan is asked for, and reads as itself. So the scan that follows is
the demo of the profile, whatever the form held before (`window_and_demo_agree`).
-/

namespace CharTally.Window

variable {source : Settings.Source} {workspace : Workspace} {document : Settings.Document}
  {name : Text} {profile : Settings.Profile} {form : Form}

/-- A click that counts the literals of a profile shows the sentence of the scan. -/
theorem click_count (loaded : Settings.load workspace.files source none = .ok document)
    (found : document.find? form.profile = some profile) (small : ¬ Run.IsHuge profile.text)
    (target : form.target = [profile.target]) (text : form.text = profile.text) :
    click source workspace form .count =
      .ok (form.showLine (Run.sentence profile.target profile.text document.wording)) := by
  rcases Settings.fit_of_loaded loaded found with ⟨ascii, parsed⟩
  obtain ⟨after, ran⟩ : ∃ after,
      Run.count [profile.target] profile.text document.wording
        { reporter := .keep, profile := some form.profile } Run.scanning workspace =
          .ok (Run.reportOf profile.target profile.text document.wording) after := by
    rw [Run.count_of_isAscii ascii]
    exact ⟨_, rfl⟩
  have scanned : scan source form workspace =
      .ok (Run.reportOf profile.target profile.text document.wording) after := by
    rw [scan, bind_of_ok (rfl : (get : Job Workspace) workspace = _),
      Settings.load_of_loaded loaded found]
    refine bind_eq_ok.mpr ⟨document, workspace, rfl, ?_⟩
    rw [target, text, parsed]
    exact ran
  have told : line source form workspace =
      .ok (Run.sentence profile.target profile.text document.wording) := by
    rw [line, scanned]
    dsimp only
    rw [Run.line?_reportOf ascii small]
  rw [click, told]
  rfl

end CharTally.Window
