import CharTally.Proofs.Failure
import CharTally.Proofs.Run.Failure
import CharTally.Proofs.Settings.Profile
import CharTally.Window

/-!
# Loading the literals of a profile

A profile is looked up by those who load it, by those who run it, and by the button that
shows its literals in the fields of the window. The three lookups are one
(`Run.profile_of_unloaded`, `namedProfile_eq`): each leaves the check of the name to the
loading of the settings and then takes the profile for granted. Where the check refuses a
name, all three tell the same fault (`Settings.loadRuntime_of_unknown`). The check passes
over the empty name, and where no profile has it, all three crash
(`Settings.loadRuntime_of_empty`).
-/

namespace CharTally.Window

variable {source : Settings.Source} {workspace : Workspace} {document : Settings.Document}
  {name : Text} {state : State}

/-! ## What is seen -/

/-- The window finds the profile that is loaded under the name in its form. -/
theorem namedProfile_eq (files : Files) (source : Settings.Source) (form : Form) :
    namedProfile files source form =
      Settings.Runtime.profile <$> Settings.loadRuntime files source (some form.profile) := by
  simp only [namedProfile, Settings.loadRuntime, bind, Except.bind, Option.bind_some]
  cases Settings.load files source (some form.profile) with
  | error failure => rfl
  | ok document =>
    dsimp only
    cases document.find? form.profile with
    | some profile => rfl
    | none => rfl

/-- Loading literals shows those of the profile that the form names. -/
theorem click_load {profile : Settings.Profile} {form : Form}
    (loaded : Settings.load workspace.files source none = .ok document)
    (found : document.find? form.profile = some profile) :
    click source workspace form .load =
      .ok { form with target := [profile.target], text := profile.text } := by
  rw [click, namedProfile_eq, Settings.loadRuntime_of_loaded loaded found]
  rfl

/-- A profile that cannot be loaded for a fault is shown as that fault. -/
theorem next_of_reported {fault : Fault}
    (unloaded : Settings.loadRuntime workspace.files source (some state.form.profile) =
      .error (.reported fault)) :
    state.next source workspace (.click .load) = { form := state.form.showFault fault } := by
  rw [State.next, click, namedProfile_eq, unloaded]
  rfl

/-- A profile that cannot be loaded for a crash is not shown at all. -/
theorem next_of_crash {crash : Crash}
    (unloaded : Settings.loadRuntime workspace.files source (some state.form.profile) =
      .error (.crash crash)) :
    state.next source workspace (.click .load) = { form := state.form, crash := some crash } := by
  rw [State.next, click, namedProfile_eq, unloaded]
  rfl

/-- The line that the log of the window gains when a profile is not found. -/
def unknownLine (source : Settings.Source) (name : Text) : Text :=
  "Error: [CONFIG_ERROR] Profile '" ++ name ++ "' not found in " ++ source.label ++ "\n"

theorem log_showFault_unknownProfile (source : Settings.Source) (name : Text) (form : Form) :
    (form.showFault (.settings source (.unknownProfile name))).log =
      form.log ++ unknownLine source name := by
  have begins : ("Error: [CONFIG_ERROR] Profile '" : Text) =
      "Error: " ++ "[CONFIG_ERROR] Profile '" := by decide
  have shows : (form.showFault (.settings source (.unknownProfile name))).log =
      form.log ++ "Error: " ++
        Fault.message (.settings source (.unknownProfile name)) ++ "\n" := rfl
  rw [shows, Fault.message_unknownProfile]
  unfold unknownLine
  rw [begins]
  simp only [List.append_assoc]

/-- **Unknown names are told, except the empty one.** Let the settings be loaded. For a name that
they have, the profile of that name and their wording are loaded, and the window shows the literals
of the profile. For any other name that is not empty, those who load it and those who run it are
told that it is not found and change nothing, and the window says so in its log and leaves the
fields for the literals as they were. The empty name crashes all three, and the window says
nothing. -/
theorem unknown_names_told_unless_empty
    (loaded : Settings.load workspace.files source none = .ok document) (sinks : Sinks)
    (asked : state.form.profile = name) :
    let runtime := Settings.loadRuntime workspace.files source (some name)
    let ran := Run.profile name source sinks workspace
    let seen := state.next source workspace (.click .load)
    (∀ profile, document.find? name = some profile →
        runtime = .ok ⟨document.wording, profile⟩ ∧
          seen = { form := { state.form with
            target := [profile.target], text := profile.text } }) ∧
      (document.find? name = none → name ≠ [] →
        ∃ fault : Fault, fault.code = .config ∧
          runtime = .error (.reported fault) ∧ ran = .error (.reported fault) workspace ∧
          seen.crash = none ∧ seen.form.log = state.form.log ++ unknownLine source name ∧
          seen.form.target = state.form.target ∧ seen.form.text = state.form.text) ∧
      (document.find? name = none → name = [] →
        ∃ crash : Crash,
          runtime = .error (.crash crash) ∧ ran = .error (.crash crash) workspace ∧
          seen = { form := state.form, crash := some crash }) := by
  subst asked
  intro runtime ran seen
  refine ⟨?_, ?_, ?_⟩
  · intro profile found
    refine ⟨Settings.loadRuntime_of_loaded loaded found, ?_⟩
    unfold seen
    rw [State.next, click_load loaded found]
  · intro missing named
    have unloaded := Settings.loadRuntime_of_unknown loaded missing named
    have shows : seen = _ := next_of_reported unloaded
    refine ⟨_, rfl, unloaded, Run.profile_of_unloaded sinks unloaded, ?_⟩
    rw [shows]
    exact ⟨rfl, log_showFault_unknownProfile source state.form.profile state.form, rfl, rfl⟩
  · intro missing unnamed
    have unloaded : runtime = .error (.crash (.noSuchProfile (some []))) := by
      rw [unnamed] at missing
      unfold runtime
      rw [unnamed]
      exact Settings.loadRuntime_of_empty loaded missing
    exact ⟨_, unloaded, Run.profile_of_unloaded sinks unloaded, next_of_crash unloaded⟩

/-- A workspace without files. -/
def bare : Workspace := { files := {}, now := .last }

/-- The bundled settings, loaded. -/
def usualDocument : Settings.Document where
  source := .bundled
  version := 1
  wording := {}
  profiles :=
    [("classic", ⟨"Classic count_chars literals (target x64)", 'd', "load rel address"⟩),
     ("letter_l", ⟨"Count the letter l in the classic string", 'l', "load rel address"⟩)]

theorem loaded_usual : Settings.load bare.files .bundled none = .ok usualDocument := by
  decide +kernel

/-- A window with something in every field and a name to load. -/
def asking (name : Text) : State :=
  { form := { profile := name, target := ['t'], text := "s", log := "a\n" } }

/-- The bundled settings have one of these names, lack another, and lack the empty one. -/
theorem unknown_names_told_unless_empty_usual :
    let sinks : Sinks := { reporter := .print, ledger := some ⟨[], [['h']]⟩ }
    Settings.loadRuntime bare.files .bundled (some "letter_l") =
        .ok ⟨{}, "Count the letter l in the classic string", 'l', "load rel address"⟩ ∧
      (∃ fault : Fault, fault.code = .config ∧
        Run.profile "z" .bundled sinks bare = .error (.reported fault) bare) ∧
      ((asking "z").next .bundled bare (.click .load)).form.log =
        "a\nError: [CONFIG_ERROR] Profile 'z' not found in <DEFAULTS>\n" ∧
      (∃ crash : Crash, Run.profile [] .bundled sinks bare = .error (.crash crash) bare ∧
        (asking []).next .bundled bare (.click .load) =
          { form := (asking []).form, crash := some crash }) := by
  intro sinks
  have letter : (asking "letter_l").form.profile = "letter_l" := rfl
  have other : (asking "z").form.profile = "z" := rfl
  have empty : (asking []).form.profile = [] := rfl
  rcases unknown_names_told_unless_empty loaded_usual sinks letter with ⟨has, _, _⟩
  rcases unknown_names_told_unless_empty loaded_usual sinks other with ⟨_, lacks, _⟩
  rcases unknown_names_told_unless_empty loaded_usual sinks empty with ⟨_, _, crashes⟩
  rcases lacks (by decide) (by decide) with ⟨fault, code, _, ran, _, log, _⟩
  rcases crashes (by decide) rfl with ⟨crash, _, crashed, seen⟩
  refine ⟨(has _ (by decide)).1, ⟨fault, code, ran⟩, ?_, ⟨crash, crashed, seen⟩⟩
  rw [log]
  decide

/-- The empty name is unknown to the bundled settings, and those who load it are told nothing. -/
theorem empty_name_untold :
    ¬ ∀ (files : Files) (source : Settings.Source) (document : Settings.Document) (name : Text),
      Settings.load files source none = .ok document → document.find? name = none →
        ∃ fault : Fault, fault.code = .config ∧
          Settings.loadRuntime files source (some name) = .error (.reported fault) := by
  intro told
  rcases told bare.files .bundled usualDocument [] loaded_usual (by decide) with ⟨_, _, reported⟩
  rw [Settings.loadRuntime_of_empty loaded_usual (by decide)] at reported
  cases reported

end CharTally.Window
