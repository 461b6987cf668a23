import CharTally.Proofs.Window.Agreement
import CharTally.Proofs.Window.Story

/-!
# The window when it opens

The window opens with three things that should be of one profile: the names to choose from,
the name that is chosen, and the literals in the fields. The literals fall back on the first
of the names where the usual name is missing; the chosen name does not. So the window is
ready to count exactly when the settings have a profile of the usual name
(`first_form_ready_with_usual`).
-/

namespace CharTally.Window

variable {source : Settings.Source} {workspace : Workspace} {document : Settings.Document}
  {files : Files} {form : Form} {name : Text} {profile : Settings.Profile}

/-- The names to choose from are those of the profiles. -/
theorem mem_choices : name ∈ choices document ↔ (document.find? name).isSome = true := by
  rw [choices, List.mem_mergeSort]
  exact Settings.isSome_lookup.symm

/-- Loaded settings have a first name to choose, and a profile of it. -/
theorem exists_first_choice (opened : opening files source = .ok document) :
    ∃ name profile, (choices document).head? = some name ∧
      document.find? name = some profile := by
  obtain ⟨_, some_, _, _⟩ := Settings.normal_of_loaded opened
  cases listed : choices document with
  | nil =>
    have none_ : (choices document).length = 0 := by rw [listed, List.length_nil]
    rw [choices, List.length_mergeSort, List.length_map] at none_
    exact absurd (List.eq_nil_of_length_eq_zero none_) some_
  | cons name rest =>
    have among : name ∈ choices document := by
      rw [listed]
      exact List.mem_cons_self
    obtain ⟨profile, found⟩ := Option.isSome_iff_exists.mp (mem_choices.mp among)
    exact ⟨name, profile, rfl, found⟩

/-- The literals of the profile that is shown first stand in their fields. -/
theorem literals_firstForm (first : firstProfile? document = some profile) :
    (firstForm document).target = [profile.target] ∧ (firstForm document).text = profile.text := by
  rw [firstForm, first]
  exact ⟨rfl, rfl⟩

/-- A click that counts under an unknown name tells that it is not found. -/
theorem click_count_of_unknown
    (loaded : Settings.load workspace.files source none = .ok document)
    (missing : document.find? form.profile = none) (named : form.profile ≠ []) :
    click source workspace form .count =
      .ok (form.showFault (.settings source (.unknownProfile form.profile))) := by
  have refused : scan source form workspace =
      .error (.reported (.settings source (.unknownProfile form.profile))) workspace := by
    rw [scan, bind_of_ok (rfl : (get : Job Workspace) workspace = _),
      Settings.load_of_missing loaded missing named]
    rfl
  have told : line source form workspace =
      .error (.reported (.settings source (.unknownProfile form.profile))) := by
    rw [line, refused]
  rw [click, told]
  rfl

/-- A run of a profile without a log and a ledger reports the sentence of its scan, if the stream
takes it where it is printed. -/
theorem exists_run_of_loaded (loaded : Settings.load workspace.files source none = .ok document)
    (found : document.find? name = some profile) (small : ¬ Run.IsHuge profile.text)
    {reporter : Reporter}
    (heard : reporter = .print → workspace.stream.Takes workspace.printed
      (Run.sentence profile.target profile.text document.wording)) :
    ∃ report after, Run.profile name source { reporter } workspace = .ok report after ∧
      report.line? = some (Run.sentence profile.target profile.text document.wording) := by
  obtain ⟨ascii, _⟩ := Settings.fit_of_loaded loaded found
  have line : (Run.reportOf profile.target profile.text document.wording).line? =
      some (Run.sentence profile.target profile.text document.wording) :=
    Run.line?_reportOf ascii small
  obtain ⟨after, ran, _⟩ := Run.emit_of_line line heard
  refine ⟨_, after, ?_, line⟩
  rw [Run.profile_of_loaded _ (Settings.loadRuntime_of_loaded loaded found),
    Run.count_of_isAscii ascii]
  change (reporter.emit _ >>= fun _ => pure _) workspace = _
  exact bind_eq_ok.mpr ⟨(), after, ran, rfl⟩

/-- **The window opens ready to count with the usual profile.** If the settings it is opened with
have a profile of the usual name, then this name is chosen and is among the names to choose from,
the fields hold the literals of its profile, and a click that counts tells no fault and shows the
sentence that a run of the profile reports, to a list or on a stream that takes it. If they have
none, the usual name is chosen all the same: it is not among the names, the fields hold the literals
of the first of the names, and a click that counts tells that the usual name is not found. -/
theorem first_form_ready_with_usual (opened : opening workspace.files source = .ok document) :
    let form := firstForm document
    (∀ name, name ∈ choices document ↔ (document.find? name).isSome = true) ∧
      form.error = none ∧
      (∀ profile, document.find? Settings.usualProfile = some profile →
        form.profile ∈ choices document ∧ document.find? form.profile = some profile ∧
          form.target = [profile.target] ∧ form.text = profile.text ∧
          (¬ Run.IsHuge profile.text →
            ∃ line, click source workspace form .count = .ok (form.showLine line) ∧
              ∀ reporter,
                (reporter = .print → workspace.stream.Takes workspace.printed line) →
                ∃ report after,
                  Run.profile form.profile source { reporter } workspace = .ok report after ∧
                    report.line? = some line)) ∧
      (document.find? Settings.usualProfile = none →
        form.profile ∉ choices document ∧
          (∃ name profile, (choices document).head? = some name ∧
            document.find? name = some profile ∧
            form.target = [profile.target] ∧ form.text = profile.text) ∧
          click source workspace form .count =
            .ok (form.showFault (.settings source (.unknownProfile form.profile)))) := by
  intro form
  have chosen : form.profile = Settings.usualProfile := profile_firstForm document
  refine ⟨fun name => mem_choices, (error_firstForm document).1, ?_, ?_⟩
  · intro profile found
    have first : firstProfile? document = some profile := by rw [firstProfile?, found]
    obtain ⟨target, text⟩ := literals_firstForm first
    rw [← chosen] at found
    refine ⟨?_, found, target, text, ?_⟩
    · rw [mem_choices, found]
      rfl
    · intro small
      exact ⟨_, click_count opened found small target text,
        fun _ => exists_run_of_loaded opened found small⟩
  · intro missing
    obtain ⟨name, profile, head, found⟩ := exists_first_choice opened
    have first : firstProfile? document = some profile := by
      rw [firstProfile?, missing]
      dsimp only
      rw [head, Option.bind_some, found]
    obtain ⟨target, text⟩ := literals_firstForm first
    rw [← chosen] at missing
    refine ⟨?_, ⟨name, profile, head, found, target, text⟩, ?_⟩
    · rw [mem_choices, missing]
      exact Bool.false_ne_true
    · apply click_count_of_unknown opened missing
      rw [chosen]
      decide

/-- Settings without a profile of the usual name. -/
def unusual : Workspace where
  files := { entries := [([['c']], .document (Utf8.encode
    ("\x7b\"version\": 1, \"global\": \x7b\x7d, \"profiles\": \x7b\"a\": \x7b" ++
      "\"description\": \"b\", \"target\": \"d\", \"string\": \"dad\"\x7d\x7d\x7d")))] }
  now := .last

/-- The document that these settings are. -/
def unusualDocument : Settings.Document :=
  ⟨.file (.ofText "c"), 1, {}, [("a", ⟨"b", 'd', "dad"⟩)]⟩

theorem loaded_unusual :
    opening unusual.files (.file (.ofText "c")) = .ok unusualDocument := by
  decide +kernel

/-- The bundled settings are ready to count, and settings without the usual name are not. -/
theorem first_form_ready_with_usual_bundled :
    (∃ line, click .bundled bare (firstForm usualDocument) .count =
        .ok ((firstForm usualDocument).showLine line)) ∧
      click (.file (.ofText "c")) unusual (firstForm unusualDocument) .count =
        .ok ((firstForm unusualDocument).showFault
          (.settings (.file (.ofText "c"))
            (.unknownProfile (firstForm unusualDocument).profile))) := by
  obtain ⟨_, _, ready, _⟩ := first_form_ready_with_usual loaded_usual
  obtain ⟨_, _, _, unready⟩ := first_form_ready_with_usual loaded_unusual
  have small : ¬ Run.IsHuge "load rel address" := by
    rw [Run.IsHuge]
    decide
  obtain ⟨_, _, _, _, counts⟩ :=
    ready ⟨"Classic count_chars literals (target x64)", 'd', "load rel address"⟩ (by decide)
  obtain ⟨line, shown, _⟩ := counts small
  obtain ⟨_, _, told⟩ := unready (by decide)
  exact ⟨⟨line, shown⟩, told⟩

/-- A window can open with a name that is not among those to choose from. -/
theorem first_form_of_unusual_unready :
    ¬ ∀ (files : Files) (source : Settings.Source) (document : Settings.Document),
      opening files source = .ok document → (firstForm document).profile ∈ choices document := by
  intro ready
  have among := ready unusual.files (.file (.ofText "c")) unusualDocument loaded_unusual
  rw [profile_firstForm, mem_choices] at among
  exact absurd among (by decide)

end CharTally.Window
