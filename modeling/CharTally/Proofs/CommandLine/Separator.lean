import CharTally.Proofs.CommandLine.Count
import CharTally.Proofs.Window.Literals

/-!
# Operands behind the separator

Behind two hyphens every argument is a word, whatever it looks like, so a target and a text may
begin with a hyphen there. Only a text that is two hyphens itself is taken for one more separator:
it vanishes, and the target is counted in the text of the profile (`parse_separated`,
`count_behind_separator`).
-/

namespace CharTally.CommandLine

variable {usual : Settings.Source} {document : Settings.Document} {profile : Settings.Profile}
  {literal text : Text} {target : CodePoint} {workspace : Workspace}

/-- A count with its operands behind the separator. -/
def separated (literal text : Text) : List Text :=
  [Command.count.word, Token.separatorMark, literal, text]

/-- Behind the separator only a separator is not taken for the text. -/
theorem parse_separated (literal text : Text) :
    Request.parse (separated literal text) =
      .ok (.count literal (if text = Token.separatorMark then none else some text) {}) := by
  have read : Command.count.read [Token.separatorMark, literal, text] =
      .ok (Reading.word text { operands := .target literal }) := rfl
  rw [separated, parse_cons, Command.parse, read, Reading.word, Operands.word]
  by_cases separates : text = Token.separatorMark
  · rw [if_pos separates, if_pos separates]
    rfl
  · rw [if_neg separates, if_neg separates]
    rfl

/-- **A text behind the separator is counted in as it is given, unless it is the separator.** Let
the usual settings be loaded and have the usual profile, let the literal be read as a target, and
let the text be ASCII. The program changes no file. If the stream takes the line, the program ends
with the status 0, writes no error and prints the sentence of a scan of the text, even if the text
begins with a hyphen or is empty. If the stream refuses the line, the program ends with the crash of
the stream. If the text is two hyphens, the text of the profile is scanned in its place. Only a text
of two to the power of 63 characters or more, which no memory holds, is left out. -/
theorem count_behind_separator
    (loaded : Settings.load workspace.files usual none = .ok document)
    (found : document.find? Settings.usualProfile = some profile)
    (parsed : Target.parse literal = .ok target) (ascii : text.isAscii = true) :
    let scanned := if text = Token.separatorMark then profile.text else text
    let ran := run (separated literal text) usual workspace
    let line := Run.sentence target scanned document.wording
    ¬ Run.IsHuge scanned →
      (workspace.stream.Takes [] line → ran.1 = { ending := .ok 0, output := line ++ "\n" }) ∧
        (¬ workspace.stream.Takes [] line →
          ∃ crash, workspace.stream.Refuses crash ∧ ran.1.ending = .error crash) ∧
        ran.2.files = workspace.files := by
  intro scanned ran line small
  have given : (if text = Token.separatorMark then none else some text).getD profile.text =
      scanned := apply_ite (Option.getD · profile.text) _ none (some text)
  have areAscii : scanned.isAscii = true := by
    dsimp only [scanned]
    split
    · exact (Settings.fit_of_loaded loaded found).1
    · exact ascii
  have begins : Settings.load (fresh workspace).files (({} : Options).source usual) none =
      .ok document := loaded
  have scans := @run_count_of_runtime usual document profile (fresh workspace) {}
    rfl rfl begins found literal (if text = Token.separatorMark then none else some text)
  rw [parsed, given] at scans
  exact run_of_print (parse_separated literal text)
    (scans.trans (count_prints areAscii small target document.wording _ _))

/-- With the bundled settings, a text that looks like a switch is counted in, and two hyphens are
not. -/
theorem count_behind_separator_on_hyphens :
    let counted (text : Text) := (run (separated "d" text) .bundled Window.bare).1
    counted "--help=d" =
        { ending := .ok 0,
          output := "1 occurrences of the letter 'd' in the string --help=d\n" } ∧
      counted "--" =
        { ending := .ok 0,
          output := "3 occurrences of the letter 'd' in the string load rel address\n" } := by
  intro counted
  have found : Window.usualDocument.find? Settings.usualProfile =
      some ⟨"Classic count_chars literals (target x64)", 'd', "load rel address"⟩ := by decide
  have parsed : Target.parse "d" = .ok 'd' := by decide +kernel
  have tells (text : Text) (ascii : text.isAscii = true) :=
    count_behind_separator Window.loaded_usual found parsed ascii
  have small : ∀ text ∈ (["--help=d", "load rel address"] : List Text), ¬ Run.IsHuge text := by
    unfold Run.IsHuge
    decide
  have takes (line : Text) : Window.bare.stream.Takes [] line := Stream.takes_of_memory [] line
  obtain ⟨looksLikeSwitch, _⟩ := tells "--help=d" (by decide) (small _ (by decide))
  obtain ⟨separates, _⟩ := tells "--" (by decide) (small _ (by decide))
  exact ⟨looksLikeSwitch (takes _), separates (takes _)⟩

/-- So two hyphens are a text that is not counted in as it is given. -/
theorem not_count_behind_separator :
    ¬ ∀ (literal text : Text) (target : CodePoint) (document : Settings.Document)
        (profile : Settings.Profile) (usual : Settings.Source) (workspace : Workspace),
      Settings.load workspace.files usual none = .ok document →
      document.find? Settings.usualProfile = some profile →
      Target.parse literal = .ok target → text.isAscii = true → ¬ Run.IsHuge text →
      workspace.stream.Takes [] (Run.sentence target text document.wording) →
      (run (separated literal text) usual workspace).1 =
        { ending := .ok 0,
          output := Run.sentence target text document.wording ++ "\n" } := by
  intro always
  have small : ¬ Run.IsHuge Token.separatorMark := by
    rw [Run.IsHuge]
    decide
  have told := always "d" Token.separatorMark 'd' Window.usualDocument _ .bundled Window.bare
    Window.loaded_usual rfl (by decide +kernel) (by decide) small (Stream.takes_of_memory _ _)
  have output := congrArg Outcome.output told
  exact absurd output (by decide +kernel)

end CharTally.CommandLine
