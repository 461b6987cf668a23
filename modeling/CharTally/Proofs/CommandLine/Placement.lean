import CharTally.Proofs.CommandLine.Spelling

/-!
# Where the switches of a count may stand

A count has two operands, and they are taken from one run of words: a switch behind the target
closes them, and a text that follows it is not taken any more. So switches may stand in front of
the target and behind the text, where only the last values count; and no switch may stand between
the two (`switches_around_operands`).
-/

namespace CharTally.CommandLine

variable {literal text : Text}

/-- A count with its target and its text, and with mentions of switches in front of the target,
between the two, and behind the text. -/
def placed (literal text : Text) (before between behind : List Mention) : List Text :=
  Command.count.word :: (before.flatMap (·.arguments) ++ ([literal] ++
    (between.flatMap (·.arguments) ++ ([text] ++ behind.flatMap (·.arguments)))))

/-- The pieces of a count are read one after another. -/
theorem read_placed (plain : literal.head? ≠ some '-') (plainText : text.head? ≠ some '-')
    (before between behind : List Mention) :
    Command.count.read (placed literal text before between behind).tail =
      .ok (((((Reading.taking { operands := .awaited } before).word literal).taking between).word
        text).taking behind) := by
  have scans : Command.count.Scans := Or.inr rfl
  have feeds := (feeds_mentions scans before).append ((feeds_word plain).append
    ((feeds_mentions scans between).append ((feeds_word plainText).append
      (feeds_mentions scans behind))))
  exact feeds.read

/-- The target is taken, as nothing has been begun in front of it. -/
theorem word_taking_before (literal : Text) (before : List Mention) :
    (Reading.taking { operands := .awaited } before).word literal =
      { options := .holding (lastValue before), operands := .target literal } := by
  have awaited : Operands.awaited.behind before = .awaited := ite_self _
  rw [Reading.taking, awaited, foldl_taking]
  rfl

/-- Mentions change the options that earlier mentions have left. -/
theorem foldl_holding (first second : List Mention) :
    second.foldl Options.taking (.holding (lastValue first)) =
      .holding (lastValue (first ++ second)) := by
  rw [← foldl_taking first, ← List.foldl_append, foldl_taking]

/-- With no switch in between, the text is taken behind the target. -/
theorem parse_placed_around (plain : literal.head? ≠ some '-')
    (plainText : text.head? ≠ some '-') (before behind : List Mention) :
    Request.parse (placed literal text before [] behind) =
      .ok (.count literal (some text) (.holding (lastValue (before ++ behind)))) := by
  have notMark : text ≠ Token.separatorMark := (Token.isWord_of_plain plainText).not_separator
  have both (options : Options) :
      (Reading.taking { options, operands := .target literal } []).word text =
        { options, operands := .both literal text } := by
    have still : (Operands.target literal).behind [] = .target literal := rfl
    have taken : (Operands.target literal).word text = (.both literal text, []) := if_neg notMark
    rw [Reading.taking, still, Reading.word, taken]
    rfl
  have read := read_placed plain plainText before [] behind
  rw [word_taking_before, both, Reading.taking, foldl_holding] at read
  have request (options : Options) :
      Command.count.request
        { options, operands := (Operands.both literal text).behind behind } =
        .ok (.count literal (some text) options) := by
    rw [Command.request, Operands.taken_behind]
    rfl
  rw [placed, List.tail_cons] at read
  rw [placed, parse_cons, Command.parse, read]
  simp only [bind, Except.bind, request]
  rfl

/-- With a switch in between, the target stands alone, and the text is left over. -/
theorem parse_placed_between (plain : literal.head? ≠ some '-')
    (plainText : text.head? ≠ some '-') (before behind : List Mention) {between : List Mention}
    (some_ : between ≠ []) :
    Request.parse (placed literal text before between behind) =
      .error (.refused none (.unrecognised [text])) := by
  have closed : (Operands.target literal).behind between = .closed (some (literal, none)) :=
    if_neg (mt List.isEmpty_iff.mp some_)
  have left (options : Options) :
      (Reading.taking { options, operands := .target literal } between).word text =
        { options := between.foldl Options.taking options
          operands := .closed (some (literal, none))
          extras := [text] } := by
    rw [Reading.taking, closed]
    rfl
  have read := read_placed plain plainText before between behind
  rw [word_taking_before, left, Reading.taking] at read
  have request (options : Options) :
      Command.count.request
        { options
          operands := (Operands.closed (some (literal, none))).behind behind
          extras := [text] } =
        .ok (.count literal none options) := by
    rw [Command.request, Operands.taken_behind]
    rfl
  rw [placed, List.tail_cons] at read
  rw [placed, parse_cons, Command.parse, read]
  simp only [bind, Except.bind, request]
  rfl

/-- **Where the switches of a count may stand.** Let the target and the text begin with no hyphen.
In front of the target and behind the text switches may stand in any number, and it does not matter
which of them stand where, as long as each has the same last value. A switch between the target and
the text has the text refused, whatever else is given: the usage and a word about the text that is
left over are written on the error stream, the status is 2, nothing is printed, and nothing is
changed. -/
theorem switches_around_operands (plain : literal.head? ≠ some '-')
    (plainText : text.head? ≠ some '-') (usual : Settings.Source) (workspace : Workspace) :
    (∀ before behind before' behind' : List Mention,
      lastValue (before ++ behind) = lastValue (before' ++ behind') →
        run (placed literal text before [] behind) usual workspace =
          run (placed literal text before' [] behind') usual workspace) ∧
      ∀ before between behind : List Mention, between ≠ [] →
        run (placed literal text before between behind) usual workspace =
          ({ ending := .ok 2, errors := Page.refusal none (.unrecognised [text]) }, workspace) := by
  constructor
  · intro before behind before' behind' same
    apply run_of_parse_eq
    rw [parse_placed_around plain plainText, parse_placed_around plain plainText, same]
  · intro before between behind some_
    rw [run, parse_placed_between plain plainText before behind some_]
    rfl

/-- The same profile in front of the target and behind the text, and then between them. -/
theorem switches_around_operands_classic :
    let ran (arguments : List Text) := run arguments .bundled Run.untouched
    ran ["count", "--profile", "classic", "d", "dad"] =
        ran ["count", "d", "dad", "--profile", "classic"] ∧
      (ran ["count", "d", "dad", "--profile", "classic"]).1.output =
        "2 occurrences of the letter 'd' in the string dad\n" ∧
      ran ["count", "d", "--profile", "classic", "dad"] =
        ({ ending := .ok 2, errors := Page.refusal none (.unrecognised ["dad"]) },
          Run.untouched) := by
  intro ran
  have plain : ("d" : Text).head? ≠ some '-' := by decide
  have plainText : ("dad" : Text).head? ≠ some '-' := by decide
  let classic : Mention :=
    ⟨.profile, "--profile", "classic", false, by decide, by decide, by decide⟩
  obtain ⟨around, between⟩ := switches_around_operands plain plainText .bundled Run.untouched
  exact ⟨around [classic] [] [] [classic] rfl, by decide +kernel,
    between [] [classic] [] (List.cons_ne_nil _ _)⟩

/-- It is not so that the same switches may stand anywhere: a profile that is named between a target
and a text keeps the text from being counted in. -/
theorem not_switches_anywhere :
    ¬ ∀ (literal text : Text) (before between behind before' between' behind' : List Mention),
      literal.head? ≠ some '-' → text.head? ≠ some '-' →
      (∀ mention ∈ before ++ between ++ behind,
        mention.arguments = [mention.which.name, mention.value]) →
      before ++ between ++ behind = before' ++ between' ++ behind' →
      ∀ workspace,
        run (placed literal text before between behind) .bundled workspace =
          run (placed literal text before' between' behind') .bundled workspace := by
  intro anywhere
  let classic : Mention :=
    ⟨.profile, "--profile", "classic", false, by decide, by decide, by decide⟩
  have same := anywhere "d" "dad" [] [classic] [] [classic] [] [] (by decide) (by decide)
    (by decide) rfl Run.untouched
  have endings := congrArg (fun ran => ran.1.output) same
  exact absurd endings (by decide +kernel)

end CharTally.CommandLine
