import CharTally.CommandLine
import CharTally.Proofs.CommandLine.Arguments
import CharTally.Proofs.Run.Lead

/-!
# One request, many command lines

A `Mention` is one way to give a switch a value: under its name or any beginning of the name that
means no other switch, with the value behind an equals sign or as a word of its own. `Feeds` says
what a piece of a command line does to what has been read in front of it, whatever stands behind
it. Words fill the operands (`feeds_words`), mentions change the options and close the operands
that have been begun (`feeds_mentions`), and pieces do one after another what each of them does
(`Feeds.append`).

Of several mentions of a switch the last one counts (`foldl_taking`). So what a command line asks
for depends only on the last values and on the words, as long as the mentions stand together in
front of the words or behind them (`switches_as_mentioned`).
-/

namespace CharTally.CommandLine

variable {command : Command} {words : List Text}

/-! ## Mentions -/

/-- The switches with values that the commands have that scan, in the order of their usage. -/
def scanSwitches : List Switch := [.profile, .config, .scanLog, .ledger]

/-- A command that scans. -/
def Command.Scans (command : Command) : Prop := command = .demo ∨ command = .count

theorem Command.Scans.switches (scans : command.Scans) :
    command.switches = .help :: scanSwitches := by
  rcases scans with same | same
  · rw [same]
    rfl
  · rw [same]
    rfl

/-- No operand has been begun before anything is read. -/
theorem Command.Scans.interrupt (scans : command.Scans) :
    command.operands.interrupt = command.operands := by
  rcases scans with same | same
  · rw [same]
    rfl
  · rw [same]
    rfl

/-- A switch that is given a value. It may be called by any beginning of its name that no other
switch has, and the value stands behind an equals sign or is a word that begins with no hyphen. -/
structure Mention where
  which : Switch
  typed : Text
  value : Text
  joined : Bool
  known : which ∈ scanSwitches
  only : ∀ other ∈ Switch.help :: scanSwitches, typed <+: other.name ↔ other = which
  plain : joined = false → value.head? ≠ some '-'

namespace Mention

/-- The arguments of a mention, as they are written. -/
def arguments (mention : Mention) : List Text :=
  if mention.joined then [mention.typed ++ scalar '=' :: mention.value]
  else [mention.typed, mention.value]

theorem typed_prefix (mention : Mention) : mention.typed <+: mention.which.name :=
  (mention.only _ (List.mem_cons_of_mem _ mention.known)).mpr rfl

theorem which_ne_help (mention : Mention) : mention.which ≠ .help := by
  intro same
  have known := mention.known
  rw [same] at known
  exact absurd known (by decide)

/-- Two hyphens alone begin every name, so at least a letter follows them. -/
theorem exists_letters (mention : Mention) :
    ∃ letters, mention.typed = scalar '-' :: '-' :: letters ∧ letters ≠ [] := by
  have hyphens : ∀ which : Switch, Token.separatorMark <+: which.name := by
    intro which
    cases which <;> decide
  have long : Token.separatorMark.length < mention.typed.length := by
    by_contra short
    have begins := List.prefix_of_prefix_length_le mention.typed_prefix (hyphens mention.which)
      (Nat.le_of_not_lt short)
    have help := mention.only .help List.mem_cons_self
    exact mention.which_ne_help (help.mp (begins.trans (hyphens .help))).symm
  obtain ⟨letters, shape⟩ := List.prefix_of_prefix_length_le (hyphens mention.which)
    mention.typed_prefix long.le
  refine ⟨letters, shape.symm, ?_⟩
  rintro rfl
  rw [List.append_nil] at shape
  rw [shape] at long
  exact Nat.lt_irrefl _ long

theorem not_equals_of_mem_typed (mention : Mention) :
    ∀ c ∈ mention.typed, decide (c ≠ '=') = true := by
  intro c member
  exact Token.not_equals_of_mem_name mention.which c (mention.typed_prefix.subset member)

/-- A mention means its own switch. -/
theorem matching_typed (mention : Mention) (scans : command.Scans) :
    Switch.matching command.switches mention.typed = [mention.which] := by
  have alone : ∀ which ∈ scanSwitches,
      (Switch.help :: scanSwitches).filter (fun other => decide (other = which)) = [which] := by
    decide
  rw [scans.switches, Switch.matching, ← alone _ mention.known]
  apply List.filter_congr
  intro other member
  rw [Bool.eq_iff_iff, List.isPrefixOf_iff_prefix, decide_eq_true_iff]
  exact mention.only other member

theorem ofArgument_joined (mention : Mention) (scans : command.Scans) :
    Token.ofArgument command.switches (mention.typed ++ scalar '=' :: mention.value) =
      .ok (.switch mention.which (some mention.value)) := by
  obtain ⟨letters, shape, _⟩ := mention.exists_letters
  have equals := mention.not_equals_of_mem_typed
  have meant := mention.matching_typed scans
  generalize mention.typed = typed at shape equals meant
  have front : (typed ++ scalar '=' :: mention.value).takeWhile (· ≠ scalar '=') = typed := by
    rw [List.takeWhile_append_of_pos equals, List.takeWhile_cons_of_neg (by simp),
      List.append_nil]
  have behind : Token.valueIn (typed ++ scalar '=' :: mention.value) = some mention.value := by
    rw [Token.valueIn, List.dropWhile_append_of_pos equals, List.dropWhile_cons_of_neg (by simp)]
  subst shape
  rw [List.cons_append, List.cons_append] at front behind ⊢
  rw [Token.ofArgument, front, meant, behind]

theorem ofArgument_typed (mention : Mention) (scans : command.Scans) :
    Token.ofArgument command.switches mention.typed = .ok (.switch mention.which none) := by
  obtain ⟨letters, shape, _⟩ := mention.exists_letters
  have equals := mention.not_equals_of_mem_typed
  have meant := mention.matching_typed scans
  generalize mention.typed = typed at shape equals meant
  have front : typed.takeWhile (· ≠ scalar '=') = typed := List.takeWhile_eq_self_iff.mpr equals
  have behind : Token.valueIn typed = none := by
    rw [Token.valueIn, List.dropWhile_eq_nil_iff.mpr equals]
  subst shape
  rw [Token.ofArgument, front, meant, behind]

/-- A switch in full, with a value behind an equals sign. -/
def full (which : Switch) (known : which ∈ scanSwitches) (value : Text) : Mention where
  which
  typed := which.name
  value
  joined := true
  known
  only := by
    revert which
    decide
  plain := nofun

end Mention

/-! ## Pieces of a command line -/

/-- What a piece of a command line does to what has been read in front of it, whatever stands
behind it. -/
def Feeds (command : Command) (piece : List Text) (step : Reading → Reading) : Prop :=
  ∃ tokens,
    (∀ rest others, Token.ofArguments command.switches rest = .ok others →
      Token.ofArguments command.switches (piece ++ rest) = .ok (tokens ++ others)) ∧
    ∀ reading others,
      Reading.feed command reading (tokens ++ others) = Reading.feed command (step reading) others

namespace Feeds

variable {piece more : List Text} {step next : Reading → Reading}

theorem nil : Feeds command [] id := ⟨[], fun _ _ => id, fun _ _ => rfl⟩

/-- Pieces do one after another what each of them does. -/
theorem append (first : Feeds command piece step) (second : Feeds command more next) :
    Feeds command (piece ++ more) fun reading => next (step reading) := by
  obtain ⟨tokens, sorts, feeds⟩ := first
  obtain ⟨tokens', sorts', feeds'⟩ := second
  refine ⟨tokens ++ tokens', ?_, ?_⟩
  · intro rest others sorted
    rw [List.append_assoc, List.append_assoc]
    exact sorts _ _ (sorts' rest others sorted)
  · intro reading others
    rw [List.append_assoc, feeds, feeds']

theorem flatMap {α : Type} {pieces : α → List Text} {steps : Reading → α → Reading}
    {items : List α}
    (each : ∀ item ∈ items, Feeds command (pieces item) fun reading => steps reading item) :
    Feeds command (items.flatMap pieces) fun reading => items.foldl steps reading := by
  induction items with
  | nil => exact nil
  | cons item rest ih =>
    obtain ⟨first, others⟩ := List.forall_mem_cons.mp each
    exact first.append (ih others)

/-- A whole command line is read as its pieces say. -/
theorem read (feeds : Feeds command piece step) :
    command.read piece = .ok (step { operands := command.operands }) := by
  obtain ⟨tokens, sorts, fed⟩ := feeds
  have sorted := sorts [] [] rfl
  rw [List.append_nil, List.append_nil] at sorted
  have all := fed { operands := command.operands } []
  rw [List.append_nil] at all
  rw [Command.read, sorted]
  exact all

end Feeds

/-! ### Words -/

/-- The operands after some words, and the words that they do not take. -/
def Operands.fill (operands : Operands) : List Text → Operands × List Text
  | [] => (operands, [])
  | w :: rest =>
    let (next, left) := operands.word w
    let (last, more) := next.fill rest
    (last, left ++ more)

/-- A reading after some words. -/
def Reading.fill (reading : Reading) (words : List Text) : Reading where
  options := reading.options
  operands := (reading.operands.fill words).1
  extras := reading.extras ++ (reading.operands.fill words).2

theorem foldl_word (reading : Reading) (words : List Text) :
    words.foldl (fun reading w => reading.word w) reading = reading.fill words := by
  induction words generalizing reading with
  | nil =>
    rw [Reading.fill, Operands.fill, List.append_nil]
    rfl
  | cons w rest ih =>
    rw [List.foldl_cons, ih, Reading.fill, Reading.fill, Operands.fill, Reading.word]
    simp only [List.append_assoc]

theorem feeds_word {w : Text} (plain : w.head? ≠ some '-') :
    Feeds command [w] fun reading => reading.word w := by
  refine ⟨[.word w], ?_, ?_⟩
  · intro rest others sorted
    exact Token.ofArguments_word (Token.isWord_of_plain plain) sorted
  · intro reading others
    rw [List.singleton_append, Reading.feed]

/-- Words fill the operands, and what they do not take is set aside. -/
theorem feeds_words (plain : ∀ w ∈ words, w.head? ≠ some '-') :
    Feeds command words fun reading => reading.fill words := by
  have each : Feeds command (words.flatMap fun w => [w])
      fun reading => words.foldl (fun reading w => reading.word w) reading :=
    .flatMap fun w member => feeds_word (plain w member)
  rw [List.flatMap_singleton'] at each
  simp only [foldl_word] at each
  exact each

/-! ### Mentions -/

/-- Options after a mention. -/
def Options.taking (options : Options) (mention : Mention) : Options :=
  (options.give mention.which mention.value).toOption.getD options

/-- The switches of scans refuse no value. -/
theorem give_mention (options : Options) (mention : Mention) :
    options.give mention.which mention.value = .ok (options.taking mention) := by
  have known := mention.known
  unfold Options.taking
  simp only [scanSwitches, List.mem_cons, List.not_mem_nil, or_false] at known
  rcases known with same | same | same | same
  · rw [same]
    rfl
  · rw [same]
    rfl
  · rw [same]
    rfl
  · rw [same]
    rfl

/-- Operands after mentions: a single one closes what has been begun. -/
def Operands.behind (operands : Operands) (mentions : List Mention) : Operands :=
  if mentions.isEmpty then operands else operands.interrupt

/-- A reading after mentions. -/
def Reading.taking (reading : Reading) (mentions : List Mention) : Reading where
  options := mentions.foldl Options.taking reading.options
  operands := reading.operands.behind mentions
  extras := reading.extras

theorem Operands.taken_behind (operands : Operands) (mentions : List Mention) :
    (operands.behind mentions).taken = operands.taken := by
  unfold behind
  split
  · rfl
  · exact operands.taken_interrupt

theorem Operands.interrupt_behind (operands : Operands) (mentions : List Mention) :
    operands.interrupt.behind mentions = operands.interrupt := by
  unfold behind
  split
  · rfl
  · cases operands <;> rfl

theorem foldl_taking_singleton (reading : Reading) (mentions : List Mention) :
    mentions.foldl (fun reading mention => reading.taking [mention]) reading =
      reading.taking mentions := by
  induction mentions generalizing reading with
  | nil => rfl
  | cons mention rest ih =>
    have once := reading.operands.interrupt_behind rest
    rw [List.foldl_cons, ih, Reading.taking, Reading.taking, Reading.taking, List.foldl_cons]
    exact congrArg (Reading.mk _ · _) once

theorem feeds_mention (scans : command.Scans) (mention : Mention) :
    Feeds command mention.arguments fun reading => reading.taking [mention] := by
  have given (reading : Reading) :
      reading.give mention.which mention.value = .ok (reading.taking [mention]) := by
    rw [Reading.give, give_mention]
    rfl
  obtain ⟨letters, shape, some_⟩ := mention.exists_letters
  have notMark : mention.typed ≠ Token.separatorMark := by
    rw [shape]
    intro same
    exact some_ (List.cons.inj (List.cons.inj same).2).2
  unfold Mention.arguments
  cases isJoined : mention.joined with
  | true =>
    have notMark' : mention.typed ++ scalar '=' :: mention.value ≠ Token.separatorMark := by
      rw [shape]
      intro same
      have none_ := (List.cons.inj (List.cons.inj same).2).2
      exact List.append_ne_nil_of_left_ne_nil some_ _ none_
    refine ⟨[.switch mention.which (some mention.value)], ?_, ?_⟩
    · intro rest others sorted
      rw [if_pos rfl, List.singleton_append, Token.ofArguments, if_neg notMark',
        mention.ofArgument_joined scans, sorted]
      rfl
    · intro reading others
      rw [List.singleton_append, Reading.feed, given]
  | false =>
    have isWord := Token.isWord_of_plain (mention.plain isJoined)
    refine ⟨[.switch mention.which none, .word mention.value], ?_, ?_⟩
    · intro rest others sorted
      rw [if_neg Bool.false_ne_true, List.cons_append, Token.ofArguments, if_neg notMark,
        mention.ofArgument_typed scans, List.singleton_append,
        Token.ofArguments_word isWord sorted]
      rfl
    · intro reading others
      rw [List.cons_append, List.singleton_append, Reading.feed, given]
      exact mention.which_ne_help

/-- Mentions change the options, and close the operands that have been begun. -/
theorem feeds_mentions (scans : command.Scans) (mentions : List Mention) :
    Feeds command (mentions.flatMap (·.arguments)) fun reading => reading.taking mentions := by
  have each : Feeds command (mentions.flatMap (·.arguments))
      fun reading => mentions.foldl (fun reading mention => reading.taking [mention]) reading :=
    .flatMap fun mention _ => feeds_mention scans mention
  simp only [foldl_taking_singleton] at each
  exact each

/-! ## The last values -/

/-- The value of the last mention of a switch. -/
def lastValue (mentions : List Mention) (which : Switch) : Option Text :=
  (mentions.reverse.find? fun mention => mention.which = which).map (·.value)

theorem lastValue_append (first second : List Mention) (which : Switch) :
    lastValue (first ++ second) which =
      (lastValue second which).or (lastValue first which) := by
  rw [lastValue, List.reverse_append, List.find?_append, Option.map_or]
  rfl

theorem lastValue_singleton (mention : Mention) (which : Switch) :
    lastValue [mention] which = if mention.which = which then some mention.value else none := by
  rw [lastValue, List.reverse_singleton, List.find?_singleton]
  by_cases same : mention.which = which
  · simp [same]
  · simp [same]

/-- The options of a scan whose switches have values. -/
def Options.holding (values : Switch → Option Text) : Options where
  profile := (values .profile).getD Settings.usualProfile
  config := values .config
  scanLog := values .scanLog
  ledger := values .ledger

/-- A mention gives its switch its value, and leaves the others theirs. -/
theorem taking_holding (values : Switch → Option Text) (mention : Mention) :
    (Options.holding values).taking mention =
      .holding fun which => (lastValue [mention] which).or (values which) := by
  have known := mention.known
  unfold Options.taking
  simp only [lastValue_singleton]
  simp only [scanSwitches, List.mem_cons, List.not_mem_nil, or_false] at known
  rcases known with same | same | same | same
  · rw [same]
    rfl
  · rw [same]
    rfl
  · rw [same]
    rfl
  · rw [same]
    rfl

/-- Of several mentions of a switch the last one counts. -/
theorem foldl_taking (mentions : List Mention) :
    mentions.foldl Options.taking {} = .holding (lastValue mentions) := by
  induction mentions using List.reverseRecOn with
  | nil => rfl
  | append_singleton mentions mention ih =>
    have last : lastValue (mentions ++ [mention]) =
        fun which => (lastValue [mention] which).or (lastValue mentions which) :=
      funext (lastValue_append mentions [mention])
    rw [List.foldl_append, ih, List.foldl_cons, List.foldl_nil, taking_holding, last]

/-- The last mention of a switch, in full. -/
def lastInFull (mentions : List Mention) (which : Switch) (known : which ∈ scanSwitches) :
    List Mention :=
  ((lastValue mentions which).map (Mention.full which known)).toList

/-- The last mention of each switch, in full and in the order of the usage. -/
def settled (mentions : List Mention) : List Mention :=
  lastInFull mentions .profile (by decide) ++ lastInFull mentions .config (by decide) ++
    lastInFull mentions .scanLog (by decide) ++ lastInFull mentions .ledger (by decide)

/-- Each switch that is mentioned, once, in full, in the order of the usage, and with its last
value. -/
def canonical (mentions : List Mention) : List Text :=
  scanSwitches.filterMap fun which => (lastValue mentions which).map which.valued

theorem lastValue_lastInFull (mentions : List Mention) (which other : Switch)
    (known : which ∈ scanSwitches) :
    lastValue (lastInFull mentions which known) other =
      if which = other then lastValue mentions which else none := by
  unfold lastInFull
  cases lastValue mentions which with
  | none => simp [lastValue]
  | some value => simp [lastValue_singleton, Mention.full]

theorem lastValue_settled {which : Switch} (mentions : List Mention)
    (known : which ∈ scanSwitches) :
    lastValue (settled mentions) which = lastValue mentions which := by
  simp only [settled, lastValue_append, lastValue_lastInFull]
  simp only [scanSwitches, List.mem_cons, List.not_mem_nil, or_false] at known
  rcases known with same | same | same | same
  · simp [same]
  · simp [same]
  · simp [same]
  · simp [same]

theorem holding_settled (mentions : List Mention) :
    Options.holding (lastValue (settled mentions)) = .holding (lastValue mentions) := by
  unfold Options.holding
  rw [lastValue_settled mentions (by decide), lastValue_settled mentions (by decide),
    lastValue_settled mentions (by decide), lastValue_settled mentions (by decide)]

theorem flatMap_settled (mentions : List Mention) :
    (settled mentions).flatMap (·.arguments) = canonical mentions := by
  have alone (which : Switch) (known : which ∈ scanSwitches) :
      (lastInFull mentions which known).flatMap (·.arguments) =
        ((lastValue mentions which).map which.valued).toList := by
    unfold lastInFull
    cases lastValue mentions which <;> rfl
  simp only [settled, List.flatMap_append, alone]
  rw [canonical, List.filterMap_eq_flatMap_toList]
  simp only [scanSwitches, List.flatMap_cons, List.flatMap_nil, List.append_nil, List.append_assoc]

/-! ## What is asked for -/

/-- Readings from which the same is asked. -/
structure Reading.Alike (first second : Reading) : Prop where
  options : first.options = second.options
  taken : first.operands.taken = second.operands.taken
  extras : first.extras = second.extras

theorem parse_of_alike {first second : List Text} {one other : Reading}
    (read : command.read first = .ok one) (read' : command.read second = .ok other)
    (alike : one.Alike other) :
    Request.parse (command.word :: first) = Request.parse (command.word :: second) := by
  have asked : command.request one = command.request other := by
    unfold Command.request
    rw [alike.options, alike.taken]
  rw [parse_cons, parse_cons, Command.parse, Command.parse, read, read']
  simp only [bind, Except.bind, asked, alike.extras]

/-- What the program does depends only on what is asked for. -/
theorem run_of_parse_eq {first second : List Text}
    (same : Request.parse first = Request.parse second) (usual : Settings.Source)
    (workspace : Workspace) : run first usual workspace = run second usual workspace := by
  rw [run, run, same]

/-- Mentions in front of the words. -/
theorem read_front (scans : command.Scans) (plain : ∀ w ∈ words, w.head? ≠ some '-')
    (mentions : List Mention) :
    command.read (mentions.flatMap (·.arguments) ++ words) =
      .ok (Reading.fill { options := .holding (lastValue mentions), operands := command.operands }
        words) := by
  have begun : command.operands.behind mentions = command.operands := by
    unfold Operands.behind
    rw [scans.interrupt, ite_self]
  rw [((feeds_mentions scans mentions).append (feeds_words plain)).read, Reading.taking,
    foldl_taking, begun]

/-- Mentions behind the words. -/
theorem read_behind (scans : command.Scans) (plain : ∀ w ∈ words, w.head? ≠ some '-')
    (mentions : List Mention) :
    command.read (words ++ mentions.flatMap (·.arguments)) =
      .ok (Reading.taking (Reading.fill { operands := command.operands } words) mentions) :=
  ((feeds_words plain).append (feeds_mentions scans mentions)).read

/-- It is the same whether mentions stand in front of the words or behind them. -/
theorem alike_fill_taking (mentions : List Mention) (operands : Operands) (words : List Text) :
    (Reading.taking (Reading.fill { operands } words) mentions).Alike
      (Reading.fill { options := .holding (lastValue mentions), operands } words) where
  options := foldl_taking mentions
  taken := Operands.taken_behind _ mentions
  extras := rfl

/-- **How switches are written does not matter.** Let a command that scans be given words that begin
with no hyphen and mentions of switches: any number of each, every name in full or shortened, every
value joined to its name or behind it. Then the program ends, prints, reports and leaves the same
whether all mentions stand in front of the words or behind them, and the same as with each switch
mentioned once, in full, in a fixed order and with its last value. -/
theorem switches_as_mentioned (scans : command.Scans) (plain : ∀ w ∈ words, w.head? ≠ some '-')
    (mentions : List Mention) (usual : Settings.Source) (workspace : Workspace) :
    let written := mentions.flatMap (·.arguments)
    let ran (arguments : List Text) := run (command.word :: arguments) usual workspace
    ran (written ++ words) = ran (canonical mentions ++ words) ∧
      ran (words ++ written) = ran (canonical mentions ++ words) ∧
      ran (words ++ canonical mentions) = ran (canonical mentions ++ words) := by
  intro written ran
  have front := read_front scans plain mentions
  have settledFront := read_front scans plain (settled mentions)
  rw [holding_settled, flatMap_settled] at settledFront
  have alike (mentions : List Mention) :=
    alike_fill_taking mentions command.operands words
  have behind := parse_of_alike (read_behind scans plain mentions) front (alike mentions)
  have settledBehind := parse_of_alike (read_behind scans plain (settled mentions)) settledFront
    (holding_settled mentions ▸ alike (settled mentions))
  rw [flatMap_settled] at settledBehind
  have inFull := parse_of_alike front settledFront ⟨rfl, rfl, rfl⟩
  exact ⟨run_of_parse_eq inFull usual workspace,
    run_of_parse_eq (behind.trans inFull) usual workspace,
    run_of_parse_eq settledBehind usual workspace⟩

/-- A name that is shortened twice, and a log that is named twice, once by no path at all. -/
def shortened : List Mention :=
  [⟨.profile, "--p", "classic", false, by decide, by decide, by decide⟩,
    ⟨.scanLog, "--sc", "l", false, by decide, by decide, by decide⟩,
    ⟨.profile, "--prof", "letter_l", true, by decide, by decide, by decide⟩,
    ⟨.scanLog, "--scan-lo", "", true, by decide, by decide, by decide⟩]

/-- The last profile is the one that counts, and no log is written. -/
theorem switches_as_mentioned_shortened :
    let ran (arguments : List Text) := run (Command.count.word :: arguments) .bundled Run.untouched
    ran ["d", "dad", "--p", "classic", "--sc", "l", "--prof=letter_l", "--scan-lo="] =
        ran ["--profile=letter_l", "--scan-log=", "d", "dad"] ∧
      (ran ["--profile=letter_l", "--scan-log=", "d", "dad"]).1.output =
        "2 occurrences of the letter 'd' in the string dad\n" := by
  intro ran
  have plain : ∀ w ∈ (["d", "dad"] : List Text), w.head? ≠ some '-' := by decide
  have scans : Command.count.Scans := Or.inr rfl
  have same := (switches_as_mentioned scans plain shortened .bundled Run.untouched).2.1
  exact ⟨same, by decide +kernel⟩

end CharTally.CommandLine
