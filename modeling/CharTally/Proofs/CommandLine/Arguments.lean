import CharTally.CommandLine.Request
import CharTally.Proofs.CommandLine.Limit
import Mathlib.Data.List.TakeWhile

/-!
# Reading arguments

A switch with its value behind an equals sign is one argument, whatever the value is. A
word is what does not begin with a hyphen, and a single character, even a hyphen. So a
command line made of a command, perhaps a target and a text, and such switches asks for
exactly what it says: `parse_demo` and `parse_count_of_words` give the request, for every
value of every switch, and `parse_history_of_word` does so where the values are words of their
own. A path that is no word is refused there (`parse_history_of_other`).
-/

namespace CharTally.CommandLine

variable {command : Command} {which : Switch} {value : Text} {reading : Reading}
  {options : Options} {given : List (Switch × Text)}

/-! ## Switches with values -/

/-- A switch and its value as one argument. -/
def Switch.valued (which : Switch) (value : Text) : Text := which.name ++ scalar '=' :: value

namespace Token

theorem not_equals_of_mem_name (which : Switch) : ∀ c ∈ which.name, decide (c ≠ '=') = true := by
  have all : which.name.all (fun c => decide (c ≠ '=')) = true := by cases which <;> rfl
  exact List.all_eq_true.mp all

/-- The name of a switch is what stands in front of the first equals sign. -/
theorem takeWhile_valued (which : Switch) (value : Text) :
    (which.valued value).takeWhile (· ≠ scalar '=') = which.name := by
  rw [Switch.valued, List.takeWhile_append_of_pos (not_equals_of_mem_name which),
    List.takeWhile_cons_of_neg (by simp), List.append_nil]

theorem valueIn_valued (which : Switch) (value : Text) :
    valueIn (which.valued value) = some value := by
  rw [valueIn, Switch.valued, List.dropWhile_append_of_pos (not_equals_of_mem_name which),
    List.dropWhile_cons_of_neg (by simp)]

/-- A name in full means its own switch. -/
theorem matching_name (known : which ∈ command.switches) :
    Switch.matching command.switches which.name = [which] := by
  revert which
  cases command <;> decide

theorem ofArgument_valued (known : which ∈ command.switches) (value : Text) :
    ofArgument command.switches (which.valued value) = .ok (.switch which (some value)) := by
  have hyphens : ∃ letters, which.valued value = scalar '-' :: '-' :: letters := by
    cases which <;> exact ⟨_, rfl⟩
  rcases hyphens with ⟨letters, shape⟩
  have name := takeWhile_valued which value
  have behind := valueIn_valued which value
  rw [shape] at name behind ⊢
  rw [ofArgument, name, matching_name known, behind]

/-- A name in full and nothing else is the switch without a value. -/
theorem ofArgument_name (known : which ∈ command.switches) :
    which.name ≠ separatorMark ∧
      (which ≠ .help → ofArgument command.switches which.name = .ok (.switch which none)) := by
  revert which
  cases command <;> decide

theorem ofArguments_valued (known : ∀ pair ∈ given, pair.1 ∈ command.switches) :
    ofArguments command.switches (given.map fun pair => pair.1.valued pair.2) =
      .ok (given.map fun pair => .switch pair.1 (some pair.2)) := by
  induction given with
  | nil => rfl
  | cons pair rest ih =>
    have first := ofArgument_valued (known pair List.mem_cons_self) pair.2
    have others := ih fun other member => known other (List.mem_cons_of_mem pair member)
    have notMark : pair.1.valued pair.2 ≠ separatorMark := by
      intro same
      have length := congrArg List.length same
      rw [Switch.valued, List.length_append, List.length_cons, separatorMark] at length
      have long : 2 < pair.1.name.length := by cases pair.1 <;> decide
      simp at length
      omega
    rw [List.map_cons, ofArguments, if_neg notMark, first, others]
    rfl

/-- An argument that is a word for every command. -/
structure IsWord (t : Text) : Prop where
  not_separator : t ≠ separatorMark
  read : ∀ switches, ofArgument switches t = .ok (.word t)

/-- One character is a word. -/
theorem isWord_one (c : CodePoint) : IsWord [c] where
  not_separator same := nomatch (List.cons.inj same).2
  read switches := by
    unfold ofArgument
    split <;> simp_all

/-- What does not begin with a hyphen is a word. -/
theorem isWord_of_plain {t : Text} (plain : t.head? ≠ some '-') : IsWord t where
  not_separator same := plain (same ▸ rfl)
  read switches := by
    unfold ofArgument
    split
    case h_1 => exact absurd rfl plain
    case h_2 => exact absurd rfl plain
    case h_3 => exact absurd rfl plain
    case h_4 => rfl

/-- An argument that is a word among some switches. -/
def IsWordAmong (switches : List Switch) (t : Text) : Prop :=
  t ≠ separatorMark ∧ ofArgument switches t = .ok (.word t)

theorem ofOther_eq_word {t w : Text} (isWord : ofOther t = .word w) : w = t := by
  unfold ofOther at isWord
  split at isWord
  · cases isWord
    rfl
  · cases isWord

/-- A word is the argument itself. -/
theorem ofArgument_eq_word {switches : List Switch} {t w : Text}
    (isWord : ofArgument switches t = .ok (.word w)) : w = t := by
  unfold ofArgument at isWord
  split at isWord
  case h_1 =>
    split at isWord
    · exact ofOther_eq_word (Except.ok.inj isWord)
    · cases isWord
    · cases isWord
  case h_2 => cases isWord
  case h_3 => exact ofOther_eq_word (Except.ok.inj isWord)
  case h_4 =>
    cases isWord
    rfl

theorem ofArguments_word {switches : List Switch} {t : Text} {rest : List Text}
    {tokens : List Token} (isWord : IsWord t) (others : ofArguments switches rest = .ok tokens) :
    ofArguments switches (t :: rest) = .ok (.word t :: tokens) := by
  rw [ofArguments, if_neg isWord.not_separator, isWord.read, others]
  rfl

/-- A switch may have its value in the word behind it. -/
theorem ofArguments_named {rest : List Text} {tokens : List Token}
    (known : which ∈ command.switches ∧ which ≠ .help) (isWord : IsWord value)
    (others : ofArguments command.switches rest = .ok tokens) :
    ofArguments command.switches (which.name :: value :: rest) =
      .ok (.switch which none :: .word value :: tokens) := by
  obtain ⟨notSeparator, read⟩ := ofArgument_name known.1
  rw [ofArguments, if_neg notSeparator, read known.2, ofArguments_word isWord others]
  rfl

end Token

/-- Options that are given the values of some switches, one after another. -/
def Options.giveAll (options : Options) (given : List (Switch × Text)) : Except Problem Options :=
  given.foldlM (fun options pair => options.give pair.1 pair.2) options

/-- Operands that are interrupted keep what they have taken. -/
theorem Operands.taken_interrupt (operands : Operands) :
    operands.interrupt.taken = operands.taken := by
  cases operands <;> rfl

/-- Switches with values change the options alone. -/
theorem Reading.feed_valued
    (gives : reading.options.giveAll given = .ok options) :
    ∃ operands, operands.taken = reading.operands.taken ∧
      reading.feed command (given.map fun pair => .switch pair.1 (some pair.2)) =
        .ok { reading with options, operands } := by
  induction given generalizing reading with
  | nil =>
    cases gives
    exact ⟨reading.operands, rfl, rfl⟩
  | cons pair rest ih =>
    rw [Options.giveAll, List.foldlM_cons] at gives
    cases first : reading.options.give pair.1 pair.2 with
    | error problem => rw [first] at gives; cases gives
    | ok next =>
      rw [first] at gives
      have took : reading.give pair.1 pair.2 =
          .ok { reading with options := next, operands := reading.operands.interrupt } := by
        rw [Reading.give, first]
        rfl
      have onward : ({ reading with options := next, operands := reading.operands.interrupt } :
          Reading).options.giveAll rest = .ok options := gives
      rcases ih onward with ⟨operands, taken, fed⟩
      refine ⟨operands, taken.trans (Operands.taken_interrupt _), ?_⟩
      rw [List.map_cons, Reading.feed, took]
      exact fed

/-! ## Command lines -/

/-- Switches with values, as they are written. -/
def written (given : List (Switch × Text)) : List Text :=
  given.map fun pair => pair.1.valued pair.2

/-- The first word is the command. -/
theorem parse_cons (command : Command) (arguments : List Text) :
    Request.parse (command.word :: arguments) = command.parse [] arguments := by
  cases command <;> rfl

/-- A demo is asked for with the values that its switches are given. -/
theorem parse_demo (known : ∀ pair ∈ given, pair.1 ∈ Command.demo.switches)
    (gives : ({} : Options).giveAll given = .ok options) :
    Request.parse (Command.demo.word :: written given) = .ok (.demo options) := by
  have tokens := Token.ofArguments_valued known
  have begins : ({ operands := .closed none } : Reading).options.giveAll given = .ok options :=
    gives
  rcases Reading.feed_valued begins with ⟨operands, taken, fed⟩
  rw [parse_cons, Command.parse, Command.read, written, tokens]
  dsimp only [Command.operands]
  rw [fed]
  rfl

/-- A count is asked for with its target, with its text if it has one, and with the values that its
switches are given. -/
theorem parse_count_of_words {literal : Text} {text : Option Text} (isTarget : Token.IsWord literal)
    (isText : ∀ t ∈ text, Token.IsWord t)
    (known : ∀ pair ∈ given, pair.1 ∈ Command.count.switches)
    (gives : ({} : Options).giveAll given = .ok options) :
    Request.parse (Command.count.word :: literal :: (text.toList ++ written given)) =
      .ok (.count literal text options) := by
  have valued := Token.ofArguments_valued known
  have tokens : Token.ofArguments Command.count.switches
      (literal :: (text.toList ++ written given)) =
        .ok (.word literal :: (text.toList.map .word ++
          given.map fun pair => .switch pair.1 (some pair.2))) := by
    apply Token.ofArguments_word isTarget
    cases text with
    | none => exact valued
    | some t => exact Token.ofArguments_word (isText t rfl) valued
  obtain ⟨begun, taken, begins⟩ : ∃ operands : Operands,
      operands.taken = some (literal, text) ∧
        Reading.feed .count { operands := Command.count.operands }
          (.word literal :: (text.toList.map .word ++
            given.map fun pair => .switch pair.1 (some pair.2))) =
          Reading.feed .count { operands }
            (given.map fun pair => .switch pair.1 (some pair.2)) := by
    cases text with
    | none => exact ⟨.target literal, rfl, rfl⟩
    | some t =>
      refine ⟨.both literal t, rfl, ?_⟩
      have taken : ({ operands := .target literal } : Reading).word t =
          { operands := .both literal t } := by
        rw [Reading.word, Operands.word, if_neg (isText t rfl).not_separator]
        rfl
      rw [Option.toList_some, List.map_singleton, List.singleton_append, Reading.feed, Reading.feed]
      exact congrArg (Reading.feed .count · _) taken
  have givesThen : ({ operands := begun } : Reading).options.giveAll given = .ok options := gives
  rcases Reading.feed_valued givesThen with ⟨operands, stays, fed⟩
  rw [← begins] at fed
  have asked : Command.count.request { options, operands, extras := [] } =
      .ok (.count literal text options) := by
    rw [Command.request, show operands.taken = some (literal, text) from stays.trans taken]
  rw [parse_cons, Command.parse, Command.read, tokens]
  dsimp only
  rw [fed]
  simp only [bind, Except.bind, asked]
  rfl

/-- One character may be asked for whatever it is, even a hyphen. -/
theorem parse_count (target : CodePoint) (known : ∀ pair ∈ given, pair.1 ∈ Command.count.switches)
    (gives : ({} : Options).giveAll given = .ok options) :
    Request.parse (Command.count.word :: [target] :: written given) =
      .ok (.count [target] none options) := by
  have noText : ∀ t ∈ (none : Option Text), Token.IsWord t := fun _ none_ => nomatch none_
  exact parse_count_of_words (Token.isWord_one target) noText known gives

/-- The arguments that ask for the history of a ledger. -/
def historyArguments (ledger : Text) (limit : Nat) : List Text :=
  [Command.history.word, Switch.ledger.name, ledger, Switch.limit.name, Numeral.decimal limit]

/-- A limit that can be counted up to is read as itself. -/
theorem parse_limit {limit : Nat} (positive : 1 ≤ limit)
    (short : limit < Nat.pow 10 Numeral.maxDigits) :
    Limit.parse (Numeral.decimal limit) = .ok limit := by
  have atLeastOne : 1 ≤ (limit : Int) := by omega
  have writable : Numeral.isShort limit = true := decide_eq_true short
  exact Limit.parse_ofInt atLeastOne writable

/-- The switch for a limit and a numeral behind it. -/
theorem ofArguments_limit (limit : Nat) :
    Token.ofArguments Command.history.switches [Switch.limit.name, Numeral.decimal limit] =
      .ok [.switch .limit none, .word (Numeral.decimal limit)] := by
  have isLimit : Token.IsWord (Numeral.decimal limit) := by
    apply Token.isWord_of_plain
    obtain ⟨d, small, rest, front⟩ := Numeral.exists_decimal_cons limit
    obtain ⟨_, _, _, noMinus, _⟩ := Numeral.decimalDigit?_digitChar d small
    rw [front]
    exact fun same => noMinus (Option.some.inj same)
  exact Token.ofArguments_named (by decide) isLimit rfl

/-- The history of a ledger is asked for by its path and a limit, each behind its switch. The path
has to be a word for this command. -/
theorem parse_history_of_word {ledger : Text} {limit : Nat}
    (isWord : Token.IsWordAmong Command.history.switches ledger) (positive : 1 ≤ limit)
    (short : limit < Nat.pow 10 Numeral.maxDigits) :
    Request.parse (historyArguments ledger limit) = .ok (.history ledger limit) := by
  obtain ⟨notSeparator, read⟩ := Token.ofArgument_name
    (by decide : Switch.ledger ∈ Command.history.switches)
  have tokens : Token.ofArguments Command.history.switches
      [Switch.ledger.name, ledger, Switch.limit.name, Numeral.decimal limit] =
        .ok [.switch .ledger none, .word ledger, .switch .limit none,
          .word (Numeral.decimal limit)] := by
    rw [Token.ofArguments, if_neg notSeparator, read nofun, Token.ofArguments, if_neg isWord.1,
      isWord.2, ofArguments_limit]
    rfl
  rw [historyArguments, parse_cons, Command.parse, Command.read, tokens]
  simp only [Reading.feed, Reading.give, Options.give, parse_limit positive short, bind,
    Except.bind]
  rfl

/-- A path is a word if it does not begin with a hyphen. -/
theorem parse_history {ledger : Text} {limit : Nat} (plain : ledger.head? ≠ some '-')
    (positive : 1 ≤ limit) (short : limit < Nat.pow 10 Numeral.maxDigits) :
    Request.parse (historyArguments ledger limit) = .ok (.history ledger limit) := by
  have isWord := Token.isWord_of_plain plain
  exact parse_history_of_word ⟨isWord.not_separator, isWord.read _⟩ positive short

/-- A path that is no word is not taken for the value of its switch. -/
theorem parse_history_of_other {ledger : Text}
    (noWord : ¬ Token.IsWordAmong Command.history.switches ledger) (limit : Nat) :
    ∃ problem, Request.parse (historyArguments ledger limit) =
      .error (.refused (some .history) problem) := by
  obtain ⟨notSeparator, read⟩ := Token.ofArgument_name
    (by decide : Switch.ledger ∈ Command.history.switches)
  rw [historyArguments, parse_cons, Command.parse, Command.read, Token.ofArguments,
    if_neg notSeparator, read nofun, Token.ofArguments]
  by_cases separates : ledger = Token.separatorMark
  · rw [if_pos separates]
    exact ⟨_, rfl⟩
  rw [if_neg separates]
  cases found : Token.ofArgument Command.history.switches ledger with
  | error problem => exact ⟨problem, rfl⟩
  | ok token =>
    rw [ofArguments_limit]
    cases token with
    | word given =>
      cases Token.ofArgument_eq_word found
      exact absurd ⟨separates, found⟩ noWord
    | separator => exact ⟨_, rfl⟩
    | switch which value => exact ⟨_, rfl⟩
    | unknown given => exact ⟨_, rfl⟩

/-! ## Runs of a profile -/

/-- The switches that name the settings, the profile, and perhaps a log and a ledger. -/
def switchesFor (config name : Text) (log ledger : Option Text) : List (Switch × Text) :=
  [(.config, config), (.profile, name)] ++ (log.map (.scanLog, ·)).toList ++
    (ledger.map (.ledger, ·)).toList

/-- What these switches are read as. -/
def optionsFor (config name : Text) (log ledger : Option Text) : Options where
  profile := name
  config := some config
  scanLog := log
  ledger := ledger

theorem giveAll_switchesFor (config name : Text) (log ledger : Option Text) :
    ({} : Options).giveAll (switchesFor config name log ledger) =
      .ok (optionsFor config name log ledger) := by
  cases log <;> cases ledger <;> rfl

theorem known_switchesFor (config name : Text) (log ledger : Option Text) :
    ∀ pair ∈ switchesFor config name log ledger, pair.1 ∈ Command.demo.switches := by
  cases log <;> cases ledger <;> simp [switchesFor, Command.switches]

end CharTally.CommandLine
