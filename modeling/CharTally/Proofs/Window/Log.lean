import CharTally.Proofs.Window.Literals
import CharTally.Proofs.Window.Story
import Mathlib.Data.List.Infix

/-!
# The log and the result

The log of the window grows at its end: a sentence that was found is a line of it, and so is a
fault that was told. The result is the last sentence. As long as nobody writes into the two
fields, they can be read off what came of the clicks (`log_behind`, `result_behind`), and
`log_and_result_follow_clicks` says so of every state that is seen, with all that each click
changes.
-/

namespace CharTally.Window

variable {source : Settings.Source} {workspace : Workspace} {document : Settings.Document}
  {state : State} {form : Form} {event : Event} {events : List Event}
  {turned : Turn}

/-! ## What a turn changes -/

/-- The value of a field. -/
def Form.value (form : Form) : Field → Text
  | .profile => form.profile
  | .target => form.target
  | .text => form.text
  | .log => form.log
  | .result => form.result

/-- No other fields have another value than before. -/
def ChangesOnly (fields : List Field) (before after : Form) : Prop :=
  ∀ field, field ∉ fields → after.value field = before.value field

/-- What a turn adds to the log: a line, or nothing. -/
def Turn.entry : Turn → Text
  | .counted line => line ++ "\n"
  | .told fault => "Error: " ++ fault.tagged ++ "\n"
  | _ => []

/-- An event that puts nothing into the log and the result. -/
def Event.SparesOutput (event : Event) : Prop :=
  ∀ value, event ≠ .set .log value ∧ event ≠ .set .result value

theorem log_apply (comes : Comes source workspace form event turned)
    (spares : event.SparesOutput) : (turned.apply form).log = form.log ++ turned.entry := by
  cases comes with
  | set field value =>
    cases field with
    | log => exact absurd rfl (spares value).1
    | profile | target | text | result => exact (List.append_nil form.log).symm
  | @counted _ _ line => exact List.append_assoc form.log line _
  | @unloaded fault _ | @uncounted fault _ _ =>
    change form.log ++ "Error: " ++ fault.message ++ "\n" =
      form.log ++ ("Error: " ++ fault.tagged ++ "\n")
    rw [Fault.message_eq]
    simp only [List.append_assoc]
  | loaded | crashed | idle => exact (List.append_nil form.log).symm
  | closed =>
    change form.close.log = form.log ++ []
    rw [Form.close, List.append_nil]
    split <;> rfl

theorem result_apply (comes : Comes source workspace form event turned)
    (spares : event.SparesOutput) :
    (turned.apply form).result = turned.line?.getD form.result := by
  cases comes with
  | set field value =>
    cases field with
    | result => exact absurd rfl (spares value).2
    | profile | target | text | log => rfl
  | closed =>
    change form.close.result = form.result
    rw [Form.close]
    split <;> rfl
  | counted | unloaded | uncounted | loaded | crashed | idle => rfl

/-! ## Behind many events -/

theorem log_behind (spare : ∀ event ∈ events, event.SparesOutput) :
    (state.behind source workspace events).form.log =
      state.form.log ++ (story source workspace state events).flatMap (·.turn.entry) := by
  induction events using List.reverseRecOn with
  | nil => exact (List.append_nil state.form.log).symm
  | append_singleton earlier event ih =>
    obtain ⟨front, last⟩ := List.forall_mem_append.mp spare
    have spares := last event (List.mem_singleton_self event)
    rw [behind_concat, next_eq, log_apply (comes_turn ..) spares, ih front, story_concat,
      List.flatMap_append, List.flatMap_singleton, List.append_assoc]
    rfl

theorem result_behind (spare : ∀ event ∈ events, event.SparesOutput) :
    (state.behind source workspace events).form.result =
      ((story source workspace state events).filterMap (·.turn.line?)).getLast?.getD
        state.form.result := by
  induction events using List.reverseRecOn with
  | nil => rfl
  | append_singleton earlier event ih =>
    obtain ⟨front, last⟩ := List.forall_mem_append.mp spare
    have spares := last event (List.mem_singleton_self event)
    rw [behind_concat, next_eq, result_apply (comes_turn ..) spares, ih front, story_concat,
      List.filterMap_append, List.filterMap_cons, List.filterMap_nil, momentOf]
    dsimp only
    cases (turn source workspace (state.behind source workspace earlier).form event).line? with
    | none => rw [List.append_nil]; rfl
    | some line => rw [List.getLast?_concat]; rfl

/-- Log and result of a window are what came of the events so far. -/
theorem output_of_seen {place : Nat} {seen : State}
    (spare : ∀ event ∈ events, event.SparesOutput)
    (isSeen : (states source workspace document events)[place]? = some seen) :
    let past := (story source workspace { form := firstForm document } events).take place
    seen.form.log = past.flatMap (·.turn.entry) ∧
      seen.form.result = (past.filterMap (·.turn.line?)).getLast?.getD [] := by
  have spareThen : ∀ event ∈ events.take place, event.SparesOutput := fun event member =>
    spare event (List.mem_of_mem_take member)
  obtain ⟨log, result⟩ := log_firstForm document
  rw [getElem?_states isSeen, take_story, log_behind spareThen, result_behind spareThen,
    log, result]
  exact ⟨rfl, rfl⟩

/-- What is loaded is the profile that the form names. -/
theorem find?_of_namedProfile {profile : Settings.Profile}
    (opened : opening workspace.files source = .ok document)
    (found : namedProfile workspace.files source form = .ok profile) :
    document.find? form.profile = some profile := by
  rw [namedProfile_eq] at found
  cases known : document.find? form.profile with
  | some other =>
    rw [Settings.loadRuntime_of_loaded opened known] at found
    cases found
    rfl
  | none =>
    by_cases named : form.profile = []
    · rw [named] at known found
      rw [Settings.loadRuntime_of_empty opened known] at found
      cases found
    · rw [Settings.loadRuntime_of_unknown opened known named] at found
      cases found

/-! ## What each click changes -/

theorem changesOnly_showFault (form : Form) (fault : Fault) :
    ChangesOnly [.log] form (form.showFault fault) := by
  intro field other
  cases field with
  | log => exact absurd (List.mem_singleton_self Field.log) other
  | profile | target | text | result => rfl

theorem changesOnly_showLine (form : Form) (line : Text) :
    ChangesOnly [.result, .log] form (form.showLine line) := by
  intro field other
  cases field with
  | log | result => exact absurd (by decide) other
  | profile | target | text => rfl

theorem changesOnly_showLiterals (form : Form) (target : CodePoint) (text : Text) :
    ChangesOnly [.target, .text] form (form.showLiterals target text) := by
  intro field other
  cases field with
  | target | text => exact absurd (by decide) other
  | profile | log | result => rfl

theorem changesOnly_close (form : Form) : ChangesOnly [] form form.close := by
  intro field _
  rw [Form.close]
  cases field <;> split <;> rfl

/-- **The log and the result follow the clicks.** Whatever is done in the window of loaded settings,
as long as nobody writes into the log and the result: the log is at all times what the clicks so far
have added to it, a line for each sentence that was found and for each fault that was told, and so
it only grows at its end; and the result is the last of the sentences, or empty before the first.
A click that tells a fault changes no other field than the log, a click that finds a sentence none
but the result and the log, and a click that loads literals puts those of the profile that is named
into the fields for them and changes no other. Closing changes no field, and a click that crashes
changes nothing. -/
theorem log_and_result_follow_clicks
    (opened : opening workspace.files source = .ok document)
    (spare : ∀ event ∈ events, event.SparesOutput) :
    let seen := states source workspace document events
    let moments := story source workspace { form := firstForm document } events
    seen = { form := firstForm document } :: moments.map Moment.seen ∧
      (∀ place state, seen[place]? = some state →
        state.form.log = (moments.take place).flatMap (·.turn.entry) ∧
          state.form.result = ((moments.take place).filterMap (·.turn.line?)).getLast?.getD []) ∧
      (seen.map (·.form.log)).Pairwise (· <+: ·) ∧
      ∀ moment ∈ moments,
        Comes source workspace moment.before moment.event moment.turn ∧
        (∀ fault, moment.turn = .told fault →
          ChangesOnly [.log] moment.before moment.after) ∧
        (∀ line, moment.turn = .counted line →
          ChangesOnly [.result, .log] moment.before moment.after) ∧
        (∀ profile, moment.turn = .loaded profile →
          document.find? moment.before.profile = some profile ∧
            moment.after.target = [profile.target] ∧ moment.after.text = profile.text ∧
            ChangesOnly [.target, .text] moment.before moment.after) ∧
        (moment.event = .click .close → ChangesOnly [] moment.before moment.after) ∧
        ∀ crash, moment.turn = .crashed crash → moment.after = moment.before := by
  intro seen moments
  have follows (place : Nat) (state : State) (isSeen : seen[place]? = some state) :
      state.form.log = (moments.take place).flatMap (·.turn.entry) ∧
        state.form.result = ((moments.take place).filterMap (·.turn.line?)).getLast?.getD [] :=
    output_of_seen spare isSeen
  refine ⟨?_, follows, ?_, ?_⟩
  · rw [map_seen_story]
    rfl
  · rw [List.pairwise_map, List.pairwise_iff_getElem]
    intro i j before behind earlier
    rw [(follows i _ (List.getElem?_eq_getElem before)).1,
      (follows j _ (List.getElem?_eq_getElem behind)).1]
    apply List.IsPrefix.flatMap
    exact List.take_prefix_take_left (Nat.le_of_lt earlier)
  · intro moment member
    obtain ⟨state, event, _, rfl⟩ := exists_of_mem_story member
    rw [after_momentOf]
    have comes := comes_turn source workspace state.form event
    refine ⟨comes, ?_, ?_, ?_, ?_, ?_⟩
    · intro fault told
      rw [show turn source workspace state.form event = .told fault from told]
      exact changesOnly_showFault state.form fault
    · intro line counted
      rw [show turn source workspace state.form event = .counted line from counted]
      exact changesOnly_showLine state.form line
    · intro profile loaded
      have isLoaded : turn source workspace state.form event = .loaded profile := loaded
      rw [isLoaded] at comes ⊢
      cases comes with
      | loaded found =>
        exact ⟨find?_of_namedProfile opened found, rfl, rfl,
          changesOnly_showLiterals state.form profile.target profile.text⟩
    · rintro rfl
      exact changesOnly_close state.form
    · intro crash crashed
      rw [show turn source workspace state.form event = .crashed crash from crashed]
      rfl

/-- A literal without digits is counted, its fault is closed, a letter is counted, and the literals
of a profile are loaded. -/
def sixEvents : List Event :=
  [.set .target "xG", .click .count, .click .close, .set .target "l", .click .count,
    .click .load]

/-- In the end, the log holds the fault and the sentence, and the result holds the sentence. -/
theorem log_and_result_follow_clicks_sixEvents :
    let found : Text := "2 occurrences of the letter 'l' in the string load rel address"
    ∃ state, (states .bundled bare usualDocument sixEvents)[6]? = some state ∧
      state.form.log =
        ("Error: [INPUT_ERROR] invalid hex literal 'xG'\n" : Text) ++ found ++ "\n" ∧
      state.form.result = found := by
  intro found
  have spare : ∀ event ∈ sixEvents, event.SparesOutput := by
    simp [sixEvents, Event.SparesOutput]
  have within : 6 < (states .bundled bare usualDocument sixEvents).length := by decide +kernel
  obtain ⟨_, follows, _, _⟩ := log_and_result_follow_clicks loaded_usual spare
  obtain ⟨log, result⟩ := follows 6 _ (List.getElem?_eq_getElem within)
  refine ⟨_, List.getElem?_eq_getElem within, ?_, ?_⟩
  · rw [log]
    decide +kernel
  · rw [result]
    decide +kernel

end CharTally.Window
