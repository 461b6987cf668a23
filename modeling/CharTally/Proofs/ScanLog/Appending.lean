import CharTally.Proofs.Json.Further
import CharTally.Proofs.ScanLog

/-!
# Adding to a log of any origin

The reader takes logs that the writer would not write: with blank lines and blanks around lines,
with any line ends, with any JSON values, and with a last line that is not ended. The writer adds a
line blindly. So it matters what stands behind the last line end (`remainder`). If that is blank,
the new line is read as the new event, and all other lines are read as before. If it is not, it is a
line of its own as long as nothing follows; behind the writer it is the beginning of the new line,
which is no JSON any more (`readEvents_of_emit`).
-/

namespace CharTally

namespace ScanLog

variable {path : FilePath} {files later : Files} {before after : Workspace} {report : Report}
  {profile : Option Text} {events more : List Json} {bytes : List UInt8} {text : Text}

/-- What stands behind the last line end of a document. -/
def remainder (bytes : List UInt8) : Text :=
  match Utf8.decode bytes with
  | .ok text => (Text.cutLines [] text.unifyNewlines).2
  | .error _ => []

/-- The document at a path, if there is one, has nothing but blanks behind its last line end. -/
def Ended (path : FilePath) (files : Files) : Prop :=
  ∀ bytes, files.read path = .ok bytes → (remainder bytes).strip = []

/-- Lines are read one after another. -/
theorem eventsOf_append (first second : List Text) :
    eventsOf (first ++ second) =
      (eventsOf first).bind fun events => (eventsOf second).map (events ++ ·) := by
  induction first with
  | nil =>
    rw [List.nil_append, eventsOf]
    cases eventsOf second <;> rfl
  | cons line rest ih =>
    rw [List.cons_append, eventsOf, eventsOf, ih]
    by_cases blank : line.strip.isEmpty = true
    · rw [if_pos blank, if_pos blank]
    · rw [if_neg blank, if_neg blank]
      cases Json.read line.strip with
      | error fault => rfl
      | ok event =>
        cases eventsOf rest with
        | error failure => rfl
        | ok events => cases eventsOf second <;> rfl

/-! ## The lines of a document -/

/-- A blank line at the end says nothing, and so the unfinished line may always be taken for one. -/
theorem eventsOfBytes_of_decode (decoded : Utf8.decode bytes = .ok text) :
    eventsOfBytes bytes =
      (eventsOf text.unifyNewlines.endedLines).bind fun events =>
        (eventsOf [remainder bytes]).map (events ++ ·) := by
  rw [eventsOfBytes, remainder, decoded, ← eventsOf_append]
  dsimp only
  rw [Text.lines, Text.endedLines]
  cases Text.cutLines [] text.unifyNewlines with
  | mk ended last =>
    cases last with
    | nil =>
      dsimp only
      rw [eventsOf_append, List.isEmpty_nil, if_pos rfl]
      cases eventsOf ended with
      | error failure => rfl
      | ok events => exact congrArg Except.ok (List.append_nil events).symm
    | cons c rest => rfl

/-- A line that is added goes on with the unfinished line of a document, and ends it. -/
theorem eventsOfBytes_append (decoded : Utf8.decode bytes = .ok text) {line : Text}
    (plain : Only Json.isPlain line) (some_ : line ≠ []) :
    eventsOfBytes (bytes ++ Utf8.encode (line ++ [scalar '\n'])) =
      (eventsOf text.unifyNewlines.endedLines).bind fun events =>
        (eventsOf [remainder bytes ++ line]).map (events ++ ·) := by
  have unbroken : scalar '\n' ∉ line := plain.not_mem (by decide)
  have noReturn : scalar '\r' ∉ line ++ [scalar '\n'] := by
    rw [List.mem_append, not_or]
    exact ⟨plain.not_mem (by decide), by decide⟩
  have apart : (line ++ [scalar '\n']).head? ≠ some (scalar '\n') := by
    rw [List.head?_append_of_ne_nil _ some_]
    exact fun first => unbroken (List.mem_of_head? first)
  have whole : (line ++ [scalar '\n']).isWhole = true := by
    rw [Text.isWhole_append, Json.isWhole_of_plain plain]
    rfl
  rw [eventsOfBytes, remainder, Utf8.decode_append_encode decoded whole, decoded, ← eventsOf_append]
  dsimp only
  rw [Text.unifyNewlines_append text apart noReturn, Text.lines, Text.endedLines,
    Text.cutLines_append, Text.cutLines_line _ unbroken, List.reverse_reverse]
  rfl

/-- An unfinished line that is blank says nothing. -/
theorem eventsOf_of_blank {line : Text} (blank : line.strip = []) : eventsOf [line] = .ok [] := by
  rw [eventsOf, blank]
  rfl

/-- An unfinished line that is read holds one value. -/
theorem eventsOf_of_not_blank {line : Text} (some_ : line.strip ≠ [])
    (read : eventsOf [line] = .ok events) :
    ∃ value, Json.read line.strip = .ok value ∧ events = [value] := by
  have body : ¬ line.strip.isEmpty = true := mt List.isEmpty_iff.mp some_
  rw [eventsOf, if_neg body] at read
  cases found : Json.read line.strip with
  | error fault => rw [found] at read; cases read
  | ok value => rw [found] at read; cases read; exact ⟨value, rfl, rfl⟩

/-! ## A line that is added -/

section Added

variable {line : Text} {members : List (Text × Json)}

/-- The new line begins behind the blanks of the unfinished one. -/
theorem strip_append_render (line : Text) (members : List (Text × Json)) :
    (line ++ (Json.object members).render).strip =
      line.dropWhile Text.isBlank ++ (Json.object members).render := by
  rw [Json.render]
  exact Text.strip_append (by decide) (by decide) line

/-- Behind blanks the new line is read as the new event. -/
theorem eventsOf_of_ended (blank : line.strip = []) {reading : Json}
    (read : Json.read (Json.object members).render = .ok reading) :
    eventsOf [line ++ (Json.object members).render] = .ok [reading] := by
  have body : ¬ (Json.object members).render.isEmpty = true := by
    rw [Json.render]
    exact Bool.false_ne_true
  rw [eventsOf, strip_append_render, Text.dropWhile_of_strip blank, List.nil_append, if_neg body,
    read]
  rfl

/-- Behind a value the new line is not read. -/
theorem eventsOf_of_unended {value : Json} (read : Json.read line.strip = .ok value)
    (members : List (Text × Json)) :
    ∃ offset, eventsOf [line ++ (Json.object members).render] =
      .error (.crash (.malformedJson (line ++ (Json.object members).render).strip .extraData
        offset)) := by
  obtain ⟨blanks, areBlank, front⟩ := Text.exists_trim_append Text.isBlank line
  have opens : (Json.object members).render =
      scalar '\x7b' :: (Json.renderMembers members ++ [scalar '\x7d']) := by rw [Json.render]; rfl
  have ends : Json.EndsValue (blanks ++ (Json.object members).render) := by
    rw [opens]
    cases blanks with
    | nil => exact .cons (by decide) _
    | cons c rest => exact .cons (Json.goesOn_of_isBlank (areBlank c List.mem_cons_self)) _
  have brace : scalar '\x7b' ∈ blanks ++ (Json.object members).render := by
    rw [opens]
    exact List.mem_append_right blanks List.mem_cons_self
  obtain ⟨offset, failed⟩ := Json.read_append_of_read read ends brace (by decide)
  refine ⟨offset, ?_⟩
  have whole : (line ++ (Json.object members).render).strip =
      line.strip ++ (blanks ++ (Json.object members).render) := by
    rw [strip_append_render, front, List.append_assoc, Text.strip]
  have body : ¬ (line ++ (Json.object members).render).strip.isEmpty = true := by
    rw [whole, List.isEmpty_iff]
    exact List.append_ne_nil_of_right_ne_nil _ (List.ne_nil_of_mem brace)
  rw [eventsOf, if_neg body, whole, failed]
  rfl

/-- What is read from a document to which an event is added. -/
theorem eventsOfBytes_added (before : eventsOfBytes bytes = .ok events) {reading : Json}
    (read : Json.read (Json.object members).render = .ok reading) :
    ((remainder bytes).strip = [] →
      eventsOfBytes (bytes ++ bytesOf [.object members]) = .ok (events ++ [reading])) ∧
      ((remainder bytes).strip ≠ [] → ∃ body offset,
        eventsOfBytes (bytes ++ bytesOf [.object members]) =
          .error (.crash (.malformedJson body .extraData offset))) := by
  cases decoded : Utf8.decode bytes with
  | error fault =>
    unfold eventsOfBytes at before
    rw [decoded] at before
    dsimp only at before
    split at before
    · cases before
    · cases before
  | ok text =>
    have plain := Json.only_render (.object members)
    have some_ : (Json.object members).render ≠ [] := by
      rw [Json.render]
      exact List.cons_ne_nil _ _
    rw [bytesOf_singleton, eventsOfBytes_append decoded plain some_]
    rw [eventsOfBytes_of_decode decoded] at before
    cases ended : eventsOf text.unifyNewlines.endedLines with
    | error failure => rw [ended] at before; cases before
    | ok others =>
      rw [ended] at before
      constructor
      · intro blank
        rw [eventsOf_of_blank blank] at before
        cases before
        dsimp only
        rw [eventsOf_of_ended blank read, List.append_nil]
        rfl
      · intro some_
        cases last : eventsOf [remainder bytes] with
        | error failure => rw [last] at before; cases before
        | ok more =>
          obtain ⟨value, found, _⟩ := eventsOf_of_not_blank some_ last
          obtain ⟨offset, failed⟩ := eventsOf_of_unended found members
          exact ⟨_, offset, by rw [failed]; rfl⟩

end Added

/-! ## Logs -/

/-- A document that is set at a path is read there. -/
theorem read_set_document {place : Place} (located : files.locate path = .ok place)
    (notFolder : files.get? place ≠ some .folder) (bytes : List UInt8) :
    (files.set place (.document bytes)).read path = .ok bytes :=
  read_of_document (Files.locate_set _ notFolder located)
    (Files.get?_set_self files _ (Files.isStart_eq_false notFolder))

/-- **What a log is read as behind the writer.** Let a log of any origin be read as some events, and
let an event be added to it. If nothing but blanks stands behind its last line end, then it is read
as these events and what the line of the new event is read as; otherwise it is not read any more. -/
theorem readEvents_of_append (before : readEvents files path = .ok events) {reading : Json}
    {members : List (Text × Json)} (read : Json.read (Json.object members).render = .ok reading)
    (appended : files.append path (bytesOf [.object members]) = .ok later) :
    (Ended path files → readEvents later path = .ok (events ++ [reading])) ∧
      (¬ Ended path files → ∃ body offset,
        readEvents later path = .error (.crash (.malformedJson body .extraData offset))) := by
  obtain ⟨place, located, added⟩ := Files.append_eq_ok appended
  rcases added with ⟨absent, rfl⟩ | ⟨bytes, found, rfl⟩ | ⟨content, found, _⟩
  · have nowhere : files.contains path = .ok false := by
      rw [Files.contains, located]
      dsimp only
      rw [absent]
      rfl
    have unread : files.read path = .error (.obstacle path .absent) := by
      rw [Files.read, located]
      dsimp only
      rw [absent]
    have notFolder : files.get? place ≠ some .folder := by
      rw [absent]
      exact (Option.some_ne_none _).symm
    have ended : Ended path files := by
      intro bytes read
      rw [unread] at read
      cases read
    unfold readEvents at before
    rw [nowhere] at before
    cases before
    refine ⟨fun _ => ?_, fun unended => absurd ended unended⟩
    rw [readEvents_of_read (read_set_document located notFolder _)]
    exact eventsOfBytes_bytesOf (.cons ⟨⟨members, rfl⟩, read⟩ .nil)
  · have here := read_of_document located found
    have notFolder := not_folder_of_document found
    have same : Ended path files ↔ (remainder bytes).strip = [] := by
      refine ⟨fun ended => ended bytes here, fun blank other read => ?_⟩
      cases here.symm.trans read
      exact blank
    rw [readEvents_of_read here] at before
    rw [readEvents_of_read (read_set_document located notFolder _), same]
    exact eventsOfBytes_added before read
  · have mark : files.read path = .ok Files.ledgerMark := by
      rw [Files.read, located]
      dsimp only
      rw [found]
    have unread : ∃ failure, eventsOfBytes Files.ledgerMark = .error failure := ⟨_, rfl⟩
    obtain ⟨failure, unread⟩ := unread
    rw [readEvents_of_read mark, unread] at before
    cases before

/-- **Writing to a log of any origin.** Let the document at a path be read as some events, whatever
its lines look like, or let there be none, and let a scan be written to it, at a time that is a
number of the format. If nothing but blanks stands behind the last line end of the document, then it
is read as these events and the event of the scan, which is as it was made unless the two halves of
a pair stood beside one another in its texts (`joined_event`). Otherwise the scan has been written
onto the last line, and the log is not read any more. -/
theorem readEvents_of_emit (read : readEvents before.files path = .ok events)
    (clock : before.now.value.IsCanonical)
    (emitted : emit ⟨some path⟩ report profile before = .ok () after) :
    ∃ target, report.target = [target] ∧
      (Ended path before.files → readEvents after.files path =
        .ok (events ++ [(event target report profile before.now).joined])) ∧
      (¬ Ended path before.files → ∃ line offset, readEvents after.files path =
        .error (.crash (.malformedJson line .extraData offset))) := by
  obtain ⟨target, files, one, writable, added, rfl⟩ := emit_eq_ok emitted
  have fits : Json.Fits Json.maxDepth (event target report profile before.now) :=
    fits_event writable (Json.readsBack_of_canonical clock)
  exact ⟨target, one, readEvents_of_append read (Json.read_render fits) added⟩

/-- A workspace with a log. -/
def withLog (now : Instant) (log : Text) : Workspace where
  files := { entries := [([['l']], .document (Utf8.encode log))] }
  now

/-- A scan of two letters. -/
def twoLetters : Report := ⟨['d'], ⟨['d', 'd']⟩, 2, {}⟩

/-- A scan can be written to a log that is there. -/
theorem exists_emit_withLog (now : Instant) (log : Text) :
    ∃ later, (withLog now log).files.append ⟨[], [['l']]⟩
        (bytesOf [event 'd' twoLetters none now]) = .ok later ∧
      emit ⟨some ⟨[], [['l']]⟩⟩ twoLetters none (withLog now log) =
        .ok () { withLog now log with files := later } := by
  have located : (withLog now log).files.locate ⟨[], [['l']]⟩ = .ok [['l']] := rfl
  have notFolder : (withLog now log).files.get? [['l']] ≠ some .folder := fun h => nomatch h
  obtain ⟨later, added⟩ := Files.append_of_locate located notFolder
    (bytesOf [event 'd' twoLetters none now])
  exact ⟨later, added, emit_of_added rfl (by decide +kernel) added⟩

/-- A log with all kinds of line ends and of values, and with blanks behind its last line end. -/
def motley : Text := "\r [1, 2] \r\n\n\x7b\"a\": null\x7d\t\n \u2003"

/-- A motley log stays readable, and a log whose one line is not ended does not. -/
theorem readEvents_of_emit_motley :
    let path : FilePath := ⟨[], [['l']]⟩
    let now : Instant := ⟨.finite false 7130316800000000 (-22), nofun⟩
    (∃ after, emit ⟨some path⟩ twoLetters none (withLog now motley) = .ok () after ∧
      readEvents after.files path = .ok [.array [.integer 1, .integer 2],
        .object [(['a'], .null)], event 'd' twoLetters none now]) ∧
      ∃ after line offset,
        emit ⟨some path⟩ twoLetters none (withLog now "\x7b\x7d") = .ok () after ∧
          readEvents after.files path =
            .error (.crash (.malformedJson line .extraData offset)) := by
  intro path now
  have clock : now.value.IsCanonical :=
    .inr ⟨by decide, by decide, by decide, by decide, .inr (by decide)⟩
  constructor
  · have read : readEvents (withLog now motley).files path =
        .ok [.array [.integer 1, .integer 2], .object [(['a'], .null)]] := rfl
    have here : (withLog now motley).files.read path = .ok (Utf8.encode motley) := rfl
    have ended : Ended path (withLog now motley).files := by
      intro bytes other
      cases here.symm.trans other
      decide +kernel
    obtain ⟨later, _, emitted⟩ := exists_emit_withLog now motley
    obtain ⟨target, one, readable, _⟩ := readEvents_of_emit read clock emitted
    cases one
    exact ⟨_, emitted, readable ended⟩
  · have read : readEvents (withLog now "\x7b\x7d").files path = .ok [.object []] := rfl
    have unended : ¬ Ended path (withLog now "\x7b\x7d").files := by
      intro ended
      exact absurd (ended (Utf8.encode "\x7b\x7d") rfl) (by decide +kernel)
    obtain ⟨later, _, emitted⟩ := exists_emit_withLog now "\x7b\x7d"
    obtain ⟨target, one, _, unreadable⟩ := readEvents_of_emit read clock emitted
    obtain ⟨line, offset, failed⟩ := unreadable unended
    exact ⟨_, line, offset, emitted, failed⟩

/-- So it is not true that a log that is read is still read behind the writer. -/
theorem not_readEvents_of_emit :
    ¬ ∀ (path : FilePath) (before after : Workspace) (report : Report) (profile : Option Text)
        (events : List Json), readEvents before.files path = .ok events →
      before.now.value.IsCanonical →
      emit ⟨some path⟩ report profile before = .ok () after →
      ∃ target, report.target = [target] ∧ readEvents after.files path =
        .ok (events ++ [event target report profile before.now]) := by
  intro always
  let now : Instant := ⟨.finite false 7130316800000000 (-22), nofun⟩
  have clock : now.value.IsCanonical :=
    .inr ⟨by decide, by decide, by decide, by decide, .inr (by decide)⟩
  have read : readEvents (withLog now "\x7b\x7d").files ⟨[], [['l']]⟩ = .ok [.object []] := rfl
  have unended : ¬ Ended ⟨[], [['l']]⟩ (withLog now "\x7b\x7d").files := by
    intro ended
    exact absurd (ended (Utf8.encode "\x7b\x7d") rfl) (by decide +kernel)
  obtain ⟨later, added, emitted⟩ := exists_emit_withLog now "\x7b\x7d"
  have fits : Json.Fits Json.maxDepth (event 'd' twoLetters none now) :=
    fits_event (by decide +kernel) (Json.readsBack_of_canonical clock)
  obtain ⟨target, one, told⟩ := always _ _ _ _ _ _ read clock emitted
  obtain ⟨line, offset, failed⟩ :=
    (readEvents_of_append read (Json.read_render fits) added).2 unended
  rw [told] at failed
  cases failed

end ScanLog

end CharTally
