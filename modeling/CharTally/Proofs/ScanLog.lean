import CharTally.Proofs.Files.Room
import CharTally.Proofs.Json.Real
import CharTally.Proofs.Text.Lines
import CharTally.Proofs.Text.Utf8
import CharTally.ScanLog
import Mathlib.Data.List.Forall2

/-!
# The scan log read back

`Holds` says that the document at a path is the lines of some events, one after
another, or that there is only room for it yet. Opening a log keeps what it holds
(`Holds.ensured`), and writing an event that fits adds it at the end (`Holds.append`);
writing that fails adds nothing. What a log holds is what is read from it
(`readEvents_of_holds`), because a written event is one line and is read back.
`readEvents_of_session` puts this together over any session of logs on one path.
-/

namespace CharTally.ScanLog

variable {path : FilePath} {files later : Files} {before after : Workspace} {report : Report}
  {profile : Option Text} {events more readings : List Json}

/-! ## Events -/

/-- What an event tells of a finished scan. -/
def Tells (report : Report) (profile : Option Text) (now : Instant) (event : Json) : Prop :=
  ∃ target members, event = .object members ∧ report.target = [target] ∧
    Json.find? "version" members = some (.text "1.0.0") ∧
    Json.find? "profile" members = some (profile.elim .null .text) ∧
    Json.find? "target" members = some (.text report.target) ∧
    Json.find? "target_code" members = some (.integer target.toNat) ∧
    Json.find? "text" members = some (.text report.text) ∧
    Json.find? "length" members = some (.integer report.text.length) ∧
    Json.find? "count" members = some (.integer report.count) ∧
    Json.find? "timestamp" members = some (.real now.value)

theorem tells_event {target : CodePoint} (one : report.target = [target]) (profile : Option Text)
    (now : Instant) : Tells report profile now (event target report profile now) :=
  ⟨target, _, rfl, one, rfl, rfl, rfl, rfl, rfl, rfl, rfl, rfl⟩

/-- An event that is read back from its line. -/
def Legible (event : Json) : Prop :=
  (∃ members, event = .object members) ∧ Json.Fits Json.maxDepth event ∧ event.joined = event

/-- The members of an event, all but the time. -/
def scanMembers (target : CodePoint) (report : Report) (profile : Option Text) :
    List (Text × Json) :=
  [("version", .text eventVersion), ("profile", profile.elim .null .text),
    ("target", .text report.target), ("target_code", .integer target.toNat),
    ("text", .text report.text), ("length", .integer report.tape.length),
    ("count", .integer report.count)]

/-- The members of an event with a time. -/
def eventMembers (target : CodePoint) (report : Report) (profile : Option Text) (time : Binary64) :
    List (Text × Json) :=
  let timestamp : Text × Json := ("timestamp", .real time)
  scanMembers target report profile ++ [timestamp]

theorem event_eq (target : CodePoint) (report : Report) (profile : Option Text) (now : Instant) :
    event target report profile now =
      .object (eventMembers target report profile now.value) := rfl

theorem fits_scanMembers (target : CodePoint) (profile : Option Text)
    (writable : isWritable report = true) :
    ∀ member ∈ scanMembers target report profile, Json.Fits 984 member.2 := by
  rw [isWritable, Bool.and_eq_true] at writable
  obtain ⟨shortCount, shortLength⟩ := writable
  have profileFits : Json.Fits 984 (profile.elim .null .text) := by
    cases profile with
    | none => exact .null
    | some name => exact .text
  exact List.forall_mem_cons.mpr ⟨.text, List.forall_mem_cons.mpr ⟨profileFits,
    List.forall_mem_cons.mpr ⟨.text,
      List.forall_mem_cons.mpr ⟨.integer (Numeral.isShort_code target),
    List.forall_mem_cons.mpr ⟨.text, List.forall_mem_cons.mpr ⟨.integer shortLength,
    List.forall_mem_cons.mpr ⟨.integer shortCount, fun _ none_ => nomatch none_⟩⟩⟩⟩⟩⟩⟩

theorem distinct_eventMembers (target : CodePoint) (report : Report) (profile : Option Text)
    (time : Binary64) :
    ((eventMembers target report profile time).map
      fun member => Json.joinHalves member.1).Nodup := by
  have distinct : ((["version", "profile", "target", "target_code", "text", "length", "count",
      "timestamp"] : List Text).map Json.joinHalves).Nodup := by decide
  exact distinct

theorem fits_event {target : CodePoint} {now : Instant} (writable : isWritable report = true)
    (readsBack : Json.ReadsBack now.value) :
    Json.Fits Json.maxDepth (event target report profile now) := by
  rw [event_eq]
  change Json.Fits (984 + 1) _
  refine .object (List.forall_mem_append.mpr ⟨fits_scanMembers target profile writable, ?_⟩)
    (distinct_eventMembers target report profile _)
  exact List.forall_mem_singleton.mpr (.real readsBack)

/-- No halves of pairs stand alone in what an event tells. -/
def IsWhole (report : Report) (profile : Option Text) : Prop :=
  report.target.isWhole = true ∧ report.text.isWhole = true ∧
    ∀ name ∈ profile, name.isWhole = true

/-- The texts of a scan without halves are read as they are. -/
theorem joinedMembers_eventMembers (whole : IsWhole report profile) (target : CodePoint)
    (time : Binary64) :
    Json.joinedMembers (eventMembers target report profile time) =
      eventMembers target report profile time := by
  obtain ⟨wholeTarget, wholeText, wholeName⟩ := whole
  have named : (profile.elim Json.null .text).joined = profile.elim .null .text := by
    cases profile with
    | none => rfl
    | some name =>
      rw [Option.elim_some, Json.joined, Json.joinHalves_of_isWhole (wholeName name rfl)]
  have texts : (Json.text report.target).joined = .text report.target ∧
      (Json.text report.text).joined = .text report.text := by
    rw [Json.joined, Json.joined, Json.joinHalves_of_isWhole wholeTarget,
      Json.joinHalves_of_isWhole wholeText]
    exact ⟨rfl, rfl⟩
  rw [eventMembers, scanMembers]
  simp only [List.cons_append, List.nil_append, Json.joinedMembers, named, texts]
  rfl

/-- An event without halves is read as it was made. -/
theorem joined_event (whole : IsWhole report profile) (target : CodePoint) (now : Instant) :
    (event target report profile now).joined = event target report profile now := by
  rw [event_eq, Json.joined, joinedMembers_eventMembers whole]

theorem legible_event {target : CodePoint} {now : Instant} (writable : isWritable report = true)
    (readsBack : Json.ReadsBack now.value) (whole : IsWhole report profile) :
    Legible (event target report profile now) :=
  ⟨⟨_, rfl⟩, fits_event writable readsBack, joined_event whole target now⟩

/-- Whatever the clock reads, the line of an event is read, and only the time may differ. -/
theorem read_event (target : CodePoint) (profile : Option Text) (now : Instant)
    (writable : isWritable report = true) :
    ∃ time, Json.read (event target report profile now).render =
      .ok (.object (Json.joinedMembers (eventMembers target report profile time))) := by
  obtain ⟨time, begins, reads⟩ := Json.reads_real now.value 984
  have fit := fits_scanMembers target profile writable
  have isTime : Json.render (.real now.value) = Json.renderReal now.value := by rw [Json.render]
  rw [← isTime] at begins reads
  have readings : List.Forall₂ (Json.ReadsMember (Json.readValue 984))
      (eventMembers target report profile now.value)
      (Json.joinedMembers (eventMembers target report profile time)) := by
    rw [Json.joinedMembers_eq_map, eventMembers, eventMembers, List.map_append]
    refine List.rel_append (List.forall₂_map_right_iff.mpr ?_) (.cons ⟨rfl, reads⟩ .nil)
    exact List.forall₂_same.mpr fun member isMember =>
      ⟨rfl, Json.reads_render (fit member isMember)⟩
  have begin_ : ∀ member ∈ eventMembers target report profile now.value,
      Json.Begins (Json.render member.2) :=
    List.forall_mem_append.mpr
      ⟨fun member isMember => (fit member isMember).begins, List.forall_mem_singleton.mpr begins⟩
  refine ⟨time, ?_⟩
  rw [event_eq]
  refine Json.read_of_reads ⟨_, _, by rw [Json.render], by decide, by decide⟩ ?_
  refine Json.reads_object readings begin_ ?_
  rw [Json.joinedMembers_eq_map, List.map_map]
  exact distinct_eventMembers target report profile time

/-! ## Lines -/

/-- The bytes of the lines of events. -/
def bytesOf (events : List Json) : List UInt8 := Utf8.encode (Text.written (events.map Json.render))

theorem bytesOf_append (events more : List Json) :
    bytesOf (events ++ more) = bytesOf events ++ bytesOf more := by
  rw [bytesOf, List.map_append, Text.written_append, Utf8.encode_append]
  rfl

/-- An event whose line is read as an event, this one or another. -/
def ReadAs (event reading : Json) : Prop :=
  (∃ members, event = .object members) ∧ Json.read event.render = .ok reading

theorem readAs_of_legible {event : Json} (legible : Legible event) : ReadAs event event :=
  ⟨legible.1, (Json.read_render legible.2.1).trans (congrArg _ legible.2.2)⟩

/-- The line of an event holds nothing but the event. -/
theorem strip_render {event : Json} (isObject : ∃ members, event = .object members) :
    (Json.render event).strip = Json.render event ∧ (Json.render event).isEmpty = false := by
  obtain ⟨members, rfl⟩ := isObject
  have whole : Json.render (.object members) =
      scalar '\x7b' :: Json.renderMembers members ++ [scalar '\x7d'] := by rw [Json.render]; rfl
  rw [whole]
  refine ⟨Text.trim_of_ends ?_ ?_, rfl⟩
  · intro c isHead
    rw [← Option.some.inj isHead]
    decide
  · intro c isLast
    rw [List.getLast?_concat] at isLast
    rw [← Option.some.inj isLast]
    decide

/-- The lines of events are read one by one. -/
theorem eventsOf_render (reads : List.Forall₂ ReadAs events readings) :
    eventsOf (events.map Json.render) = .ok readings := by
  induction reads with
  | nil => rfl
  | cons first _ ih =>
    obtain ⟨isObject, read⟩ := first
    obtain ⟨stripped, some_⟩ := strip_render isObject
    rw [List.map_cons, eventsOf]
    simp only [stripped, some_, read, ih]
    rfl

theorem eventsOfBytes_bytesOf (reads : List.Forall₂ ReadAs events readings) :
    eventsOfBytes (bytesOf events) = .ok readings := by
  have plain : ∀ line ∈ events.map Json.render, Only Json.isPlain line := by
    intro line member
    obtain ⟨event, _, rfl⟩ := List.mem_map.mp member
    exact Json.only_render event
  have noReturn : scalar '\r' ∉ Text.written (events.map Json.render) := by
    intro member
    obtain ⟨line, isLine, inLine⟩ := List.mem_flatMap.mp member
    rcases List.mem_append.mp inLine with inside | last
    · exact (plain line isLine).not_mem (by decide) inside
    · cases List.mem_singleton.mp last
  have whole : (Text.written (events.map Json.render)).isWhole = true :=
    Text.isWhole_written fun line member => Json.isWhole_of_plain (plain line member)
  rw [eventsOfBytes, bytesOf, Utf8.decode_encode whole]
  dsimp only
  rw [Text.unifyNewlines_of_noReturn noReturn,
    Text.lines_written fun line member => (plain line member).not_mem (by decide)]
  exact eventsOf_render reads

/-! ## What a log holds -/

/-- At a path stands the document of some events, or nothing but room for a first one. -/
def Holds (path : FilePath) (files : Files) (events : List Json) : Prop :=
  events = [] ∧ Files.Vacant path files ∨
    ∃ place, files.locate path = .ok place ∧ files.get? place = some (.document (bytesOf events))

theorem not_folder_of_document {place : Place} {bytes : List UInt8}
    (found : files.get? place = some (.document bytes)) : files.get? place ≠ some .folder := by
  rw [found]
  exact fun h => nomatch h

theorem read_of_document {place : Place} {bytes : List UInt8}
    (located : files.locate path = .ok place)
    (found : files.get? place = some (.document bytes)) : files.read path = .ok bytes := by
  rw [Files.read, located]
  dsimp only
  rw [found]

/-- What can be read at a path is the log. -/
theorem readEvents_of_read {bytes : List UInt8} (read : files.read path = .ok bytes) :
    readEvents files path = eventsOfBytes bytes := by
  have there : files.contains path = .ok true := by
    unfold Files.read at read
    unfold Files.contains
    cases located : files.locate path with
    | error fault => rw [located] at read; cases read
    | ok place =>
      rw [located] at read
      dsimp only at read ⊢
      cases found : files.get? place with
      | none => rw [found] at read; cases read
      | some entry => rfl
  unfold readEvents
  rw [there]
  dsimp only
  rw [read]

/-- The document of events is read as their readings. -/
theorem readEvents_of_document {place : Place} (located : files.locate path = .ok place)
    (found : files.get? place = some (.document (bytesOf events)))
    (reads : List.Forall₂ ReadAs events readings) : readEvents files path = .ok readings :=
  (readEvents_of_read (read_of_document located found)).trans (eventsOfBytes_bytesOf reads)

/-- What a log holds is what is read from it. -/
theorem readEvents_of_holds (holds : Holds path files events)
    (legible : ∀ event ∈ events, Legible event) : readEvents files path = .ok events := by
  rcases holds with ⟨rfl, vacant⟩ | ⟨place, located, found⟩
  · unfold readEvents
    rw [vacant.contains]
  · exact readEvents_of_document located found
      (List.forall₂_same.mpr fun event member => readAs_of_legible (legible event member))

/-- Lines that are added are held behind what was held. -/
theorem Holds.append (holds : Holds path files events)
    (appended : files.append path (bytesOf more) = .ok later) :
    Holds path later (events ++ more) := by
  obtain ⟨place, located, added⟩ := Files.append_eq_ok appended
  rcases holds with ⟨rfl, vacant⟩ | ⟨here, located', found⟩
  · have absent := vacant.get?_eq_none located
    have notFolder : files.get? place ≠ some .folder := by rw [absent]; exact fun h => nomatch h
    rcases added with ⟨_, rfl⟩ | ⟨bytes, present, _⟩ | ⟨content, present, _⟩
    · exact Or.inr ⟨place, Files.locate_set _ notFolder located,
        Files.get?_set_self files _ (Files.isStart_eq_false notFolder)⟩
    · rw [absent] at present
      cases present
    · rw [absent] at present
      cases present
  · cases located.symm.trans located'
    have notFolder := not_folder_of_document found
    rcases added with ⟨absent, _⟩ | ⟨bytes, present, rfl⟩ | ⟨content, present, _⟩
    · rw [found] at absent
      cases absent
    · cases found.symm.trans present
      rw [← bytesOf_append]
      exact Or.inr ⟨place, Files.locate_set _ notFolder located,
        Files.get?_set_self files _ (Files.isStart_eq_false notFolder)⟩
    · rw [found] at present
      cases present

/-- Making the folders above a log keeps what it holds. -/
theorem Holds.ensured (holds : Holds path files events) :
    ∃ made, Files.ensureFolders path.parent files = .ok () made ∧ Holds path made events := by
  rcases holds with ⟨rfl, vacant⟩ | ⟨place, located, found⟩
  · obtain ⟨made, ran, vacant'⟩ := vacant.ensured
    exact ⟨made, ran, Or.inl ⟨rfl, vacant'⟩⟩
  · have notFolder := not_folder_of_document found
    exact ⟨files, Files.ensureFolders_parent_of_locate located notFolder,
      Or.inr ⟨place, located, found⟩⟩

/-! ## Writing -/

theorem append_eq (path : FilePath) (text : Text) (before : Workspace) :
    append path text before =
      match before.files.append path (Utf8.encode text) with
      | .ok files => .ok () { before with files }
      | .error (.unworkable why) => .error (.crash (.ofUnworkable why)) before
      | .error (.obstacle _ _) => .error (.reported (.logFile path)) before := by
  unfold append
  rw [bind_of_ok (rfl : (get : Job Workspace) before = .ok before before)]
  cases before.files.append path (Utf8.encode text) with
  | ok files => rfl
  | error fault => cases fault <;> rfl

theorem append_eq_ok {text : Text} (ran : append path text before = .ok () after) :
    ∃ files, before.files.append path (Utf8.encode text) = .ok files ∧
      after = { before with files } := by
  rw [append_eq] at ran
  cases added : before.files.append path (Utf8.encode text) with
  | ok files => rw [added] at ran; cases ran; exact ⟨files, rfl, rfl⟩
  | error fault => rw [added] at ran; cases fault <;> cases ran

theorem append_error {text : Text} {failure : Failure}
    (failed : append path text before = .error failure after) : after = before := by
  rw [append_eq] at failed
  cases added : before.files.append path (Utf8.encode text) with
  | ok files => rw [added] at failed; cases failed
  | error fault => rw [added] at failed; cases fault <;> cases failed <;> rfl

theorem bytesOf_singleton (event : Json) :
    bytesOf [event] = Utf8.encode (event.render ++ [scalar '\n']) := by
  rw [bytesOf, List.map_singleton, Text.written_singleton]

/-- A scan for one character is written whole, or the document is begun and no more. -/
theorem emit_of_one {target : CodePoint} (one : report.target = [target]) :
    emit ⟨some path⟩ report profile =
      if isWritable report then
        (do append path ((event target report profile (← get).now).render ++ "\n") : Job Unit)
      else (do append path []; throw (.crash .integerTooLong) : Job Unit) := by
  obtain ⟨_, tape, count, wording⟩ := report
  cases one
  rfl

/-- A scan for one character is written where its line can be added. -/
theorem emit_of_added {target : CodePoint} (one : report.target = [target])
    (writable : isWritable report = true)
    (added : before.files.append path (bytesOf [event target report profile before.now]) =
      .ok later) :
    emit ⟨some path⟩ report profile before = .ok () { before with files := later } := by
  have line : before.files.append path
      (Utf8.encode ((event target report profile before.now).render ++ "\n")) = .ok later :=
    bytesOf_singleton (event target report profile before.now) ▸ added
  rw [emit_of_one one, if_pos writable,
    bind_of_ok (rfl : (get : Job Workspace) before = .ok before before), append_eq, line]

/-- A scan for anything else is not written. -/
theorem emit_of_not_one (many : ∀ target, report.target ≠ [target]) :
    emit ⟨some path⟩ report profile before =
      .error (.crash (.notOneCharacter report.target.length)) before := by
  obtain ⟨target, tape, count, wording⟩ := report
  rcases target with _ | ⟨first, _ | ⟨second, more⟩⟩
  · rfl
  · exact absurd rfl (many first)
  · rfl

/-- A scan that is written adds the line of its event. -/
theorem emit_eq_ok (ran : emit ⟨some path⟩ report profile before = .ok () after) :
    ∃ target files, report.target = [target] ∧ isWritable report = true ∧
      before.files.append path (bytesOf [event target report profile before.now]) = .ok files ∧
      after = { before with files } := by
  by_cases single : ∃ target, report.target = [target]
  · obtain ⟨target, one⟩ := single
    rw [emit_of_one one] at ran
    by_cases writable : isWritable report = true
    · rw [if_pos writable] at ran
      obtain ⟨_, _, read, written⟩ := bind_eq_ok.mp ran
      cases read
      obtain ⟨files, added, left⟩ := append_eq_ok written
      refine ⟨target, files, one, writable, ?_, left⟩
      have line := bytesOf_singleton (event target report profile before.now)
      rw [line]
      exact added
    · rw [if_neg writable] at ran
      obtain ⟨_, _, _, threw⟩ := bind_eq_ok.mp ran
      cases threw
  · rw [emit_of_not_one fun target one => single ⟨target, one⟩] at ran
    cases ran

/-- A scan that is not written adds no line, but the document may be there behind it. -/
theorem emit_error {failure : Failure}
    (failed : emit ⟨some path⟩ report profile before = .error failure after) :
    after = before ∨
      ∃ files, before.files.append path (bytesOf []) = .ok files ∧
        after = { before with files } := by
  by_cases single : ∃ target, report.target = [target]
  · obtain ⟨target, one⟩ := single
    rw [emit_of_one one] at failed
    by_cases writable : isWritable report = true
    · rw [if_pos writable] at failed
      rcases bind_eq_error.mp failed with unread | ⟨_, _, read, stopped⟩
      · cases unread
      · cases read
        exact Or.inl (append_error stopped)
    · rw [if_neg writable] at failed
      rcases bind_eq_error.mp failed with stopped | ⟨_, _, began, threw⟩
      · exact Or.inl (append_error stopped)
      · cases threw
        exact Or.inr (append_eq_ok began)
  · rw [emit_of_not_one fun target one => single ⟨target, one⟩] at failed
    cases failed
    exact Or.inl rfl

/-- All that a log leaves is what it added to its document, if it added anything. -/
theorem leftBy_emit_appends (log : ScanLog) (report : Report) (profile : Option Text)
    (before : Workspace) :
    ∃ files, leftBy (log.emit report profile) before = { before with files } ∧
      (files = before.files ∨
        ∃ path more, log.path = some path ∧ before.files.append path more = .ok files) := by
  obtain ⟨_ | path⟩ := log
  · exact ⟨before.files, rfl, Or.inl rfl⟩
  · cases ran : emit ⟨some path⟩ report profile before with
    | ok _ after =>
      obtain ⟨_, files, _, _, added, rfl⟩ := emit_eq_ok ran
      exact ⟨files, leftBy_of_ok ran, Or.inr ⟨path, _, rfl, added⟩⟩
    | error failure after =>
      rw [leftBy_of_error ran]
      rcases emit_error ran with rfl | ⟨files, began, rfl⟩
      · exact ⟨after.files, rfl, Or.inl rfl⟩
      · exact ⟨files, rfl, Or.inr ⟨path, _, rfl, began⟩⟩

theorem exists_files_of_emit {log : ScanLog}
    (ran : log.emit report profile before = .ok () after) :
    ∃ files, after = { before with files } := by
  obtain ⟨files, left, _⟩ := leftBy_emit_appends log report profile before
  rw [leftBy_of_ok ran] at left
  exact ⟨files, left⟩

/-- Writing to a log changes nothing but files, and no ledger among them, even if it fails. -/
theorem leftBy_emit_keeps (log : ScanLog) (report : Report) (profile : Option Text)
    (before : Workspace) :
    ∃ files, leftBy (log.emit report profile) before = { before with files } ∧
      Files.KeepsLedgers before.files files := by
  obtain ⟨files, left, same | ⟨path, more, _, added⟩⟩ :=
    leftBy_emit_appends log report profile before
  · rw [same] at left
    exact ⟨before.files, left, .refl before.files⟩
  · exact ⟨files, left, .append added⟩

/-! ## Sessions -/

/-- What is done with the logs at a path. -/
inductive Deed where
  | start
  | emit (report : Report) (profile : Option Text)

/-- No halves of pairs stand alone in what a deed writes. -/
def Deed.IsWhole : Deed → Prop
  | .start => True
  | .emit report profile => ScanLog.IsWhole report profile

/-- The job of a deed. -/
def Deed.job (path : FilePath) : Deed → Job Unit
  | .start => discard (ScanLog.start (some path))
  | .emit report profile => ScanLog.emit ⟨some path⟩ report profile

/-- The scan that a deed writes. -/
def Deed.scan? : Deed → Option (Report × Option Text)
  | .start => none
  | .emit report profile => some (report, profile)

/-- The scans of a session that were written, in order, with their times. -/
def emitted (path : FilePath) (session : List (Timed Deed)) (start : Workspace) :
    List (Timed (Report × Option Text)) :=
  (Session.answers (Deed.job path) session start).filterMap fun (moment, _) =>
    moment.deed.scan?.map fun scan => ⟨moment.now, scan⟩

/-- Opening a log makes the folders above it. -/
theorem start_of_ensured {made : Files}
    (ran : Files.ensureFolders path.parent before.files = .ok () made) :
    ScanLog.start (some path) before = .ok ⟨some path⟩ { before with files := made } := by
  unfold ScanLog.start
  refine bind_eq_ok.mpr ⟨(), { before with files := made }, ?_, rfl⟩
  rw [Job.onFiles, ran]

/-- The scan and the event belong together. -/
def Told (scan : Timed (Report × Option Text)) (event : Json) : Prop :=
  Tells scan.deed.1 scan.deed.2 scan.now event

/-- Opening a log makes folders at most, even if it fails. -/
theorem leftBy_start (log : Option FilePath) (before : Workspace) :
    ∃ opened, leftBy (ScanLog.start log) before = { before with files := opened } ∧
      Files.GrowsOn log before.files opened := by
  cases log with
  | none => exact ⟨before.files, rfl, .refl none before.files⟩
  | some path =>
    refine ⟨_, ?_, Files.leftBy_ensureFolders_grows path.parent before.files, fun place off => ?_⟩
    · unfold ScanLog.start
      rw [leftBy_bind, Job.onFiles, leftBy]
      cases Files.ensureFolders path.parent before.files with
      | ok _ made => rfl
      | error obstacle made => rfl
    · exact Files.leftBy_ensureFolders_off (off path rfl)

theorem emitted_cons (moment : Timed Deed) (rest : List (Timed Deed)) (start : Workspace) :
    emitted path (moment :: rest) start =
      emitted path [moment] start ++
        emitted path rest (Session.next (Deed.job path) start moment) := by
  rw [emitted, ← List.singleton_append, Session.answers_append, List.filterMap_append]
  rfl

/-- Behind each deed the log holds what it held, and the event of the scan if one was written. -/
theorem holds_next (moment : Timed Deed) (readsBack : Json.ReadsBack moment.now.value)
    (whole : moment.deed.IsWhole) (holds : Holds path before.files events) :
    ∃ more, Holds path (Session.next (Deed.job path) before moment).files (events ++ more) ∧
      (∀ event ∈ more, Legible event) ∧ List.Forall₂ Told (emitted path [moment] before) more := by
  obtain ⟨now, deed⟩ := moment
  cases deed with
  | start =>
    obtain ⟨made, ensured, holds'⟩ := holds.ensured
    have atNow : Files.ensureFolders path.parent ({ before with now } : Workspace).files =
        .ok () made := ensured
    have opened : Deed.job path .start { before with now } =
        .ok () { before with now, files := made } :=
      map_eq_ok.mpr ⟨_, start_of_ensured atNow, rfl⟩
    refine ⟨[], ?_, List.forall_mem_nil _, ?_⟩
    · rw [Session.next, leftBy_of_ok opened, List.append_nil]
      exact holds'
    · rw [emitted, Session.answers_singleton, Session.outcome, opened]
      exact .nil
  | emit report profile =>
    cases ran : emit ⟨some path⟩ report profile { before with now } with
    | ok value left =>
      obtain ⟨target, files, one, writable, added, rfl⟩ := emit_eq_ok ran
      refine ⟨[event target report profile now], ?_, ?_, ?_⟩
      · rw [Session.next, Deed.job, leftBy_of_ok ran]
        exact holds.append added
      · intro event member
        rw [List.mem_singleton.mp member]
        exact legible_event writable readsBack whole
      · rw [emitted, Session.answers_singleton, Session.outcome, Deed.job, ran]
        exact .cons (tells_event one profile now) .nil
    | error failure left =>
      refine ⟨[], ?_, List.forall_mem_nil _, ?_⟩
      · rw [Session.next, Deed.job, leftBy_of_error ran]
        rcases emit_error ran with rfl | ⟨files, began, rfl⟩
        · rw [List.append_nil]
          exact holds
        · exact holds.append began
      · rw [emitted, Session.answers_singleton, Session.outcome, Deed.job, ran]
        exact .nil

theorem holds_of_session {session : List (Timed Deed)}
    (clock : ∀ moment ∈ session, Json.ReadsBack moment.now.value)
    (whole : ∀ moment ∈ session, moment.deed.IsWhole) (holds : Holds path before.files events) :
    ∃ more, Holds path (Session.after (Deed.job path) session before).files (events ++ more) ∧
      (∀ event ∈ more, Legible event) ∧ List.Forall₂ Told (emitted path session before) more := by
  induction session generalizing before events with
  | nil =>
    refine ⟨[], ?_, List.forall_mem_nil _, .nil⟩
    rw [List.append_nil]
    exact holds
  | cons moment rest ih =>
    obtain ⟨readsBack, clock'⟩ := List.forall_mem_cons.mp clock
    obtain ⟨wholeFirst, whole'⟩ := List.forall_mem_cons.mp whole
    obtain ⟨first, holdsFirst, legibleFirst, toldFirst⟩ :=
      holds_next moment readsBack wholeFirst holds
    obtain ⟨others, holdsOthers, legibleOthers, toldOthers⟩ := ih clock' whole' holdsFirst
    refine ⟨first ++ others, ?_, List.forall_mem_append.mpr ⟨legibleFirst, legibleOthers⟩, ?_⟩
    · rw [← List.append_assoc]
      exact holdsOthers
    · rw [emitted_cons]
      exact List.rel_append toldFirst toldOthers

/-- **The scan log is read as it was written.** After any session of logs on one path where no file
stood at first, with texts in which no half of a pair stands alone, and with a clock whose readings
are read back from JSON, reading the log succeeds and gives one event for each scan that was
written, in order, which tells that scan. A scan that was not written has no event, and does not
keep the others from being read. -/
theorem readEvents_of_session (vacant : Files.Vacant path before.files)
    (session : List (Timed Deed)) (clock : ∀ moment ∈ session, Json.ReadsBack moment.now.value)
    (whole : ∀ moment ∈ session, moment.deed.IsWhole) :
    ∃ events,
      readEvents (Session.after (Deed.job path) session before).files path = .ok events ∧
        List.Forall₂ Told (emitted path session before) events := by
  obtain ⟨events, holds, legible, told⟩ := holds_of_session clock whole (Or.inl ⟨rfl, vacant⟩)
  exact ⟨events, readEvents_of_holds holds legible, told⟩

/-- A log is written, written in vain, opened again and written again. -/
def reopened : List (Timed Deed) :=
  let now : Instant := ⟨.finite false 7130316800000000 (-22), nofun⟩
  [⟨now, .start⟩,
    ⟨now, .emit ⟨['"'], ⟨['\r', '\n', '"', '\u2028', '\x00', 'd']⟩, 1, {}⟩ (some ['p', '\n'])⟩,
    ⟨now, .emit ⟨['d', 'd'], ⟨['d']⟩, 0, {}⟩ none⟩, ⟨now, .start⟩,
    ⟨now, .emit ⟨['d'], ⟨['d']⟩, -1, {}⟩ none⟩]

/-- Two of its three scans are read. -/
theorem readEvents_of_session_reopened :
    let path : FilePath := ⟨[], [['h']]⟩
    let start : Workspace := { files := {}, now := .last }
    ∃ events, readEvents (Session.after (Deed.job path) reopened start).files path = .ok events ∧
      List.Forall₂ Told (emitted path reopened start) events ∧ events.length = 2 := by
  intro path start
  have vacant : Files.Vacant path start.files := ⟨{}, [['h']], rfl, rfl, rfl⟩
  have clock : ∀ moment ∈ reopened, Json.ReadsBack moment.now.value :=
    List.forall_mem_cons.mpr ⟨rfl, List.forall_mem_cons.mpr ⟨rfl, List.forall_mem_cons.mpr ⟨rfl,
      List.forall_mem_cons.mpr ⟨rfl, List.forall_mem_cons.mpr ⟨rfl, List.forall_mem_nil _⟩⟩⟩⟩⟩
  have whole : ∀ moment ∈ reopened, moment.deed.IsWhole :=
    List.forall_mem_cons.mpr ⟨trivial, List.forall_mem_cons.mpr ⟨⟨rfl, rfl, by decide⟩,
      List.forall_mem_cons.mpr ⟨⟨rfl, rfl, by decide⟩, List.forall_mem_cons.mpr ⟨trivial,
        List.forall_mem_cons.mpr ⟨⟨rfl, rfl, by decide⟩, List.forall_mem_nil _⟩⟩⟩⟩⟩
  have written : (emitted path reopened start).length = 2 := by decide +kernel
  obtain ⟨events, read, told⟩ := readEvents_of_session vacant reopened clock whole
  exact ⟨events, read, told, told.length_eq.symm.trans written⟩

end CharTally.ScanLog
