import CharTally.Text.Lines
import Mathlib.Data.List.DropRight

/-!
# Lines read back

Lines that are written one after another, each with a line feed behind it, are
what `lines` cuts the text into (`lines_written`). What is written without
carriage returns is not changed by `unifyNewlines`, and `strip` does not change
what begins and ends with something visible, nor what it has stripped before. A text
may be cut in two in front of either: what follows goes on with the line that has not
been ended (`cutLines_append`), and with the blanks that had been stripped behind it
(`exists_trim_append`). What is trimmed is what stands between characters of a class and
neither begins nor ends with one of them (`exists_trimmed`, `trim_between`).
-/

namespace CharTally.Text

variable {line rest t : Text}

/-- The text of lines, each ended by a line feed. -/
def written (lines : List Text) : Text := lines.flatMap (· ++ [scalar '\n'])

theorem written_append (first second : List Text) :
    written (first ++ second) = written first ++ written second :=
  List.flatMap_append

theorem written_singleton (line : Text) : written [line] = line ++ [scalar '\n'] := by
  rw [written, List.flatMap_cons, List.flatMap_nil, List.append_nil]

theorem unifyFrom_of_noReturn (done : Text) (noReturn : scalar '\r' ∉ t) :
    unifyFrom done t = done.reverse ++ t := by
  induction t generalizing done with
  | nil => rw [unifyFrom, List.append_nil]
  | cons c rest ih =>
    have differs := List.ne_of_not_mem_cons noReturn
    have noReturn' := List.not_mem_of_not_mem_cons noReturn
    rw [unifyFrom]
    · rw [ih (c :: done) noReturn', List.reverse_cons, List.append_assoc, List.singleton_append]
    · rintro more rfl
      exact absurd rfl differs
    · rintro rfl
      exact absurd rfl differs

/-- A text without carriage returns has no line ends to unify. -/
theorem unifyNewlines_of_noReturn (noReturn : scalar '\r' ∉ t) : unifyNewlines t = t :=
  unifyFrom_of_noReturn [] noReturn

theorem isWhole_unifyFrom (done : Text) (whole : done.isWhole = true)
    (wholeRest : t.isWhole = true) :
    (unifyFrom done t).isWhole = true := by
  fun_induction unifyFrom done t
  case case1 =>
    rw [isWhole, List.all_reverse]
    exact whole
  case case2 ih => exact ih whole (isWhole_of_suffix wholeRest ⟨['\r', '\n'], rfl⟩)
  case case3 ih => exact ih whole (isWhole_of_suffix wholeRest ⟨['\r'], rfl⟩)
  case case4 c rest _ _ ih =>
    rw [isWhole_cons, Bool.and_eq_true] at wholeRest
    refine ih ?_ wholeRest.2
    rw [isWhole_cons, wholeRest.1, whole]
    rfl

theorem isWhole_unifyNewlines (whole : t.isWhole = true) : t.unifyNewlines.isWhole = true :=
  isWhole_unifyFrom [] rfl whole

/-- Line ends are unified one after another, unless a line feed follows that may belong to a
carriage return. -/
theorem unifyFrom_append (done t : Text) {more : Text} (apart : more.head? ≠ some (scalar '\n')) :
    unifyFrom done (t ++ more) = unifyFrom (unifyFrom done t).reverse more := by
  fun_induction unifyFrom done t
  case case1 => rw [List.reverse_reverse, List.nil_append]
  case case2 ih => rw [List.cons_append, List.cons_append, unifyFrom, ih]
  case case3 rest lone ih =>
    have lone' : ∀ others, rest ++ more ≠ scalar '\n' :: others := by
      intro others same
      cases rest with
      | nil => exact apart (congrArg List.head? same)
      | cons c rest => exact lone rest (congrArg (· :: rest) (List.cons.inj same).1)
    rw [List.cons_append, unifyFrom, ih]
    exact lone'
  case case4 plain ih =>
    rw [List.cons_append, unifyFrom, ih]
    · exact fun _ isReturn => absurd isReturn plain
    · exact plain

theorem unifyNewlines_append (t : Text) {more : Text} (apart : more.head? ≠ some (scalar '\n'))
    (noReturn : scalar '\r' ∉ more) : (t ++ more).unifyNewlines = t.unifyNewlines ++ more := by
  rw [unifyNewlines, unifyFrom_append [] t apart, unifyFrom_of_noReturn _ noReturn,
    List.reverse_reverse]
  rfl

/-- What follows a text is cut with the unfinished line of the text in front of it. -/
theorem cutLines_append (sofar t more : Text) :
    cutLines sofar (t ++ more) =
      ((cutLines sofar t).1 ++ (cutLines (cutLines sofar t).2.reverse more).1,
        (cutLines (cutLines sofar t).2.reverse more).2) := by
  induction t generalizing sofar with
  | nil =>
    rw [List.nil_append, cutLines, List.reverse_reverse]
    rfl
  | cons c rest ih =>
    rw [List.cons_append, cutLines, cutLines]
    by_cases ends : c = '\n'
    · rw [if_pos ends, if_pos ends, ih]
      rfl
    · rw [if_neg ends, if_neg ends, ih]

/-- A line is cut off at its line feed. -/
theorem cutLines_line (sofar : Text) (unbroken : scalar '\n' ∉ line) (rest : Text) :
    cutLines sofar (line ++ scalar '\n' :: rest) =
      ((sofar.reverse ++ line) :: (cutLines [] rest).1, (cutLines [] rest).2) := by
  induction line generalizing sofar with
  | nil =>
    rw [List.nil_append, cutLines, if_pos rfl, List.append_nil]
  | cons c more ih =>
    have differs := List.ne_of_not_mem_cons unbroken
    have unbroken' := List.not_mem_of_not_mem_cons unbroken
    rw [List.cons_append, cutLines, if_neg (Ne.symm differs), ih (c :: sofar) unbroken',
      List.reverse_cons, List.append_assoc, List.singleton_append]

theorem isWhole_written {lines : List Text} (whole : ∀ line ∈ lines, line.isWhole = true) :
    (written lines).isWhole = true := by
  rw [isWhole, List.all_eq_true]
  intro c member
  obtain ⟨line, isLine, inLine⟩ := List.mem_flatMap.mp member
  rcases List.mem_append.mp inLine with inside | last
  · exact List.all_eq_true.mp (whole line isLine) c inside
  · rw [List.mem_singleton.mp last]
    rfl

theorem cutLines_written {lines : List Text} (unbroken : ∀ line ∈ lines, scalar '\n' ∉ line) :
    cutLines [] (written lines) = (lines, []) := by
  induction lines with
  | nil => rfl
  | cons line more ih =>
    obtain ⟨first, others⟩ := List.forall_mem_cons.mp unbroken
    rw [written] at ih
    rw [written, List.flatMap_cons, List.append_assoc, List.singleton_append,
      cutLines_line [] first, ih others]
    rfl

/-- Lines are read as they were written. -/
theorem lines_written {lines : List Text} (unbroken : ∀ line ∈ lines, scalar '\n' ∉ line) :
    (written lines).lines = lines := by
  rw [Text.lines, cutLines_written unbroken]
  rfl

/-! ## Trimming -/

/-- Nothing is dropped from a text that does not begin with a character of the class. -/
theorem dropWhile_of_head {drop : CodePoint → Bool} (begins : ∀ c ∈ t.head?, drop c = false) :
    t.dropWhile drop = t := by
  cases t with
  | nil => rfl
  | cons c rest => simp [begins c rfl]

/-- Behind the characters of a class at its front, a text is what is left of it when it is trimmed,
and characters of the class. -/
theorem exists_trim_append (drop : CodePoint → Bool) (t : Text) :
    ∃ back, (∀ c ∈ back, drop c = true) ∧ t.dropWhile drop = trim drop t ++ back := by
  refine ⟨((t.dropWhile drop).reverse.takeWhile drop).reverse, ?_, ?_⟩
  · intro c member
    exact List.mem_takeWhile_imp (List.mem_reverse.mp member)
  · have parts := (t.dropWhile drop).reverse.takeWhile_append_dropWhile (p := drop)
    rw [trim, ← List.reverse_append, parts, List.reverse_reverse]

/-- A text is what is left of it when it is trimmed, between characters of the class. -/
theorem exists_trimmed (drop : CodePoint → Bool) (t : Text) :
    ∃ front back, (∀ c ∈ front, drop c = true) ∧ (∀ c ∈ back, drop c = true) ∧
      t = front ++ trim drop t ++ back := by
  obtain ⟨back, ofClass, behind⟩ := exists_trim_append drop t
  refine ⟨t.takeWhile drop, back, fun c member => List.mem_takeWhile_imp member, ofClass, ?_⟩
  rw [List.append_assoc, ← behind, List.takeWhile_append_dropWhile]

/-- What neither begins nor ends with a character of a class is left between such characters. -/
theorem trim_between {drop : CodePoint → Bool} {front body back : Text}
    (inFront : ∀ c ∈ front, drop c = true) (behind : ∀ c ∈ back, drop c = true)
    (begins : ∀ c ∈ body.head?, drop c = false) (ends : ∀ c ∈ body.getLast?, drop c = false) :
    trim drop (front ++ body ++ back) = body := by
  have behind' : ∀ c ∈ back.reverse, drop c = true := fun c member =>
    behind c (List.mem_reverse.mp member)
  rw [trim, List.append_assoc, List.dropWhile_append_of_pos inFront]
  cases body with
  | nil =>
    rw [List.nil_append, List.dropWhile_eq_nil_iff.mpr behind]
    rfl
  | cons c rest =>
    have stays : (c :: rest ++ back).dropWhile drop = c :: rest ++ back := dropWhile_of_head begins
    rw [stays, List.reverse_append, List.dropWhile_append_of_pos behind',
      dropWhile_of_head (by rwa [List.head?_reverse]), List.reverse_reverse]

/-- There is nothing to trim from a text that neither begins nor ends with a character of the
class. -/
theorem trim_of_ends {drop : CodePoint → Bool} (begins : ∀ c ∈ t.head?, drop c = false)
    (ends : ∀ c ∈ t.getLast?, drop c = false) : trim drop t = t := by
  have bare : trim drop ([] ++ t ++ []) = t :=
    trim_between (fun _ none_ => nomatch none_) (fun _ none_ => nomatch none_) begins ends
  rwa [List.nil_append, List.append_nil] at bare

/-- There is nothing to trim from a text without characters of the class. -/
theorem trim_of_none {drop : CodePoint → Bool} (none_ : ∀ c ∈ t, drop c = false) :
    trim drop t = t :=
  trim_of_ends (fun c isHead => none_ c (List.mem_of_mem_head? isHead))
    fun c isLast => none_ c (List.mem_of_getLast? isLast)

/-- There is nothing left to trim from a text that was trimmed. -/
theorem trim_trim (drop : CodePoint → Bool) (t : Text) : trim drop (trim drop t) = trim drop t := by
  -- A trimmed text is a beginning of what is left behind its front, so its first character stays.
  have begins : trim drop t <+: t.dropWhile drop := List.rdropWhile_prefix drop (t.dropWhile drop)
  have front : (trim drop t).dropWhile drop = trim drop t := by
    have behind : (t.dropWhile drop).dropWhile drop = t.dropWhile drop :=
      List.dropWhile_idempotent drop t
    rw [List.dropWhile_eq_self_iff] at behind ⊢
    intro some_
    rw [begins.getElem some_]
    exact behind (lt_of_lt_of_le some_ begins.length_le)
  calc trim drop (trim drop t)
      = List.rdropWhile drop ((trim drop t).dropWhile drop) := rfl
    _ = List.rdropWhile drop (trim drop t) := by rw [front]
    _ = trim drop t := List.rdropWhile_idempotent drop (t.dropWhile drop)

/-- In front of what begins and ends with something visible, only blanks at the front are stripped.
-/
theorem strip_append {first last : CodePoint} {middle : Text} (front : isBlank first = false)
    (back : isBlank last = false) (t : Text) :
    (t ++ first :: (middle ++ [last])).strip =
      t.dropWhile isBlank ++ first :: (middle ++ [last]) := by
  have kept : (t ++ first :: (middle ++ [last])).dropWhile isBlank =
      t.dropWhile isBlank ++ first :: (middle ++ [last]) := by
    rw [List.dropWhile_append]
    by_cases blank : (t.dropWhile isBlank).isEmpty = true
    · rw [if_pos blank, List.isEmpty_iff.mp blank, List.dropWhile_cons_of_neg (by simp [front])]
      rfl
    · rw [if_neg blank]
  have turned : (t.dropWhile isBlank ++ first :: (middle ++ [last])).reverse =
      last :: (middle.reverse ++ first :: (t.dropWhile isBlank).reverse) := by simp
  rw [strip, trim, kept, turned, List.dropWhile_cons_of_neg (by simp [back]), ← turned,
    List.reverse_reverse]

/-- Of a text that is blank the front is all. -/
theorem dropWhile_of_strip {t : Text} (blank : t.strip = []) : t.dropWhile isBlank = [] := by
  rw [strip, trim, List.reverse_eq_nil_iff, List.dropWhile_eq_nil_iff] at blank
  by_contra some_
  have stays := List.head_dropWhile_not isBlank some_
  rw [blank _ (List.mem_reverse.mpr (List.head_mem some_))] at stays
  cases stays

end CharTally.Text
