import CharTally.Workspace

/-!
# Sessions

Work may fail and leaves something behind either way. `leftBy` names what it leaves,
`bind_eq_ok` and `bind_eq_error` take apart work that is done in two steps, and `Job.Keeps`
says that a job keeps a property of workspaces, whether or not it fails.

A session is a list of deeds, each with the time at which it is done. Every deed
is done, also behind one that failed: `Session.after` is the workspace in the end and
`Session.answers` holds the deeds that succeeded with their answers. Both follow a
session that is put together from two (`after_append`, `answers_append`).
-/

namespace CharTally

section Work

variable {ε σ α β : Type}

/-- What work leaves behind, whether or not it fails. -/
def leftBy (work : EStateM ε σ α) (before : σ) : σ :=
  match work before with
  | .ok _ after | .error _ after => after

theorem leftBy_of_ok {work : EStateM ε σ α} {before after : σ} {value : α}
    (run : work before = .ok value after) : leftBy work before = after := by
  rw [leftBy, run]

theorem leftBy_of_error {work : EStateM ε σ α} {before after : σ} {failure : ε}
    (run : work before = .error failure after) : leftBy work before = after := by
  rw [leftBy, run]

/-- Two steps succeed when the first does and then the second. -/
theorem bind_eq_ok {first : EStateM ε σ α} {second : α → EStateM ε σ β} {before after : σ}
    {value : β} :
    (first >>= second) before = .ok value after ↔
      ∃ found middle, first before = .ok found middle ∧ second found middle = .ok value after := by
  constructor
  · intro run
    change EStateM.bind first second before = .ok value after at run
    unfold EStateM.bind at run
    cases ran : first before with
    | ok found middle => rw [ran] at run; exact ⟨found, middle, rfl, run⟩
    | error failure middle => rw [ran] at run; cases run
  · rintro ⟨found, middle, ran, run⟩
    change EStateM.bind first second before = .ok value after
    rw [EStateM.bind, ran]
    exact run

/-- Two steps fail when the first does, or when it succeeds and the second fails. -/
theorem bind_eq_error {first : EStateM ε σ α} {second : α → EStateM ε σ β} {before after : σ}
    {failure : ε} :
    (first >>= second) before = .error failure after ↔
      first before = .error failure after ∨
        ∃ found middle, first before = .ok found middle ∧
          second found middle = .error failure after := by
  constructor
  · intro run
    change EStateM.bind first second before = .error failure after at run
    unfold EStateM.bind at run
    cases ran : first before with
    | ok found middle => rw [ran] at run; exact Or.inr ⟨found, middle, rfl, run⟩
    | error other middle => rw [ran] at run; cases run; exact Or.inl rfl
  · rintro (ran | ⟨found, middle, ran, run⟩)
    · change EStateM.bind first second before = .error failure after
      rw [EStateM.bind, ran]
    · change EStateM.bind first second before = .error failure after
      rw [EStateM.bind, ran]
      exact run

theorem bind_of_ok {first : EStateM ε σ α} {second : α → EStateM ε σ β} {before middle : σ}
    {found : α} (ran : first before = .ok found middle) :
    (first >>= second) before = second found middle := by
  change EStateM.bind first second before = second found middle
  rw [EStateM.bind, ran]

/-- What two steps leave is left by the second, or by the first if it fails. -/
theorem leftBy_bind (first : EStateM ε σ α) (second : α → EStateM ε σ β) (before : σ) :
    leftBy (first >>= second) before =
      match first before with
      | .ok found middle => leftBy (second found) middle
      | .error _ after => after := by
  change leftBy (EStateM.bind first second) before = _
  rw [leftBy, EStateM.bind]
  cases first before with
  | ok found middle => rfl
  | error failure after => rfl

theorem map_eq_ok {f : α → β} {work : EStateM ε σ α} {before after : σ} {answer : β} :
    (f <$> work) before = .ok answer after ↔
      ∃ value, work before = .ok value after ∧ answer = f value := by
  change EStateM.map f work before = .ok answer after ↔ _
  unfold EStateM.map
  cases work before with
  | ok found left =>
    constructor
    · intro run
      cases run
      exact ⟨found, rfl, rfl⟩
    · rintro ⟨_, ⟨rfl, rfl⟩, rfl⟩
      rfl
  | error failure left =>
    constructor
    · intro run
      cases run
    · rintro ⟨_, run, _⟩
      cases run

theorem map_eq_error {f : α → β} {work : EStateM ε σ α} {before after : σ} {failure : ε} :
    (f <$> work) before = .error failure after ↔ work before = .error failure after := by
  change EStateM.map f work before = .error failure after ↔ _
  rw [EStateM.map]
  cases work before with
  | ok found left => simp
  | error other left => simp

/-- An answer that is told differently leaves the same. -/
theorem leftBy_map (f : α → β) (work : EStateM ε σ α) (before : σ) :
    leftBy (f <$> work) before = leftBy work before := by
  change leftBy (EStateM.map f work) before = leftBy work before
  rw [leftBy, leftBy, EStateM.map]
  cases work before <;> rfl

end Work

/-! ## What jobs keep -/

/-- A job keeps a property of workspaces: what it leaves has the property, even if it fails. -/
def Job.Keeps {α : Type} (good : Workspace → Prop) (job : Job α) : Prop :=
  ∀ before, good before → good (leftBy job before)

namespace Job.Keeps

variable {α β : Type} {good : Workspace → Prop}

/-- What a job that succeeds leaves has the property too. -/
theorem of_ok {job : Job α} {before after : Workspace} {value : α} (keeps : Keeps good job)
    (isGood : good before) (ran : job before = .ok value after) : good after := by
  have left := keeps before isGood
  rw [leftBy_of_ok ran] at left
  exact left

/-- A job that changes nothing keeps everything. -/
theorem of_idle {job : Job α} (idle : ∀ before, leftBy job before = before) : Keeps good job := by
  intro before isGood
  rw [idle before]
  exact isGood

theorem bind {first : Job α} {second : α → Job β} (keeps : Keeps good first)
    (then_ : ∀ value, Keeps good (second value)) : Keeps good (first >>= second) := by
  intro before isGood
  have middle := keeps before isGood
  rw [leftBy_bind]
  cases ran : first before with
  | error failure left =>
    rw [leftBy_of_error ran] at middle
    exact middle
  | ok value left =>
    rw [leftBy_of_ok ran] at middle
    exact then_ value left middle

/-- What is read of a workspace with the property is known to have it. -/
theorem bind_get {second : Workspace → Job β}
    (then_ : ∀ found, good found → Keeps good (second found)) : Keeps good (get >>= second) := by
  intro before isGood
  rw [leftBy_bind]
  exact then_ before isGood before isGood

theorem map (f : α → β) {job : Job α} (keeps : Keeps good job) : Keeps good (f <$> job) := by
  intro before isGood
  rw [leftBy_map]
  exact keeps before isGood

theorem modify {change : Workspace → Workspace}
    (keeps : ∀ before, good before → good (change before)) : Keeps good (modify change) :=
  keeps

theorem ofExcept (result : Except Failure α) : Keeps good (Job.ofExcept result) := by
  cases result with
  | ok value => exact of_idle fun _ => rfl
  | error failure => exact of_idle fun _ => rfl

theorem forM {items : List α} {job : α → Job PUnit} (keeps : ∀ item, Keeps good (job item)) :
    Keeps good (items.forM job) := by
  induction items with
  | nil => exact of_idle fun _ => rfl
  | cons item rest ih => exact (keeps item).bind fun _ => ih

end Job.Keeps

/-! ## Sessions -/

/-- Something that is done, and the time at which it is done. -/
structure Timed (α : Type) where
  now : Instant
  deed : α

/-- The time behind all others. -/
def Instant.last : Instant := ⟨.infinite false, nofun⟩

namespace Session

variable {α β : Type} (job : α → Job β)

/-- What comes of a deed at its time. -/
def outcome (moment : Timed α) (workspace : Workspace) : EStateM.Result Failure Workspace β :=
  job moment.deed { workspace with now := moment.now }

/-- The workspace behind a deed. -/
def next (workspace : Workspace) (moment : Timed α) : Workspace :=
  leftBy (job moment.deed) { workspace with now := moment.now }

/-- The workspace behind a session. -/
def after (session : List (Timed α)) (workspace : Workspace) : Workspace :=
  session.foldl (next job) workspace

/-- The deeds of a session that succeed, with their answers. -/
def answers : List (Timed α) → Workspace → List (Timed α × β)
  | [], _ => []
  | moment :: rest, workspace =>
    match outcome job moment workspace with
    | .ok answer _ => (moment, answer) :: answers rest (next job workspace moment)
    | .error _ _ => answers rest (next job workspace moment)

@[simp] theorem after_nil (workspace : Workspace) : after job [] workspace = workspace := rfl

@[simp] theorem after_cons (moment : Timed α) (rest : List (Timed α)) (workspace : Workspace) :
    after job (moment :: rest) workspace = after job rest (next job workspace moment) := rfl

theorem after_append (earlier later : List (Timed α)) (workspace : Workspace) :
    after job (earlier ++ later) workspace = after job later (after job earlier workspace) :=
  List.foldl_append

theorem answers_append (earlier later : List (Timed α)) (workspace : Workspace) :
    answers job (earlier ++ later) workspace =
      answers job earlier workspace ++ answers job later (after job earlier workspace) := by
  induction earlier generalizing workspace with
  | nil => rfl
  | cons moment rest ih =>
    rw [List.cons_append, answers, answers, after_cons]
    cases outcome job moment workspace with
    | ok answer left => rw [ih, List.cons_append]
    | error failure left => rw [ih]

/-- What every deed keeps at its time, a session keeps. -/
theorem keeps_after {good : Workspace → Prop} {session : List (Timed α)} {workspace : Workspace}
    (keeps : ∀ moment ∈ session, ∀ before, good before → good (next job before moment))
    (isGood : good workspace) : good (after job session workspace) := by
  induction session generalizing workspace with
  | nil => exact isGood
  | cons moment rest ih =>
    obtain ⟨first, others⟩ := List.forall_mem_cons.mp keeps
    exact ih others (first workspace isGood)

/-- What is answered to a single deed. -/
theorem answers_singleton (moment : Timed α) (workspace : Workspace) :
    answers job [moment] workspace =
      match outcome job moment workspace with
      | .ok answer _ => [(moment, answer)]
      | .error _ _ => [] := rfl

end Session

end CharTally
