import CharTally.Failure

/-!
# Faults are told in one way

Every fault has a sentence, so it is always told as its code in brackets with the sentence
behind it (`Fault.message_eq`).
-/

namespace CharTally

theorem Target.Refusal.message_ne_nil (literal : Text) (why : Refusal) :
    why.message literal ≠ [] := by
  cases why <;> exact List.append_ne_nil_of_right_ne_nil _ (by simp)

theorem Settings.Problem.message_ne_nil (source : Source) (problem : Problem) :
    problem.message source ≠ [] := by
  cases problem <;> exact List.append_ne_nil_of_left_ne_nil (by simp) _

/-- No fault is without a sentence. -/
theorem Fault.sentence_ne_nil (fault : Fault) : fault.sentence ≠ [] := by
  cases fault with
  | settings source problem => exact problem.message_ne_nil source
  | target literal why => exact why.message_ne_nil literal
  | notAscii => exact (by simp : ("Only ASCII text can be scanned" : Text) ≠ [])
  | logFolder | logFile | ledger => exact List.append_ne_nil_of_left_ne_nil (by simp) _

/-- The sentence of a fault with its code in brackets in front. -/
def Fault.tagged (fault : Fault) : Text := "[" ++ fault.code.text ++ "] " ++ fault.sentence

/-- A fault is told with its code in front of its sentence. -/
theorem Fault.message_eq (fault : Fault) : fault.message = fault.tagged := by
  rw [message, ErrorCode.tag, if_neg]
  · rfl
  · rw [List.isEmpty_iff]
    exact fault.sentence_ne_nil

/-- What is told of a name that no profile has. -/
theorem Fault.message_unknownProfile (source : Settings.Source) (name : Text) :
    Fault.message (.settings source (.unknownProfile name)) =
      "[CONFIG_ERROR] Profile '" ++ name ++ "' not found in " ++ source.label := by
  have begins : ("[CONFIG_ERROR] Profile '" : Text) =
      "[" ++ ErrorCode.config.text ++ "] " ++ "Profile '" := by decide
  rw [message_eq, begins]
  change ("[" ++ ErrorCode.config.text ++ "] " : Text) ++
    ("Profile '" ++ name ++ "' not found in " ++ source.label) = _
  simp only [List.append_assoc]

end CharTally
