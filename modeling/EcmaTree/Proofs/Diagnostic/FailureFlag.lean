import EcmaTree.Proofs.Diagnostic.Isolation
import EcmaTree.Proofs.Diagnostic.Steps
import Mathlib.Data.List.Induction

/-!
# The memory of errors is a function of the history

Whether a session answers that there was an error can be told from the operations for it alone: one
of them was a failure, and none behind it was a request to forget (`Session.hadError_iff_history`).
What counts as a failure is up to the options only for warnings reported through the session.

An error is remembered before its message is written.  If the message cannot be written, the report
breaks off and leaves nothing on record, so a session may remember an error that no diagnostic tells
of (`Session.run_errors_ne_nil_iff`).
-/

namespace EcmaTree

/-- One of the operations is a failure, and none behind it forgets. -/
def Operation.EndsFailed (o : SessionOptions) (ops : List Operation) : Prop :=
  ∃ before op after, ops = before ++ op :: after ∧ op.IsFailure o ∧ .clearError ∉ after

namespace Operation

variable {o : SessionOptions} {ops : List Operation} {op : Operation}

theorem not_endsFailed_nil : ¬EndsFailed o [] := by
  rintro ⟨before, op, after, h, -, -⟩
  simp at h

/-- The last operation decides, unless it neither fails nor forgets. -/
theorem endsFailed_append_singleton_iff :
    EndsFailed o (ops ++ [op]) ↔ op.IsFailure o ∨ EndsFailed o ops ∧ op ≠ .clearError := by
  constructor
  · rintro ⟨before, failure, after, h, hfailure, hafter⟩
    rcases List.eq_nil_or_concat after with rfl | ⟨after, last, rfl⟩
    · -- the failure is the last operation
      obtain ⟨-, hop⟩ := List.append_inj' h rfl
      rw [List.singleton_inj.mp hop]
      exact Or.inl hfailure
    · -- the failure is further in front, and the last operation does not forget it
      rw [List.concat_eq_append, ← List.cons_append, ← List.append_assoc] at h
      obtain ⟨hops, hop⟩ := List.append_inj' h rfl
      rw [List.concat_eq_append, List.mem_append, not_or] at hafter
      refine Or.inr ⟨⟨before, failure, after, hops, hfailure, hafter.1⟩, ?_⟩
      rw [List.singleton_inj.mp hop]
      rintro rfl
      exact hafter.2 (List.mem_singleton_self _)
  · rintro (h | ⟨⟨before, failure, after, rfl, hfailure, hafter⟩, hop⟩)
    · exact ⟨ops, op, [], rfl, h, List.not_mem_nil⟩
    · refine ⟨before, failure, after ++ [op], by simp, hfailure, ?_⟩
      rw [List.mem_append, List.mem_singleton]
      rintro (h | rfl)
      · exact hafter h
      · exact hop rfl

end Operation

namespace Session

/-- The memory of a session that has run through some operations. -/
theorem run_hadError_iff (o : SessionOptions) (ops : List Operation) :
    ((start o).run ops).reporter.hadError = true ↔ Operation.EndsFailed o ops := by
  induction ops using List.reverseRecOn with
  | nil => exact iff_of_false Bool.false_ne_true Operation.not_endsFailed_nil
  | append_singleton ops op ih =>
    rw [run_append_singleton, step_hadError_iff, run_options, ih,
      Operation.endsFailed_append_singleton_iff]
    rfl

/-- There are errors on record iff some failure could be recorded. -/
theorem run_errors_ne_nil_iff (o : SessionOptions) (ops : List Operation) :
    ((start o).run ops).reporter.errors ≠ [] ↔
      ∃ op ∈ ops, op.IsFailure o ∧ op.hasMessage = true := by
  constructor
  · intro herrors
    obtain ⟨d, hd⟩ := List.exists_mem_of_ne_nil _ herrors
    rw [Reporter.errors, List.mem_filter, run_diagnostics] at hd
    obtain ⟨op, hop, hrecorded⟩ := List.mem_filterMap.mp hd.1
    refine ⟨op, hop, (isError_of_recorded _ hrecorded).mp hd.2, ?_⟩
    rw [← isSome_recorded, hrecorded]
    rfl
  · rintro ⟨op, hop, hfailure, hmessage⟩
    -- What is recorded does not depend on the state, so it is recorded wherever in the run it
    -- comes.
    rw [← isSome_recorded (start o), Option.isSome_iff_exists] at hmessage
    obtain ⟨d, hrecorded⟩ := hmessage
    apply List.ne_nil_of_mem (a := d)
    rw [Reporter.errors, List.mem_filter, run_diagnostics]
    exact ⟨List.mem_append_right _ (List.mem_filterMap.mpr ⟨op, hop, hrecorded⟩),
      (isError_of_recorded _ hrecorded).mpr hfailure⟩

/-- **The memory of errors is a function of the history.**  A session remembers an error iff one of
the operations for it was a failure and it was not asked to forget since.  Warnings past the options
never change that.  There is an error on record iff one of the failures, forgotten or not, has a
message that can be written.  So where each failure has one, what is remembered is on record. -/
theorem hadError_iff_history (options : List SessionOptions) (requests : List Request)
    (i : Fin options.length) :
    ∃ s, (runAll (options.map start) requests)[i.val]? = some s ∧
      (s.reporter.hadError = true ↔
        ∃ before op after, Request.operationsFor i requests = before ++ op :: after ∧
          op.IsFailure (options.get i) ∧ .clearError ∉ after) ∧
      (∀ location format args notes,
        (s.step (.reportDirectly .warning location format args notes)).reporter.hadError
          = s.reporter.hadError) ∧
      (s.reporter.errors ≠ [] ↔
        ∃ op ∈ Request.operationsFor i requests,
          op.IsFailure (options.get i) ∧ op.hasMessage = true) ∧
      ((∀ op ∈ Request.operationsFor i requests,
          op.IsFailure (options.get i) → op.hasMessage = true) →
        s.reporter.hadError = true → s.reporter.errors ≠ []) := by
  refine ⟨(start (options.get i)).run (Request.operationsFor i requests), ?_, run_hadError_iff _ _,
    fun location format args notes => ?_, run_errors_ne_nil_iff _ _, fun hmessages herror => ?_⟩
  · rw [getElem?_runAll, getElem?_map_start]
    rfl
  · rw [Bool.eq_iff_iff, step_hadError_iff]
    simp [Operation.IsFailure]
  · -- the failure that is remembered has a message, so it is on record
    obtain ⟨before, op, after, hops, hfailure, -⟩ := (run_hadError_iff _ _).mp herror
    have hop : op ∈ Request.operationsFor i requests := by
      rw [hops]
      exact List.mem_append_right _ List.mem_cons_self
    exact (run_errors_ne_nil_iff _ _).mpr ⟨op, hop, hfailure, hmessages op hop hfailure⟩

/-- An error about a number with more digits than are written is remembered, and not on record. -/
theorem hadError_iff_history_unwritten :
    let op := Operation.report .error .none (Text.ofString "%s") [.unwritten]
    ((start {}).run [op]).reporter.hadError = true ∧
      ((start {}).run [op]).reporter.errors = [] := by
  intro op
  refine ⟨rfl, ?_⟩
  rw [← not_ne_iff, run_errors_ne_nil_iff]
  rintro ⟨op', hop', -, hmessage⟩
  obtain rfl := List.mem_singleton.mp hop'
  rw [Operation.hasMessage_unwritten] at hmessage
  cases hmessage

end Session

end EcmaTree
