import EcmaTree.Proofs.Diagnostic.Steps
import Mathlib.Data.List.Basic

/-!
# The record only grows

Whatever is done with a session, the diagnostics that it has on record stay where they are: an
operation puts at most one behind them (`Session.step_diagnostics`), and it puts one there if it is
a report with a message that can be written.  So the record of a run begins with the record of any
part of the run from the start, and has as many entries as there were such reports
(`Session.record_append_only`).  A report without a message leaves no entry, so there may be fewer
entries than reports.

Errors and warnings are two views of the record.  Since everything on record was reported at one of
the two levels, what is no error is a warning (`Session.isWarning_of_mem_diagnostics`), and the two
views split the record between them.
-/

namespace EcmaTree

/-- As many reports have a message as there are reports iff each has one. -/
theorem Operation.countP_hasMessage_eq_iff {ops : List Operation} :
    ops.countP hasMessage = ops.countP isReport ↔
      ∀ op ∈ ops, op.isReport = true → op.hasMessage = true := by
  have hreports : ops.countP hasMessage = (ops.filter isReport).countP hasMessage := by
    rw [List.countP_filter]
    apply List.countP_congr
    intro op _
    rw [Bool.and_eq_true]
    exact ⟨fun h => ⟨h, isReport_of_hasMessage h⟩, fun h => h.1⟩
  rw [hreports, List.countP_eq_length_filter (p := isReport), List.countP_eq_length]
  simp only [List.mem_filter, and_imp]

namespace Session

variable (s : Session) (op : Operation) (ops : List Operation) (o : SessionOptions)

/-! ### Growth -/

theorem diagnostics_prefix_run :
    s.reporter.diagnostics <+: (s.run ops).reporter.diagnostics := by
  rw [run_diagnostics]
  exact List.prefix_append _ _

theorem length_step_diagnostics :
    (s.step op).reporter.diagnostics.length
      = s.reporter.diagnostics.length + if op.hasMessage then 1 else 0 := by
  rw [step_diagnostics, List.length_append, ← isSome_recorded s op]
  cases s.recorded op <;> rfl

/-- A session records as much as is reported with a message. -/
theorem length_run_diagnostics :
    (s.run ops).reporter.diagnostics.length
      = s.reporter.diagnostics.length + ops.countP Operation.hasMessage := by
  induction ops generalizing s with
  | nil => rfl
  | cons op ops ih =>
    rw [run_cons, ih, length_step_diagnostics, List.countP_cons]
    omega

/-! ### Errors and warnings -/

/-- What a report puts on record is a warning iff it is no error. -/
theorem isWarning_of_recorded {d : Diagnostic} (h : s.recorded op = some d) :
    d.isWarning = !d.isError := by
  -- Only the two reports put a diagnostic on record.
  cases op with
  | report level location format args =>
    obtain ⟨t, -, rfl⟩ := s.recorded_report_eq_some.mp h
    exact Reporter.isWarning_diagnosticWith _ _ _ _ _
  | reportDirectly level location format args notes =>
    obtain ⟨t, -, rfl⟩ := s.recorded_reportDirectly_eq_some.mp h
    exact Reporter.isWarning_diagnosticWith _ _ _ _ _
  | clearError => cases h
  | poll => cases h

/-- Everything on record is either an error or a warning. -/
theorem isWarning_of_mem_diagnostics {d : Diagnostic}
    (h : d ∈ ((start o).run ops).reporter.diagnostics) : d.isWarning = !d.isError := by
  rw [run_diagnostics] at h
  obtain ⟨op, -, hop⟩ := List.mem_filterMap.mp h
  exact isWarning_of_recorded _ _ hop

/-- Errors and warnings split the record between them, each in the order of the record. -/
theorem partition_diagnostics :
    ((start o).run ops).reporter.diagnostics.partition Diagnostic.isError
      = (((start o).run ops).reporter.errors, ((start o).run ops).reporter.warnings) := by
  have hwarnings : ((start o).run ops).reporter.warnings
      = ((start o).run ops).reporter.diagnostics.filter (not ∘ Diagnostic.isError) :=
    List.filter_congr fun d hd => isWarning_of_mem_diagnostics _ _ hd
  rw [List.partition_eq_filter_filter, hwarnings]
  rfl

/-- **The record only grows.**  The record after a part of a run is the beginning of the record
after a longer part.  Whatever came before, a report with a message adds one entry and any other
operation none, so there are as many entries as reports iff each report has a message.  Errors and
warnings split the record between them.  Forgetting that there was an error takes nothing from the
record, errors included. -/
theorem record_append_only :
    (∀ i k, ((start o).run (ops.take i)).reporter.diagnostics
        <+: ((start o).run (ops.take (i + k))).reporter.diagnostics) ∧
      (∀ op, ((start o).run (ops ++ [op])).reporter.diagnostics.length
        = ((start o).run ops).reporter.diagnostics.length + if op.hasMessage then 1 else 0) ∧
      ((start o).run ops).reporter.diagnostics.length = ops.countP Operation.hasMessage ∧
      (((start o).run ops).reporter.diagnostics.length = ops.countP Operation.isReport ↔
        ∀ op ∈ ops, op.isReport = true → op.hasMessage = true) ∧
      ((start o).run ops).reporter.diagnostics.partition Diagnostic.isError
        = (((start o).run ops).reporter.errors, ((start o).run ops).reporter.warnings) ∧
      ((start o).run ops).reporter.errors.length + ((start o).run ops).reporter.warnings.length
        = ((start o).run ops).reporter.diagnostics.length ∧
      ((start o).run (ops ++ [.clearError])).reporter.hadError = false ∧
      ((start o).run (ops ++ [.clearError])).reporter.diagnostics
        = ((start o).run ops).reporter.diagnostics ∧
      ((start o).run (ops ++ [.clearError])).reporter.errors
        = ((start o).run ops).reporter.errors := by
  have hclear : ((start o).run (ops ++ [.clearError])).reporter
      = ((start o).run ops).reporter.clearError := by
    rw [run_append_singleton]
    rfl
  have hlength : ((start o).run ops).reporter.diagnostics.length
      = ops.countP Operation.hasMessage := by
    rw [length_run_diagnostics]
    exact Nat.zero_add _
  refine ⟨fun i k => ?_, fun op => ?_, hlength, ?_, partition_diagnostics ops o, ?_, ?_, ?_, ?_⟩
  -- the longer run goes on from where the shorter one ends
  · rw [List.take_add, run_append]
    exact diagnostics_prefix_run _ _
  · rw [run_append_singleton, length_step_diagnostics]
  · rw [hlength]
    exact Operation.countP_hasMessage_eq_iff
  -- the lengths of the two parts of the partition add up
  · have hsplit := partition_diagnostics ops o
    rw [List.partition_eq_filter_filter, Prod.mk.injEq] at hsplit
    rw [← hsplit.1, ← hsplit.2]
    exact (List.length_eq_length_filter_add Diagnostic.isError).symm
  · rw [hclear]
    rfl
  · rw [hclear]
    rfl
  · rw [hclear]
    rfl

/-- A report about a number with more digits than are written leaves no entry. -/
theorem record_append_only_unwritten :
    let op := Operation.report .error .none (Text.ofString "%s") [.unwritten]
    ((start {}).run [op]).reporter.diagnostics.length = 0 ∧ [op].countP Operation.isReport = 1 := by
  intro op
  refine ⟨?_, rfl⟩
  rw [length_run_diagnostics, List.countP_singleton, Operation.hasMessage_unwritten]
  rfl

end Session

end EcmaTree
