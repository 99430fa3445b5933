import EcmaTree.Diagnostic.Session
import EcmaTree.Proofs.Fallible
import EcmaTree.Proofs.Tree.Writing
import Mathlib.Tactic.Common

/-!
# What an operation does

Everything an operation does to a session is told here, once: it keeps the options and the phase, it
puts at most one diagnostic behind the record (`Session.step_diagnostics`) and at most one line into
the log, it may set or reset the memory of errors (`Session.step_hadError_iff`), and it does no
more.

A report breaks off where a text is missing.  It is recorded if its message can be written
(`Session.isSome_recorded`), and logged if the location in front of the message can be written too
(`Session.isSome_logged`).  An error is remembered either way.

What is recorded and logged depends on the operation, the options and the phase alone.  So the
record and the log of a run are what its operations give one by one (`Session.run_diagnostics`,
`Session.log_eq_filterMap`).
-/

namespace EcmaTree

/-! ### Kinds of operations -/

namespace Operation

/-- The operation reports something. -/
def isReport : Operation → Bool
  | report _ _ _ _ => true
  | reportDirectly _ _ _ _ _ => true
  | clearError => false
  | poll => false

/-- The operation reports a warning by the options of the session. -/
def isOptionalWarning : Operation → Bool
  | report .warning _ _ _ => true
  | _ => false

/-- The operation reports an error, or a warning that the options turn into one. -/
def IsFailure (o : SessionOptions) : Operation → Prop
  | report .error _ _ _ => True
  | report .warning _ _ _ => o.warningsAsErrors = true
  | reportDirectly .error _ _ _ _ => True
  | reportDirectly .warning _ _ _ _ => False
  | clearError => False
  | poll => False

/-- The operation is a report with a message that can be written. -/
def hasMessage : Operation → Bool
  | report _ _ format args => (Format.message .none format args).isOk
  | reportDirectly _ _ format args _ => (Format.message .none format args).isOk
  | clearError => false
  | poll => false

/-- The operation is a report that can be written with the location in front, which is the name of
the source for a report by the options that has none. -/
def hasLine (o : SessionOptions) : Operation → Bool
  | report _ location format args =>
    (Format.message (if location.isNone then o.sourceName else location) format args).isOk
  | reportDirectly _ location format args _ => (Format.message location format args).isOk
  | clearError => false
  | poll => false

theorem isReport_of_hasMessage {op : Operation} (h : op.hasMessage = true) :
    op.isReport = true := by
  cases op with
  | report level location format args => rfl
  | reportDirectly level location format args notes => rfl
  | clearError => cases h
  | poll => cases h

/-- Where the same operations give something on both sides, an operation gives something on both or
on none. -/
theorem none_or_some_of_isSome {α β : Type} {p : Operation → Bool} {f : Operation → Option α}
    {g : Operation → Option β} (hf : ∀ op, (f op).isSome = p op) (hg : ∀ op, (g op).isSome = p op)
    (op : Operation) :
    p op = false ∧ f op = none ∧ g op = none ∨
      p op = true ∧ ∃ x y, f op = some x ∧ g op = some y := by
  have hfop := hf op
  have hgop := hg op
  cases hp : p op with
  | false =>
    rw [hp, Option.isSome_eq_false_iff, Option.isNone_iff_eq_none] at hfop hgop
    exact .inl ⟨rfl, hfop, hgop⟩
  | true =>
    rw [hp, Option.isSome_iff_exists] at hfop hgop
    obtain ⟨x, hx⟩ := hfop
    obtain ⟨y, hy⟩ := hgop
    exact .inr ⟨rfl, x, y, hx, hy⟩

end Operation

/-! ### One report -/

theorem Text.located_of_isLocated {location : Value} (h : location.isLocated = true) (t : Text) :
    t.located location
      = location.display.map fun place => place ++ Text.ofString ": " ++ t := if_pos h

theorem Text.located_of_not_isLocated {location : Value} (h : location.isLocated = false)
    (t : Text) : t.located location = .ok t :=
  if_neg (by rw [h]; exact Bool.false_ne_true)

/-- Without a location a message is the filled format. -/
theorem Format.message_none (format : Text) (args : List Value) :
    message .none format args = fill args format := bind_pure _

/-- With a location a message is the message without it, put behind the location. -/
theorem Format.message_eq_bind (location : Value) (format : Text) (args : List Value) :
    message location format args = message .none format args >>= Text.located location := by
  rw [message_none]
  rfl

/-- A message that is the argument of the format `%s` comes out as it is. -/
theorem Format.message_of_text (location : Value) (t : Text) :
    message location (Text.ofString "%s") [.text t] = t.located location := by
  have hfill : fill [.text t] (Text.ofString "%s") = .ok t := by
    show (do
      let written ← (Value.text t).display
      let others ← fill [] []
      return written ++ others) = _
    rw [Value.display_text]
    exact congrArg Except.ok (List.append_nil t)
  rw [message, hfill]
  rfl

/-- There is no message from an argument that cannot be written. -/
theorem Format.message_of_display_eq_error (location : Value) {v : Value} {e : WritingError}
    (h : v.display = .error e) : message location (Text.ofString "%s") [v] = .error e := by
  show (do
    let filled ← (do
      let written ← v.display
      let others ← fill [] []
      return written ++ others)
    Text.located location filled) = _
  rw [h]
  rfl

/-- A report of a number with more digits than are written has no message. -/
theorem Operation.hasMessage_unwritten (level : Level) (location : Value) :
    (report level location (Text.ofString "%s") [.unwritten]).hasMessage = false := by
  rw [hasMessage, Format.message_of_display_eq_error .none Value.display_unwritten]
  rfl

namespace Reporter

/-- What is recorded of a report, its message aside. -/
def diagnosticWith (r : Reporter) (level : Level) (location : Value) (notes : List Value)
    (message : Text) : Diagnostic where
  message := .text message
  severity := .text level.label
  phase := r.phase
  span := (Span.ofLocation location).toValue
  notes := .list notes

variable (r : Reporter) (level : Level) (location : Value) (format : Text) (args notes : List Value)

theorem isError_diagnosticWith (message : Text) :
    (r.diagnosticWith level location notes message).isError = decide (level = .error) := by
  cases level <;> rfl

theorem isWarning_diagnosticWith (message : Text) :
    (r.diagnosticWith level location notes message).isWarning
      = !(r.diagnosticWith level location notes message).isError := by
  cases level <;> rfl

/-- The diagnostic for a report is missing just if the message is. -/
theorem diagnosticFor_eq :
    r.diagnosticFor level location format args notes
      = (Format.message .none format args).map (r.diagnosticWith level location notes) := by
  unfold diagnosticFor
  cases Format.message .none format args <;> rfl

/-- The line in the log is the format filled behind the location.  That it is filled in two steps
does not show. -/
theorem logLineFor_eq :
    logLineFor level location format args
      = (Format.message location format args).map (LogLine.mk level) := by
  unfold logLineFor
  rw [Format.message_none, Format.message]
  cases Format.fill args format with
  | error e => rfl
  | ok t =>
    show (do
      let text ← Format.message location (Text.ofString "%s") [.text t]
      return LogLine.mk level text) = (t.located location).map (LogLine.mk level)
    rw [Format.message_of_text]
    cases t.located location <;> rfl

end Reporter

namespace Session

variable (s t : Session) (op : Operation)

/-! ### Single steps -/

/-- The diagnostic that an operation records, if it records one. -/
def recorded (s : Session) : Operation → Option Diagnostic
  | .report level location format args =>
    (s.reporter.diagnosticFor (s.levelOf level) (s.locate location) format args
      (s.notesOf level)).toOption
  | .reportDirectly level location format args notes =>
    (s.reporter.diagnosticFor level location format args notes).toOption
  | .clearError => none
  | .poll => none

@[simp]
theorem step_options : (s.step op).options = s.options := by
  cases op <;> rfl

@[simp]
theorem step_phase : (s.step op).reporter.phase = s.reporter.phase := by
  cases op <;> rfl

theorem step_diagnostics :
    (s.step op).reporter.diagnostics = s.reporter.diagnostics ++ (s.recorded op).toList := by
  cases op with
  | report level location format args => rfl
  | reportDirectly level location format args notes => rfl
  | clearError => exact (List.append_nil _).symm
  | poll => exact (List.append_nil _).symm

section Results

variable {level : Level} {location : Value} {format : Text} {args notes : List Value}
  {d : Diagnostic} {line : LogLine} {e : WritingError}

/-- What a report by the options records: its message, at the level that the options give it. -/
theorem recorded_report_eq_some :
    s.recorded (.report level location format args) = some d ↔
      ∃ t, Format.message .none format args = .ok t ∧
        s.reporter.diagnosticWith (s.levelOf level) (s.locate location) (s.notesOf level) t
          = d := by
  rw [recorded, toOption_eq_some, Reporter.diagnosticFor_eq, map_eq_ok]

/-- What a report past the options records. -/
theorem recorded_reportDirectly_eq_some :
    s.recorded (.reportDirectly level location format args notes) = some d ↔
      ∃ t, Format.message .none format args = .ok t ∧
        s.reporter.diagnosticWith level location notes t = d := by
  rw [recorded, toOption_eq_some, Reporter.diagnosticFor_eq, map_eq_ok]

theorem logged_eq_some : s.logged op = some line ↔ s.outcome op = .ok (some line) := by
  rw [logged, Option.join_eq_some_iff, toOption_eq_some]

/-- What a report by the options logs: its message behind the location. -/
theorem logged_report_eq_some :
    s.logged (.report level location format args) = some line ↔
      ∃ u, Format.message (s.locate location) format args = .ok u ∧
        LogLine.mk (s.levelOf level) u = line := by
  simp only [logged_eq_some, outcome, map_eq_ok, Reporter.logLineFor_eq, Option.some_inj,
    exists_eq_right]

/-- What a report past the options logs. -/
theorem logged_reportDirectly_eq_some :
    s.logged (.reportDirectly level location format args notes) = some line ↔
      ∃ u, Format.message location format args = .ok u ∧ LogLine.mk level u = line := by
  simp only [logged_eq_some, outcome, map_eq_ok, Reporter.logLineFor_eq, Option.some_inj,
    exists_eq_right]

theorem raised_eq_some : s.raised op = some e ↔ s.outcome op = .error e := by
  unfold raised
  cases s.outcome op with
  | error e' => simp
  | ok logged => simp

/-- A report by the options breaks off iff its line cannot be written. -/
theorem raised_report_eq_some :
    s.raised (.report level location format args) = some e ↔
      Format.message (s.locate location) format args = .error e := by
  rw [raised_eq_some, outcome, map_eq_error, Reporter.logLineFor_eq, map_eq_error]

end Results

/-- What is seen to be added is what is recorded. -/
theorem added_eq_toList_recorded : s.added op = (s.recorded op).toList := by
  rw [added, step_diagnostics, List.drop_left]

/-- Reports with a message are recorded, and nothing else is. -/
theorem isSome_recorded : (s.recorded op).isSome = op.hasMessage := by
  have hreport : ∀ level location format args notes,
      (s.reporter.diagnosticFor level location format args notes).toOption.isSome
        = (Format.message .none format args).isOk := by
    intro level location format args notes
    rw [Reporter.diagnosticFor_eq]
    cases Format.message .none format args <;> rfl
  cases op with
  | report level location format args => exact hreport _ _ _ _ _
  | reportDirectly level location format args notes => exact hreport _ _ _ _ _
  | clearError => rfl
  | poll => rfl

/-- Reports with a line are logged, and nothing else is. -/
theorem isSome_logged : (s.logged op).isSome = op.hasLine s.options := by
  have hreport : ∀ level location format args,
      (((Reporter.logLineFor level location format args).map some).toOption.join).isSome
        = (Format.message location format args).isOk := by
    intro level location format args
    rw [Reporter.logLineFor_eq]
    cases Format.message location format args <;> rfl
  cases op with
  | report level location format args => exact hreport _ _ _ _
  | reportDirectly level location format args notes => exact hreport _ _ _ _
  | clearError => rfl
  | poll => rfl

/-- The level at which a report arrives. -/
theorem levelOf_eq_error_iff {level : Level} :
    s.levelOf level = .error ↔ level = .error ∨ s.options.warningsAsErrors = true := by
  unfold levelOf promotes
  cases level <;> simp

theorem isFailure_report_iff {level : Level} {location : Value} {format : Text}
    {args : List Value} :
    (Operation.report level location format args).IsFailure s.options ↔
      s.levelOf level = .error := by
  rw [levelOf_eq_error_iff]
  cases level <;> simp [Operation.IsFailure]

theorem isFailure_reportDirectly_iff {o : SessionOptions} {level : Level} {location : Value}
    {format : Text} {args notes : List Value} :
    (Operation.reportDirectly level location format args notes).IsFailure o ↔
      level = .error := by
  cases level <;> simp [Operation.IsFailure]

/-- The memory of errors is set by failures and reset by nothing but the request to forget. -/
theorem step_hadError_iff :
    (s.step op).reporter.hadError = true ↔
      op.IsFailure s.options ∨ s.reporter.hadError = true ∧ op ≠ .clearError := by
  cases op with
  | report level location format args =>
    rw [isFailure_report_iff]
    simp [step, Reporter.report, or_comm]
  | reportDirectly level location format args notes =>
    rw [isFailure_reportDirectly_iff]
    simp [step, Reporter.report, or_comm]
  | clearError => simp [step, Reporter.clearError, Operation.IsFailure]
  | poll => simp [step, Operation.IsFailure]

/-- What is recorded is an error just if the operation is a failure. -/
theorem isError_of_recorded {op : Operation} {d : Diagnostic} (h : s.recorded op = some d) :
    d.isError = true ↔ op.IsFailure s.options := by
  cases op with
  | report level location format args =>
    obtain ⟨t, -, rfl⟩ := s.recorded_report_eq_some.mp h
    rw [Reporter.isError_diagnosticWith, decide_eq_true_eq, isFailure_report_iff]
  | reportDirectly level location format args notes =>
    obtain ⟨t, -, rfl⟩ := s.recorded_reportDirectly_eq_some.mp h
    rw [Reporter.isError_diagnosticWith, decide_eq_true_eq, isFailure_reportDirectly_iff]
  | clearError => cases h
  | poll => cases h

/-! ### What depends on options and phase alone -/

section Congr

variable {s t}

theorem recorded_congr (ho : s.options = t.options) (hp : s.reporter.phase = t.reporter.phase) :
    s.recorded = t.recorded := by
  funext op
  unfold recorded Reporter.diagnosticFor levelOf notesOf promotes locate
  rw [ho, hp]

theorem outcome_congr (ho : s.options = t.options) : s.outcome = t.outcome := by
  funext op
  unfold outcome levelOf promotes locate
  rw [ho]

theorem logged_congr (ho : s.options = t.options) : s.logged = t.logged := by
  funext op
  rw [logged, logged, outcome_congr ho]

theorem raised_congr (ho : s.options = t.options) : s.raised = t.raised := by
  funext op
  rw [raised, raised, outcome_congr ho]

end Congr

/-! ### Runs -/

variable (ops : List Operation)

theorem run_cons : s.run (op :: ops) = (s.step op).run ops := rfl

theorem run_append (ops' : List Operation) : s.run (ops ++ ops') = (s.run ops).run ops' :=
  List.foldl_append

theorem run_append_singleton : s.run (ops ++ [op]) = (s.run ops).step op := by
  rw [run_append]
  rfl

@[simp]
theorem run_options : (s.run ops).options = s.options := by
  induction ops generalizing s with
  | nil => rfl
  | cons op ops ih => rw [run_cons, ih, step_options]

@[simp]
theorem run_phase : (s.run ops).reporter.phase = s.reporter.phase := by
  induction ops generalizing s with
  | nil => rfl
  | cons op ops ih => rw [run_cons, ih, step_phase]

/-- The record of a run is what its operations record, behind what was there before. -/
theorem run_diagnostics :
    (s.run ops).reporter.diagnostics = s.reporter.diagnostics ++ ops.filterMap s.recorded := by
  induction ops generalizing s with
  | nil => exact (List.append_nil _).symm
  | cons op ops ih =>
    have hrecorded : (s.step op).recorded = s.recorded :=
      recorded_congr (s.step_options op) (s.step_phase op)
    rw [run_cons, ih, step_diagnostics, hrecorded, List.append_assoc, List.filterMap_cons]
    cases s.recorded op <;> rfl

/-- Why the operations of a run break off is seen from each of them by itself. -/
theorem map_raised_effects : (s.effects ops).map Effect.raised = ops.map s.raised := by
  induction ops generalizing s with
  | nil => rfl
  | cons op ops ih =>
    have hraised : (s.step op).raised = s.raised := raised_congr (s.step_options op)
    rw [effects, List.map_cons, List.map_cons, ih, hraised]
    rfl

/-- The log of a run. -/
def log (s : Session) (ops : List Operation) : List LogLine :=
  (s.effects ops).filterMap Effect.logged

theorem log_eq_filterMap : s.log ops = ops.filterMap s.logged := by
  unfold log
  induction ops generalizing s with
  | nil => rfl
  | cons op ops ih =>
    have hlogged : (s.step op).logged = s.logged := logged_congr (s.step_options op)
    rw [effects, List.filterMap_cons, ih, hlogged, List.filterMap_cons]
    rfl

end Session

end EcmaTree
