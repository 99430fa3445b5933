import EcmaTree.Diagnostic.Format

/-!
# Diagnostics and their reporter

A reporter collects the diagnostics of one compilation and remembers whether there was an error. A
report adds one diagnostic to the record and writes one line to the log. The memory of errors is
separate from the record: it is set by every error and reset only on request, and the record is
never shortened.

A report goes through its stages one by one and breaks off where a text cannot be written. By then
an error is remembered already. If the message cannot be written, nothing is recorded and nothing
logged; if the message can be written and the location in front of it cannot, the diagnostic is on
record and the line in the log is missing.
-/

namespace EcmaTree

/-- The two levels that are reported. -/
inductive Level where
  /-- Something is wrong. -/
  | error
  /-- Something may be wrong. -/
  | warning
deriving DecidableEq

/-- The severity of what is reported at a level. -/
def Level.label : Level → Text
  | error => Text.ofString "error"
  | warning => Text.ofString "warning"

/-- One entry of the record. Other tools make diagnostics too, and a diagnostic keeps what it is
given; those of a reporter have a text, a label, a span and a list of notes. -/
structure Diagnostic where
  /-- The message, without location. -/
  message : Value
  /-- How bad it is. -/
  severity : Value := .text Level.error.label
  /-- The phase of the compilation that reported it. -/
  phase : Value := .none
  /-- Where it is. -/
  span : Value := Span.unknown.toValue
  /-- Further remarks. -/
  notes : Value := .list []

namespace Diagnostic

/-- Whether the severity is that of the level. -/
def hasLevel (d : Diagnostic) (level : Level) : Bool :=
  match d.severity with
  | .text t => t = level.label
  | _ => false

/-- Whether the diagnostic is an error. -/
def isError (d : Diagnostic) : Bool := d.hasLevel .error

/-- Whether the diagnostic is a warning. -/
def isWarning (d : Diagnostic) : Bool := d.hasLevel .warning

/-- The diagnostic with an unknown span if it has no span at all. -/
def orUnknown (d : Diagnostic) : Diagnostic :=
  if d.span.isNone then { d with span := Span.unknown.toValue } else d

end Diagnostic

/-- One line of the log. -/
structure LogLine where
  /-- The level it is logged at. -/
  level : Level
  /-- Its text. -/
  text : Text
deriving DecidableEq

/-- The diagnostics of one compilation. -/
structure Reporter where
  /-- The phase that diagnostics are marked with. -/
  phase : Value := .none
  /-- The record, oldest first. -/
  diagnostics : List Diagnostic := []
  /-- Whether there was an error since the memory of errors was last reset. -/
  hadError : Bool := false

namespace Reporter

/-- The diagnostic for a report, if its message can be written. -/
def diagnosticFor (r : Reporter) (level : Level) (location : Value) (format : Text)
    (args : List Value) (notes : List Value) : Except WritingError Diagnostic := do
  let message ← Format.message .none format args
  return {
    message := .text message
    severity := .text level.label
    phase := r.phase
    span := (Span.ofLocation location).toValue
    notes := .list notes }

/-- The log line for a report, if it can be written: the message behind the location. -/
def logLineFor (level : Level) (location : Value) (format : Text) (args : List Value) :
    Except WritingError LogLine := do
  let message ← Format.message .none format args
  let text ← Format.message location (Text.ofString "%s") [.text message]
  return ⟨level, text⟩

/-- The reporter after a report. -/
def report (r : Reporter) (level : Level) (location : Value) (format : Text)
    (args : List Value) (notes : List Value) : Reporter where
  phase := r.phase
  diagnostics :=
    r.diagnostics ++ (r.diagnosticFor level location format args notes).toOption.toList
  hadError := r.hadError || level = .error

/-- The reporter without memory of errors. -/
def clearError (r : Reporter) : Reporter := { r with hadError := false }

/-- The errors of the record, in order. -/
def errors (r : Reporter) : List Diagnostic := r.diagnostics.filter Diagnostic.isError

/-- The warnings of the record, in order. -/
def warnings (r : Reporter) : List Diagnostic := r.diagnostics.filter Diagnostic.isWarning

end Reporter

end EcmaTree
