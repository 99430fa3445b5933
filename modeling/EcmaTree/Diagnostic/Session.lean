import EcmaTree.Diagnostic.Reporter

/-!
# Compilation sessions

A session owns the reporter of one compilation and decides, by its options, how reports reach it:
a missing location is replaced by the name of the source, and warnings can be promoted to errors.
Reports can also go to the reporter directly, past the options. Sessions share nothing, so an
operation on one of several sessions changes that one alone. A report that breaks off leaves its
session in order, and the operations behind it still run.
-/

namespace EcmaTree

/-- How a session reports. -/
structure SessionOptions where
  /-- What stands for a missing location. -/
  sourceName : Value := .none
  /-- The phase that diagnostics are marked with. -/
  phase : Value := .none
  /-- Whether warnings are reported as errors. -/
  warningsAsErrors : Bool := false

/-- One compilation. -/
structure Session where
  /-- How it reports. -/
  options : SessionOptions
  /-- What it has reported. -/
  reporter : Reporter

/-- What can be done with a session. -/
inductive Operation where
  /-- A report by the options of the session. -/
  | report (level : Level) (location : Value) (format : Text) (args : List Value)
  /-- A report past the options. -/
  | reportDirectly (level : Level) (location : Value) (format : Text) (args : List Value)
    (notes : List Value)
  /-- Forgetting that there was an error. -/
  | clearError
  /-- Asking whether there was an error. -/
  | poll

/-- An operation for one of several sessions. -/
structure Request where
  /-- The number of the session. -/
  session : Nat
  /-- What is to be done with it. -/
  operation : Operation

/-- What is seen of an operation. -/
structure Effect where
  /-- The line that it writes to the log, if it writes one. -/
  logged : Option LogLine
  /-- Why it breaks off, if it does. -/
  raised : Option WritingError
  /-- The diagnostics that it adds to the record. -/
  added : List Diagnostic
  /-- Whether there was an error, asked afterwards. -/
  hadError : Bool
  /-- How many errors are on record afterwards. -/
  errorCount : Nat
  /-- How many warnings are on record afterwards. -/
  warningCount : Nat

namespace Session

/-- A session that has not reported anything. -/
def start (options : SessionOptions) : Session where
  options := options
  reporter := { phase := options.phase }

/-- The note on a warning that is reported as an error. -/
def promotionNote : Text :=
  Text.ofString "reported as an error because warnings_as_errors is set"

/-- The location that a report through the session has. -/
def locate (s : Session) (location : Value) : Value :=
  if location.isNone then s.options.sourceName else location

/-- Whether the session promotes reports of a level. -/
def promotes (s : Session) (level : Level) : Bool :=
  level = .warning && s.options.warningsAsErrors

/-- The level at which a report through the session arrives. -/
def levelOf (s : Session) (level : Level) : Level := if s.promotes level then .error else level

/-- The notes that a report through the session gets. -/
def notesOf (s : Session) (level : Level) : List Value :=
  if s.promotes level then [.text promotionNote] else []

/-- The session after an operation. -/
def step (s : Session) : Operation → Session
  | .report level location format args =>
    { s with reporter :=
        s.reporter.report (s.levelOf level) (s.locate location) format args (s.notesOf level) }
  | .reportDirectly level location format args notes =>
    { s with reporter := s.reporter.report level location format args notes }
  | .clearError => { s with reporter := s.reporter.clearError }
  | .poll => s

/-- What comes of an operation: the log line that it writes, if it writes one, or why it breaks
off. -/
def outcome (s : Session) : Operation → Except WritingError (Option LogLine)
  | .report level location format args =>
    (Reporter.logLineFor (s.levelOf level) (s.locate location) format args).map some
  | .reportDirectly level location format args _ =>
    (Reporter.logLineFor level location format args).map some
  | .clearError => .ok none
  | .poll => .ok none

/-- The log line that an operation writes, if it writes one. -/
def logged (s : Session) (op : Operation) : Option LogLine := (s.outcome op).toOption.join

/-- Why an operation breaks off, if it does. -/
def raised (s : Session) (op : Operation) : Option WritingError :=
  match s.outcome op with
  | .ok _ => none
  | .error e => some e

/-- The diagnostics that an operation adds to the record. -/
def added (s : Session) (op : Operation) : List Diagnostic :=
  (s.step op).reporter.diagnostics.drop s.reporter.diagnostics.length

/-- The session after a sequence of operations. -/
def run (s : Session) (ops : List Operation) : Session := ops.foldl step s

/-- What is seen of an operation. -/
def effect (s : Session) (op : Operation) : Effect where
  logged := s.logged op
  raised := s.raised op
  added := s.added op
  hadError := (s.step op).reporter.hadError
  errorCount := (s.step op).reporter.errors.length
  warningCount := (s.step op).reporter.warnings.length

/-- What is seen of a sequence of operations. -/
def effects (s : Session) : List Operation → List Effect
  | [] => []
  | op :: ops => s.effect op :: (s.step op).effects ops

/-! ### Several sessions -/

/-- The sessions after an operation on the one at `index`. -/
def stepAt (sessions : List Session) (index : Nat) (op : Operation) : List Session :=
  sessions.modify index fun s => s.step op

/-- The sessions after a sequence of requests. -/
def runAll (sessions : List Session) (requests : List Request) : List Session :=
  requests.foldl (fun sessions r => stepAt sessions r.session r.operation) sessions

/-- What is seen of a sequence of requests, each time with the number of the session. Of a request
for a session that is not there nothing is seen. -/
def transcript (sessions : List Session) : List Request → List (Nat × Option Effect)
  | [] => []
  | r :: requests =>
    (r.session, (sessions[r.session]?).map fun s => s.effect r.operation)
      :: transcript (stepAt sessions r.session r.operation) requests

end Session

end EcmaTree
