import EcmaTree.Proofs.Diagnostic.FailureFlag

/-!
# Promotion changes levels and notes alone

Two sessions whose options differ in the promotion of warnings alone are given the same operations.
They record the same messages at the same places under the same phases, log the same texts, and
break off the same reports (`Session.raised_promoting`), since no text depends on the level.  The
only reports they treat differently are warnings by the options, which the promoting session records
and logs as errors, with one note (`Session.promotion_changes_level_and_notes`).

Since a failure of the session that does not promote is a failure of the one that does, and both
forget at the same time, the first never remembers an error that the second does not.
-/

namespace EcmaTree

/-- The options with the promotion of warnings switched on or off. -/
def SessionOptions.promoting (o : SessionOptions) (b : Bool) : SessionOptions :=
  { o with warningsAsErrors := b }

namespace Operation

/-- What one operation records without promotion and with it. -/
structure DiagnosticsAgree (op : Operation) (off on : Diagnostic) : Prop where
  message : off.message = on.message
  span : off.span = on.span
  phase : off.phase = on.phase
  promoted : op.isOptionalWarning = true →
    off.severity = .text Level.warning.label ∧ off.notes = .list [] ∧
      on.severity = .text Level.error.label ∧ on.notes = .list [.text Session.promotionNote]
  same : op.isOptionalWarning = false → off = on

/-- What one operation logs without promotion and with it. -/
structure LinesAgree (op : Operation) (off on : LogLine) : Prop where
  text : off.text = on.text
  promoted : op.isOptionalWarning = true → off.level = .warning ∧ on.level = .error
  same : op.isOptionalWarning = false → off.level = on.level

/-- Two lists with one entry for each operation, which agree position by position. -/
inductive Lockstep {α : Type} (agree : Operation → α → α → Prop) :
    List Operation → List α → List α → Prop
  | nil : Lockstep agree [] [] []
  | cons {op : Operation} {x y : α} {ops : List Operation} {xs ys : List α} (h : agree op x y)
    (hs : Lockstep agree ops xs ys) : Lockstep agree (op :: ops) (x :: xs) (y :: ys)

section Lockstep

variable {α : Type} {agree : Operation → α → α → Prop} {ops : List Operation}

theorem Lockstep.length_eq {xs ys : List α} (h : Lockstep agree ops xs ys) :
    xs.length = ys.length := by
  induction h with
  | nil => rfl
  | cons h hs ih => rw [List.length_cons, List.length_cons, ih]

/-- Lists of what the same operations give are in lockstep if the two results of each agree. -/
theorem lockstep_filterMap {p : Operation → Bool} {f g : Operation → Option α}
    (hf : ∀ op, (f op).isSome = p op) (hg : ∀ op, (g op).isSome = p op)
    (h : ∀ op x y, f op = some x → g op = some y → agree op x y) (ops : List Operation) :
    Lockstep agree (ops.filter p) (ops.filterMap f) (ops.filterMap g) := by
  -- One operation at a time: either both sides have nothing of it, or both have one entry.
  induction ops with
  | nil => exact Lockstep.nil
  | cons op ops ih =>
    rw [List.filter_cons, List.filterMap_cons, List.filterMap_cons]
    obtain ⟨hp, hfop, hgop⟩ | ⟨hp, x, y, hx, hy⟩ := none_or_some_of_isSome hf hg op
    · rw [hp, hfop, hgop]
      exact ih
    · rw [hp, hx, hy]
      exact Lockstep.cons (h op x y hx hy) ih

end Lockstep

/-- Without promotion fewer operations are failures. -/
theorem IsFailure.promoting {o : SessionOptions} {op : Operation}
    (h : op.IsFailure (o.promoting false)) : op.IsFailure (o.promoting true) := by
  cases op with
  | report level location format args =>
    cases level with
    | error => trivial
    | warning => rfl
  | reportDirectly level location format args notes =>
    -- Past the options nothing is promoted, so only an error is a failure.
    cases level with
    | error => trivial
    | warning => exact h.elim
  | clearError => exact h.elim
  | poll => exact h.elim

end Operation

namespace Session

variable (o : SessionOptions)

/-- The same reports can be logged with promotion and without. -/
theorem hasLine_promoting (b : Bool) :
    Operation.hasLine (o.promoting b) = Operation.hasLine o := by
  funext op
  cases op <;> rfl

/-- The same reports break off with promotion and without, each for the same reason. -/
theorem raised_promoting :
    (start (o.promoting false)).raised = (start (o.promoting true)).raised := by
  funext op
  cases op with
  | report level location format args =>
    apply Option.ext
    intro e
    rw [raised_report_eq_some, raised_report_eq_some]
    exact Iff.rfl
  | reportDirectly level location format args notes => rfl
  | clearError => rfl
  | poll => rfl

theorem diagnosticsAgree_recorded (op : Operation) (d e : Diagnostic)
    (hd : (start (o.promoting false)).recorded op = some d)
    (he : (start (o.promoting true)).recorded op = some e) : op.DiagnosticsAgree d e := by
  cases op with
  | report level location format args =>
    -- there is one message, and it is the message of both
    obtain ⟨t, ht, rfl⟩ := (recorded_report_eq_some _).mp hd
    obtain ⟨u, hu, rfl⟩ := (recorded_report_eq_some _).mp he
    obtain rfl := Except.ok.inj (ht.symm.trans hu)
    cases level with
    | error => exact ⟨rfl, rfl, rfl, fun h => (nomatch h), fun _ => rfl⟩
    | warning => exact ⟨rfl, rfl, rfl, fun _ => ⟨rfl, rfl, rfl, rfl⟩, fun h => (nomatch h)⟩
  | reportDirectly level location format args notes =>
    obtain ⟨t, ht, rfl⟩ := (recorded_reportDirectly_eq_some _).mp hd
    obtain ⟨u, hu, rfl⟩ := (recorded_reportDirectly_eq_some _).mp he
    obtain rfl := Except.ok.inj (ht.symm.trans hu)
    exact ⟨rfl, rfl, rfl, fun h => (nomatch h), fun _ => rfl⟩
  | clearError => cases hd
  | poll => cases hd

theorem linesAgree_logged (op : Operation) (l m : LogLine)
    (hl : (start (o.promoting false)).logged op = some l)
    (hm : (start (o.promoting true)).logged op = some m) : op.LinesAgree l m := by
  cases op with
  | report level location format args =>
    obtain ⟨t, ht, rfl⟩ := (logged_report_eq_some _).mp hl
    obtain ⟨u, hu, rfl⟩ := (logged_report_eq_some _).mp hm
    obtain rfl := Except.ok.inj (ht.symm.trans hu)
    cases level with
    | error => exact ⟨rfl, fun h => (nomatch h), fun _ => rfl⟩
    | warning => exact ⟨rfl, fun _ => ⟨rfl, rfl⟩, fun h => (nomatch h)⟩
  | reportDirectly level location format args notes =>
    obtain ⟨t, ht, rfl⟩ := (logged_reportDirectly_eq_some _).mp hl
    obtain ⟨u, hu, rfl⟩ := (logged_reportDirectly_eq_some _).mp hm
    obtain rfl := Except.ok.inj (ht.symm.trans hu)
    exact ⟨rfl, fun h => (nomatch h), fun _ => rfl⟩
  | clearError => cases hl
  | poll => cases hl

/-- A promoting session remembers an error whenever the other one does. -/
theorem hadError_promoting (ops : List Operation)
    (h : ((start (o.promoting false)).run ops).reporter.hadError = true) :
    ((start (o.promoting true)).run ops).reporter.hadError = true := by
  -- The operations are the same, so the failure is followed by the same ones in both sessions.
  rw [run_hadError_iff] at h ⊢
  obtain ⟨before, op, after, hops, hfailure, hafter⟩ := h
  exact ⟨before, op, after, hops, hfailure.promoting, hafter⟩

/-- **Promotion changes levels and notes alone.**  Of the same operations two sessions record and
log equally much: one diagnostic for each report with a message that can be written, and one line
for each that can be written with the location in front.  The other reports break off in both, for
the same reasons.  Only a warning by the options arrives at another level, and with a note.  At no
time does the session without promotion remember an error that the other one does not. -/
theorem promotion_changes_level_and_notes (ops : List Operation) :
    ((start (o.promoting false)).run ops).reporter.diagnostics.length
        = ((start (o.promoting true)).run ops).reporter.diagnostics.length ∧
      Operation.Lockstep Operation.DiagnosticsAgree (ops.filter Operation.hasMessage)
        ((start (o.promoting false)).run ops).reporter.diagnostics
        ((start (o.promoting true)).run ops).reporter.diagnostics ∧
      Operation.Lockstep Operation.LinesAgree (ops.filter (Operation.hasLine o))
        ((start (o.promoting false)).log ops) ((start (o.promoting true)).log ops) ∧
      ((start (o.promoting false)).effects ops).map Effect.raised
        = ((start (o.promoting true)).effects ops).map Effect.raised ∧
      ∀ k, ((start (o.promoting false)).run (ops.take k)).reporter.hadError = true →
        ((start (o.promoting true)).run (ops.take k)).reporter.hadError = true := by
  -- Record and log of a run are those of its operations in the session it starts from.
  have hline : ∀ b op, ((start (o.promoting b)).logged op).isSome = Operation.hasLine o op := by
    intro b op
    rw [isSome_logged, ← hasLine_promoting o b]
    rfl
  have hrecord := Operation.lockstep_filterMap (isSome_recorded _) (isSome_recorded _)
    (diagnosticsAgree_recorded o) ops
  have hlog := Operation.lockstep_filterMap (hline false) (hline true) (linesAgree_logged o) ops
  rw [← log_eq_filterMap, ← log_eq_filterMap] at hlog
  rw [run_diagnostics, run_diagnostics, map_raised_effects, map_raised_effects, raised_promoting]
  exact ⟨hrecord.length_eq, hrecord, hlog, rfl, fun k => hadError_promoting o (ops.take k)⟩

end Session

end EcmaTree
