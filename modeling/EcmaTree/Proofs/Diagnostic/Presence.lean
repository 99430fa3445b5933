import EcmaTree.Proofs.Diagnostic.RecordAndLog

/-!
# Whether there is a location

Whether a report has a location is decided twice.  The line in the log begins with the location if
it is worth mentioning, and the diagnostic on record has a span, which may be unknown.

A span is worth mentioning just if it is not unknown.  From any other location a span is made that
keeps it, and so is never unknown, where the location itself is worth mentioning only if it counts
as true (`Value.location_outcome`).  So a line in the log mentions a place iff the record knows one,
for all locations but those that do not count as true, such as the empty text, zero and `false`.
These are left out of the log on purpose, as if there were no location, and stay on record
(`Session.log_placed_iff_span_known`).
-/

namespace EcmaTree

/-! ### Lines with a place -/

/-- The line has a place in front of the message. -/
def LogLine.IsPlaced (line : LogLine) (message : Text) : Prop :=
  ∃ place : Text, line.text = place ++ Text.ofString ": " ++ message

theorem LogLine.not_isPlaced {line : LogLine} {message : Text} (h : line.text = message) :
    ¬ line.IsPlaced message := by
  rintro ⟨place, hplace⟩
  have hlength := congrArg List.length (h.symm.trans hplace)
  have hcolon : (Text.ofString ": ").length = 2 := rfl
  rw [List.length_append, List.length_append, hcolon] at hlength
  omega

/-- A line has a place in front of its message iff the location is worth mentioning. -/
theorem TellSame.isPlaced_iff {phase location : Value} {t : Text} {d : Diagnostic} {line : LogLine}
    (h : TellSame phase location t d line) : line.IsPlaced t ↔ location.isLocated = true := by
  cases hlocated : location.isLocated with
  | true =>
    obtain ⟨place, -, htext⟩ := h.located hlocated
    exact iff_of_true ⟨place, htext⟩ rfl
  | false => exact iff_of_false (LogLine.not_isPlaced (h.notLocated hlocated)) Bool.false_ne_true

/-! ### Locations and their spans -/

/-- A span is worth mentioning iff it is not unknown. -/
theorem Span.isLocated_toValue (s : Span) : s.toValue.isLocated = !s.isUnknown := rfl

/-- What becomes of a location: nothing is no location, a span is one by itself, and a span that is
made from anything else keeps it. -/
theorem Value.location_outcome (v : Value) :
    v = .none ∨ (∃ s : Span, v = s.toValue) ∨
      (v.isLocated = v.isTruthy ∧ (Span.ofLocation v).raw = v ∧
        (Span.ofLocation v).isUnknown = false) := by
  cases v with
  | none => exact .inl rfl
  | span file line column endLine endColumn raw =>
    exact .inr (.inl ⟨⟨file, line, column, endLine, endColumn, raw⟩, rfl⟩)
  | _ => exact .inr (.inr ⟨rfl, rfl, Bool.and_false _⟩)

/-- What is missing or counts as true is worth mentioning iff its span is not unknown. -/
theorem Value.isLocated_iff_of_isTruthy {v : Value} (h : v = .none ∨ v.isTruthy = true) :
    v.isLocated = true ↔ (Span.ofLocation v).isUnknown = false := by
  rcases v.location_outcome with rfl | ⟨s, rfl⟩ | ⟨hlocated, -, hknown⟩
  · exact iff_of_false Bool.false_ne_true (Bool.false_ne_true ∘ Eq.symm)
  · rw [s.isLocated_toValue, Bool.not_eq_true']
    exact Iff.rfl
  · rcases h with rfl | htruthy
    · cases hknown
    · exact iff_of_true (hlocated.trans htruthy) hknown

/-- What does not count as true is not worth mentioning, but its span keeps it. -/
theorem Value.isLocated_of_not_isTruthy {v : Value} (hnone : v ≠ .none) (h : v.isTruthy = false) :
    v.isLocated = false ∧ (Span.ofLocation v).isUnknown = false ∧ (Span.ofLocation v).raw = v := by
  rcases v.location_outcome with rfl | ⟨s, rfl⟩ | ⟨hlocated, hraw, hknown⟩
  · exact absurd rfl hnone
  · cases h
  · exact ⟨hlocated.trans h, hknown, hraw⟩

namespace Session

variable {o : SessionOptions} {op : Operation} {location : Value} {format : Text}
  {args : List Value}

/-- **The log and the record agree on whether there is a location.**  Whatever came before, a report
whose message cannot be written leaves neither diagnostic nor line.  Any other report is on record.
It is missing in the log just if its location is worth mentioning and cannot be written.  If it is
logged, without a location or with one that counts as true, there is a place in front of the message
iff the span on record is not unknown.  With any other location it is logged without a place, though
the span on record keeps the location and is not unknown. -/
theorem log_placed_iff_span_known (ops : List Operation)
    (h : op.ReportsAt o location format args) :
    (∀ e, Format.message .none format args = .error e →
      (((start o).run ops).effect op).added = [] ∧
        (((start o).run ops).effect op).logged = none) ∧
    ∀ t, Format.message .none format args = .ok t →
      ∃ d span, (((start o).run ops).effect op).added = [d] ∧
        d.message = .text t ∧ d.span = Span.toValue span ∧
        ((((start o).run ops).effect op).logged = none ↔
          location.isLocated = true ∧ ∃ e, location.display = .error e) ∧
        ∀ line, (((start o).run ops).effect op).logged = some line →
          (location = .none ∨ location.isTruthy = true →
            (line.IsPlaced t ↔ span.isUnknown = false)) ∧
          (location ≠ .none → location.isTruthy = false →
            ¬ line.IsPlaced t ∧ span.isUnknown = false ∧ span.raw = location) := by
  have hends := endsAs_effect ops h
  refine ⟨fun e he => hends.eq_nil he, fun t ht => ?_⟩
  obtain ⟨d, e, hadded, hlogged, hlocated, he, htells⟩ | ⟨d, line, hadded, hlogged, hsame⟩ :=
    hends.of_message ht
  · -- on record and not in the log
    refine ⟨d, _, hadded, htells.message, htells.span, iff_of_true hlogged ⟨hlocated, e, he⟩, ?_⟩
    intro line hline
    cases hlogged.symm.trans hline
  · -- on record and in the log
    refine ⟨d, _, hadded, hsame.message, hsame.span, ?_, ?_⟩
    · rw [hlogged]
      refine iff_of_false nofun ?_
      rintro ⟨hlocated, e, he⟩
      obtain ⟨place, hplace, -⟩ := hsame.located hlocated
      cases hplace.symm.trans he
    · intro line' hline'
      obtain rfl := Option.some.inj (hlogged.symm.trans hline')
      rw [hsame.isPlaced_iff]
      refine ⟨Value.isLocated_iff_of_isTruthy, fun hnone htruthy => ?_⟩
      obtain ⟨hlocated, hspan⟩ := Value.isLocated_of_not_isTruthy hnone htruthy
      rw [hlocated]
      exact ⟨Bool.false_ne_true, hspan⟩

/-- A span of which only a column is known: there is no place in the log, and none on record. -/
theorem log_placed_iff_span_known_column :
    let o : SessionOptions := ⟨.string "main.js", .none, true⟩
    let location := Value.span .none .none (.int 3) .none .none .none
    let op := Operation.report .warning location ['x'] []
    op.ReportsAt o location ['x'] [] ∧ location.isTruthy = true ∧
      ∃ d line span t, ((start o).effect op).added = [d] ∧
        ((start o).effect op).logged = some line ∧
        d.message = .text t ∧ d.span = Span.toValue span ∧
        (line.IsPlaced t ↔ span.isUnknown = false) := by
  intro o location op
  have h : op.ReportsAt o location ['x'] [] := .placed nofun
  have htruthy : location.isTruthy = true := rfl
  obtain ⟨-, hrecorded⟩ := log_placed_iff_span_known [] h
  obtain ⟨d, span, hadded, hmessage, hspan, hnone, hline⟩ := hrecorded ['x'] rfl
  have hlogged : ((start o).effect op).logged ≠ none := fun hlogged =>
    Bool.false_ne_true (hnone.mp hlogged).1
  obtain ⟨line, hlogged⟩ := Option.ne_none_iff_exists'.mp hlogged
  exact ⟨h, htruthy, d, line, span, _, hadded, hlogged, hmessage, hspan,
    (hline line hlogged).1 (.inr htruthy)⟩

/-- The empty text as a location: there is no place in the log, but one on record. -/
theorem log_placed_iff_span_known_empty :
    let op := Operation.report .error (.text []) ['x'] []
    ∃ d line span t, ((start {}).effect op).added = [d] ∧
      ((start {}).effect op).logged = some line ∧
      d.message = .text t ∧ d.span = Span.toValue span ∧
      ¬ (line.IsPlaced t ↔ span.isUnknown = false) := by
  intro op
  refine ⟨_, _, Span.ofLocation (.text []), ['x'], rfl, rfl, rfl, rfl, ?_⟩
  intro hiff
  exact LogLine.not_isPlaced rfl (hiff.mpr rfl)

end Session

end EcmaTree
