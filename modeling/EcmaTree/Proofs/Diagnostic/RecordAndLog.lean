import EcmaTree.Proofs.Diagnostic.Steps
import Mathlib.Data.List.Forall2

/-!
# The record and the log tell the same story

A report puts a diagnostic on record and writes a line to the log.  The diagnostic has the message
of the report and the span of its location, and the line has the message behind the text of the
location, if the location is worth mentioning (`TellSame`).  The line is made by filling a second
format with the message as the argument; since arguments are not looked at again, the message
arrives as it is (`Format.message_of_text`).

Not every report gets that far.  Without a message there is neither diagnostic nor line, and without
a text for a location that is worth mentioning there is a diagnostic and no line.  A report ends in
one of these three ways (`EndsAs`, `Session.endsAs`).  So the log of a session goes side by side
with a part of the record, entry by entry, and with all of it if no report breaks off
(`Session.record_and_log_agree`).
-/

namespace EcmaTree

/-- A diagnostic tells of a message `t` at a location, as something reported in a phase. -/
structure Diagnostic.Tells (phase location : Value) (t : Text) (d : Diagnostic) : Prop where
  message : d.message = .text t
  span : d.span = (Span.ofLocation location).toValue
  phase : d.phase = phase

/-- A diagnostic and a log line tell the same about a message `t` at a location, as something
reported in a phase. -/
structure TellSame (phase location : Value) (t : Text) (d : Diagnostic) (line : LogLine) : Prop
    extends d.Tells phase location t where
  severity : d.severity = .text line.level.label
  level : line.level = .error ↔ d.isError = true
  located : location.isLocated = true →
    ∃ place, location.display = .ok place ∧ line.text = place ++ Text.ofString ": " ++ t
  notLocated : location.isLocated = false → line.text = t

/-- How a report of a filled format at a location ends: what it adds to the record, which line it
writes to the log, and why it breaks off. -/
inductive EndsAs (phase location : Value) (format : Text) (args : List Value) :
    (added : List Diagnostic) → (logged : Option LogLine) → (raised : Option WritingError) → Prop
  /-- The message cannot be written. -/
  | notRecorded {e : WritingError} (h : Format.message .none format args = .error e) :
    EndsAs phase location format args [] none (some e)
  /-- The message can be written, but not the location that is to stand in front of it. -/
  | notLogged {e : WritingError} {t : Text} {d : Diagnostic}
      (h : Format.message .none format args = .ok t) (hlocated : location.isLocated = true)
      (hplace : location.display = .error e) (htells : d.Tells phase location t) :
    EndsAs phase location format args [d] none (some e)
  /-- Everything can be written. -/
  | told {t : Text} {d : Diagnostic} {line : LogLine}
      (h : Format.message .none format args = .ok t) (hsame : TellSame phase location t d line) :
    EndsAs phase location format args [d] (some line) none

/-- The operation reports, at a location, a format filled with arguments.  The location is the one
that it is given, unless it goes by the options and is given none: then it is the name of the
source. -/
inductive Operation.ReportsAt (o : SessionOptions) :
    Operation → (location : Value) → (format : Text) → (args : List Value) → Prop
  /-- A report by the options without a location. -/
  | somewhere {level : Level} {format : Text} {args : List Value} :
      ReportsAt o (.report level .none format args) o.sourceName format args
  /-- A report by the options with a location. -/
  | placed {level : Level} {location : Value} {format : Text} {args : List Value}
      (h : location ≠ .none) : ReportsAt o (.report level location format args) location format args
  /-- A report past the options. -/
  | direct {level : Level} {location : Value} {format : Text} {args notes : List Value} :
      ReportsAt o (.reportDirectly level location format args notes) location format args

section OneReport

variable {phase location : Value} {format : Text} {args : List Value}

/-! ### One report -/

section

variable {added : List Diagnostic} {logged : Option LogLine} {raised : Option WritingError}
  {t : Text}

/-- A report without a message leaves nothing. -/
theorem EndsAs.eq_nil {e : WritingError} (h : EndsAs phase location format args added logged raised)
    (he : Format.message .none format args = .error e) : added = [] ∧ logged = none := by
  cases h with
  | notRecorded => exact ⟨rfl, rfl⟩
  | notLogged ht => cases ht.symm.trans he
  | told ht => cases ht.symm.trans he

/-- A report with a message is recorded, and logged unless a location that is worth mentioning
cannot be written. -/
theorem EndsAs.of_message (h : EndsAs phase location format args added logged raised)
    (ht : Format.message .none format args = .ok t) :
    (∃ d e, added = [d] ∧ logged = none ∧ location.isLocated = true ∧
        location.display = .error e ∧ d.Tells phase location t) ∨
      ∃ d line, added = [d] ∧ logged = some line ∧ TellSame phase location t d line := by
  cases h with
  | notRecorded he => cases ht.symm.trans he
  | notLogged hu hlocated hplace htells =>
    obtain rfl := Except.ok.inj (ht.symm.trans hu)
    exact .inl ⟨_, _, rfl, rfl, hlocated, hplace, htells⟩
  | told hu hsame =>
    obtain rfl := Except.ok.inj (ht.symm.trans hu)
    exact .inr ⟨_, _, rfl, rfl, hsame⟩

/-- What is logged of a report tells the same as what is recorded of it. -/
theorem EndsAs.of_logged {line : LogLine}
    (h : EndsAs phase location format args added logged raised)
    (hline : logged = some line) : ∃ d t, added = [d] ∧ TellSame phase location t d line := by
  cases h with
  | notRecorded => cases hline
  | notLogged => cases hline
  | told ht hsame =>
    obtain rfl := Option.some.inj hline
    exact ⟨_, _, rfl, hsame⟩

/-- A report whose texts can all be written is recorded and logged. -/
theorem EndsAs.tellSame (h : EndsAs phase location format args added logged raised)
    (ht : Format.message .none format args = .ok t)
    (hplace : location.isLocated = true → ∃ place, location.display = .ok place) :
    ∃ d line, added = [d] ∧ logged = some line ∧ TellSame phase location t d line := by
  obtain ⟨d, e, -, -, hlocated, he, -⟩ | htold := h.of_message ht
  · obtain ⟨place, hplace⟩ := hplace hlocated
    cases hplace.symm.trans he
  · exact htold

/-- A report is recorded and logged iff its message can be written, and so can the location if it is
worth mentioning. -/
theorem EndsAs.told_iff (h : EndsAs phase location format args added logged raised) :
    (∃ d line, added = [d] ∧ logged = some line) ↔
      (∃ t, Format.message .none format args = .ok t) ∧
        (location.isLocated = true → ∃ place, location.display = .ok place) := by
  constructor
  · rintro ⟨d, line, rfl, rfl⟩
    -- Of the three ways only the last one leaves a line.
    cases h with
    | told ht hsame =>
      refine ⟨⟨_, ht⟩, fun hlocated => ?_⟩
      obtain ⟨place, hplace, -⟩ := hsame.located hlocated
      exact ⟨place, hplace⟩
  · rintro ⟨⟨t, ht⟩, hplace⟩
    obtain ⟨d, line, hadded, hlogged, -⟩ := h.tellSame ht hplace
    exact ⟨d, line, hadded, hlogged⟩

end

/-- A diagnostic tells the message it was made of. -/
theorem Reporter.tells_diagnosticWith (r : Reporter) (level : Level) (notes : List Value)
    (t : Text) :
    (r.diagnosticWith level location notes t).Tells r.phase location t := ⟨rfl, rfl, rfl⟩

/-- What a reporter records and logs of a message tells the same if the line has the message at its
end, behind the location where that is worth mentioning. -/
theorem Reporter.tellSame_diagnosticWith (r : Reporter) (level : Level) (notes : List Value)
    {t u : Text}
    (hlocated : location.isLocated = true →
      ∃ place, location.display = .ok place ∧ u = place ++ Text.ofString ": " ++ t)
    (hnot : location.isLocated = false → u = t) :
    TellSame r.phase location t (r.diagnosticWith level location notes t) ⟨level, u⟩ where
  toTells := r.tells_diagnosticWith level notes t
  severity := rfl
  level := by rw [isError_diagnosticWith, decide_eq_true_eq]
  located := hlocated
  notLocated := hnot

namespace Session

variable {s : Session} {op : Operation}

/-- A location that is given is not replaced. -/
theorem locate_of_ne_none (s : Session) (h : location ≠ .none) : s.locate location = location := by
  unfold locate
  cases location with
  | none => exact absurd rfl h
  | _ => rfl

/-- Every report comes to the reporter at its location, with a level and some notes. -/
theorem exists_report_of_reportsAt (h : op.ReportsAt s.options location format args) :
    ∃ level notes,
      s.recorded op = (s.reporter.diagnosticFor level location format args notes).toOption ∧
        s.outcome op = (Reporter.logLineFor level location format args).map some := by
  cases h with
  | somewhere => exact ⟨_, _, rfl, rfl⟩
  | @placed level _ _ _ h =>
    refine ⟨s.levelOf level, s.notesOf level, ?_, ?_⟩
    · rw [recorded, locate_of_ne_none s h]
    · rw [outcome, locate_of_ne_none s h]
  | direct => exact ⟨_, _, rfl, rfl⟩

/-- A report ends in one of three ways, by which of its texts can be written. -/
theorem endsAs (h : op.ReportsAt s.options location format args) :
    EndsAs s.reporter.phase location format args (s.added op) (s.logged op) (s.raised op) := by
  obtain ⟨level, notes, hrecorded, houtcome⟩ := exists_report_of_reportsAt h
  rw [added_eq_toList_recorded, hrecorded, logged, raised, houtcome, Reporter.diagnosticFor_eq,
    Reporter.logLineFor_eq, Format.message_eq_bind location]
  cases ht : Format.message .none format args with
  | error e => exact .notRecorded ht
  | ok t =>
    rw [show (.ok t >>= Text.located location) = t.located location from rfl]
    cases hlocated : location.isLocated with
    | false =>
      rw [Text.located_of_not_isLocated hlocated]
      refine .told ht (s.reporter.tellSame_diagnosticWith level notes (fun h => ?_) fun _ => rfl)
      cases hlocated.symm.trans h
    | true =>
      rw [Text.located_of_isLocated hlocated]
      cases hplace : location.display with
      | error e =>
        exact .notLogged ht hlocated hplace (s.reporter.tells_diagnosticWith level notes t)
      | ok place =>
        refine .told ht (s.reporter.tellSame_diagnosticWith level notes
          (fun _ => ⟨place, hplace, rfl⟩) fun h => ?_)
        cases hlocated.symm.trans h

/-- What is seen of a report, whatever came before. -/
theorem endsAs_effect {o : SessionOptions} (ops : List Operation)
    (h : op.ReportsAt o location format args) :
    EndsAs o.phase location format args (((start o).run ops).effect op).added
      (((start o).run ops).effect op).logged (((start o).run ops).effect op).raised := by
  have hs : op.ReportsAt ((start o).run ops).options location format args := by
    rw [run_options]
    exact h
  have hends := endsAs hs
  rw [run_phase] at hends
  exact hends

end Session

end OneReport

namespace Session

variable {op : Operation}

/-! ### Whole runs -/

theorem exists_reportsAt (o : SessionOptions) (h : op.isReport = true) :
    ∃ location format args, op.ReportsAt o location format args := by
  cases op with
  | report level location format args =>
    by_cases hnone : location = .none
    · subst hnone
      exact ⟨_, _, _, .somewhere⟩
    · exact ⟨_, _, _, .placed hnone⟩
  | reportDirectly level location format args notes => exact ⟨_, _, _, .direct⟩
  | clearError => cases h
  | poll => cases h

/-- What is logged of an operation is on record too.  What is on record of one and not logged broke
off. -/
theorem told_or_not_logged (s : Session) (op : Operation) :
    (∃ d line, s.recorded op = some d ∧ s.logged op = some line ∧
        ∃ location t, TellSame s.reporter.phase location t d line) ∨
      s.logged op = none ∧ (s.raised op = none → s.recorded op = none) := by
  cases hreport : op.isReport with
  | false =>
    -- no report, so nothing comes of it
    right
    cases op with
    | report level location format args => cases hreport
    | reportDirectly level location format args notes => cases hreport
    | clearError => exact ⟨rfl, fun _ => rfl⟩
    | poll => exact ⟨rfl, fun _ => rfl⟩
  | true =>
    obtain ⟨location, format, args, h⟩ := exists_reportsAt s.options hreport
    have hends := endsAs h
    have hadded := s.added_eq_toList_recorded op
    generalize s.added op = added, s.logged op = logged, s.raised op = raised at hends hadded ⊢
    cases hends with
    | notRecorded h => exact .inr ⟨rfl, nofun⟩
    | notLogged h hlocated hplace htells => exact .inr ⟨rfl, nofun⟩
    | told h hsame =>
      exact .inl ⟨_, _, Option.toList_eq_singleton_iff.mp hadded.symm, rfl, _, _, hsame⟩

/-- The log lines of a sequence of operations belong to some of its diagnostics one by one, and to
all of them if no operation breaks off. -/
theorem exists_told (s : Session) (ops : List Operation) :
    ∃ told, told.Sublist (ops.filterMap s.recorded) ∧
      List.Forall₂ (fun d line => ∃ location t, TellSame s.reporter.phase location t d line) told
        (ops.filterMap s.logged) ∧
      ((∀ op ∈ ops, s.raised op = none) → told = ops.filterMap s.recorded) := by
  induction ops with
  | nil => exact ⟨[], .slnil, .nil, fun _ => rfl⟩
  | cons op ops ih =>
    obtain ⟨told, hsublist, hforall, hall⟩ := ih
    rw [List.filterMap_cons, List.filterMap_cons, List.forall_mem_cons]
    obtain ⟨d, line, hrecorded, hlogged, hsame⟩ | ⟨hlogged, hraised⟩ := s.told_or_not_logged op
    · rw [hrecorded, hlogged]
      refine ⟨d :: told, hsublist.cons_cons d, .cons hsame hforall, fun h => ?_⟩
      rw [hall h.2]
    · rw [hlogged]
      cases hrecorded : s.recorded op with
      | none => exact ⟨told, hsublist, hforall, fun h => hall h.2⟩
      | some d =>
        -- the operation broke off, and its diagnostic is passed over
        refine ⟨told, hsublist.cons d, hforall, fun h => ?_⟩
        rw [hraised h.1] at hrecorded
        cases hrecorded

/-- **The record and the log tell the same story.**  Whatever came before, a report ends in one of
three ways.  If its message cannot be written, it is neither recorded nor logged; if the message can
be written and a location that is worth mentioning cannot, it is recorded and not logged; and
otherwise it adds just one diagnostic to the record and just one line to the log, and both tell of
the filled format at the location of the report.  So the lines of the log of a run go side by side
with entries of its record, and with all entries if no operation breaks off. -/
theorem record_and_log_agree (o : SessionOptions) (ops : List Operation) :
    (∀ op location format args, op.ReportsAt o location format args →
      EndsAs o.phase location format args (((start o).run ops).effect op).added
          (((start o).run ops).effect op).logged (((start o).run ops).effect op).raised ∧
        ((start o).run (ops ++ [op])).reporter.diagnostics
          = ((start o).run ops).reporter.diagnostics ++ (((start o).run ops).effect op).added ∧
        ((∃ d line, (((start o).run ops).effect op).added = [d] ∧
            (((start o).run ops).effect op).logged = some line) ↔
          (∃ t, Format.message .none format args = .ok t) ∧
            (location.isLocated = true → ∃ place, location.display = .ok place))) ∧
      ∃ told, told.Sublist ((start o).run ops).reporter.diagnostics ∧
        List.Forall₂ (fun d line => ∃ location t, TellSame o.phase location t d line) told
          ((start o).log ops) ∧
        ((∀ e ∈ (start o).effects ops, e.raised = none) →
          told = ((start o).run ops).reporter.diagnostics) := by
  constructor
  · intro op location format args h
    refine ⟨endsAs_effect ops h, ?_, (endsAs_effect ops h).told_iff⟩
    rw [run_append_singleton, step_diagnostics, ← added_eq_toList_recorded]
    rfl
  · rw [run_diagnostics, log_eq_filterMap]
    obtain ⟨told, hsublist, hforall, hall⟩ := exists_told (start o) ops
    refine ⟨told, hsublist, hforall, fun hraised => hall fun op hop => ?_⟩
    -- an effect of the run has the reason of the operation
    have hmem : (start o).raised op ∈ ((start o).effects ops).map Effect.raised := by
      rw [map_raised_effects]
      exact List.mem_map_of_mem hop
    obtain ⟨e, he, hop⟩ := List.mem_map.mp hmem
    rw [← hop]
    exact hraised e he

/-- A promoted warning without a location, whose argument looks like a format, in a session for the
source `a%s`. -/
theorem record_and_log_agree_unplaced :
    let o : SessionOptions := ⟨.text ['a', '%', 's'], .none, true⟩
    let op := Operation.report .warning .none ['%', 's', '%', '%'] [.text ['%', 's']]
    op.ReportsAt o (.text ['a', '%', 's']) ['%', 's', '%', '%'] [.text ['%', 's']] ∧
      ∃ d line, ((start o).effect op).added = [d] ∧ ((start o).effect op).logged = some line ∧
        line.level = .error ∧ d.message = .text ['%', 's', '%'] ∧
        line.text = ['a', '%', 's', ':', ' ', '%', 's', '%'] := by
  intro o op
  have h : op.ReportsAt o (.text ['a', '%', 's']) ['%', 's', '%', '%'] [.text ['%', 's']] :=
    .somewhere
  have ht : Format.message .none ['%', 's', '%', '%'] [.text ['%', 's']]
      = .ok ['%', 's', '%'] := rfl
  have hplace : (Value.text ['a', '%', 's']).display = .ok ['a', '%', 's'] := Value.display_text _
  obtain ⟨hends, -, -⟩ := (record_and_log_agree o []).1 _ _ _ _ h
  obtain ⟨d, line, hadded, hlogged, hsame⟩ := hends.tellSame ht fun _ => ⟨_, hplace⟩
  obtain ⟨place, hplace', htext⟩ := hsame.located rfl
  obtain rfl := Except.ok.inj (hplace.symm.trans hplace')
  -- the warning arrives as an error
  have hlevel : some Level.error = some line.level := congrArg (Option.map LogLine.level) hlogged
  exact ⟨h, d, line, hadded, hlogged, (Option.some.inj hlevel).symm, hsame.message, htext⟩

theorem isLocated_unwritten : Value.unwritten.isLocated = true := by
  have hint : ∀ n : ℤ, n ≠ 0 → (Value.int n).isLocated = true := by
    intro n hn
    show (!decide (n = 0)) = true
    rw [decide_eq_false hn, Bool.not_false]
  exact hint _ (pow_ne_zero _ (by decide))

/-- A number with more digits than are written: as an argument it leaves neither diagnostic nor
line, and as a location it leaves a diagnostic and no line. -/
theorem record_and_log_agree_unwritten :
    let mentioned := Operation.report .error .none (Text.ofString "%s") [.unwritten]
    let placed := Operation.report .error .unwritten ['x'] []
    ((start {}).effect mentioned).added = [] ∧ ((start {}).effect mentioned).logged = none ∧
      ((start {}).effect placed).added.length = 1 ∧ ((start {}).effect placed).logged = none := by
  intro mentioned placed
  have hmentioned : mentioned.ReportsAt {} .none (Text.ofString "%s") [.unwritten] := .somewhere
  have hplaced : placed.ReportsAt {} .unwritten ['x'] [] := .placed nofun
  obtain ⟨hadded, hlogged⟩ := (endsAs_effect [] hmentioned).eq_nil
    (Format.message_of_display_eq_error .none Value.display_unwritten)
  obtain ⟨d, _, hd, hnone, -⟩ | ⟨d, line, -, -, hsame⟩ :=
    (endsAs_effect [] hplaced).of_message (t := ['x']) rfl
  · exact ⟨hadded, hlogged, congrArg List.length hd, hnone⟩
  · -- the line would need the text of the location
    obtain ⟨place, hplace, -⟩ := hsame.located isLocated_unwritten
    cases hplace.symm.trans Value.display_unwritten

end Session

end EcmaTree
