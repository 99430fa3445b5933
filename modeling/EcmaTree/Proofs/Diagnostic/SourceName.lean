import EcmaTree.Proofs.Diagnostic.Presence

/-!
# The name of the source in the log

The options of a session name the source, for diagnostics whose location has no file of its own.  A
report without any location gets the name of the source as its location, and its line in the log
begins with that name (`Session.logged_nowhere`).

A span is used as it is, also if it has no file.  Of a report at the unknown span the message alone
is logged, and at any other span the message stands behind the text of the span
(`Session.logged_at_span`), in which a file that is not known is called `<unknown>`
(`Span.display_of_not_isTruthy`).  The name of the source plays no part in either line
(`Session.sourceName_begins_iff`).
-/

namespace EcmaTree

/-! ### Texts of spans -/

theorem Text.prefix_joined (separator part : Text) (parts : List Text) :
    part <+: joined separator (part :: parts) := by
  cases parts with
  | nil => exact List.prefix_rfl
  | cons next parts =>
    show part <+: part ++ separator ++ joined separator (next :: parts)
    rw [List.append_assoc]
    exact List.prefix_append _ _

/-- The text of a span without a file says so. -/
theorem Span.display_of_not_isTruthy {s : Span} (h : s.file.isTruthy = false) {u : Text}
    (hu : s.display = .ok u) : Text.ofString "<unknown>" <+: u := by
  rw [display, toValue, Value.display, bind_eq_ok] at hu
  obtain ⟨places, -, hu⟩ := hu
  obtain ⟨name, hname, hu⟩ := bind_eq_ok.mp hu
  -- the file comes first, and it is called unknown
  have hfile : s.file.fileText = .ok (Text.ofString "<unknown>") :=
    if_neg (by rw [h]; exact Bool.false_ne_true)
  obtain rfl := Except.ok.inj (hfile.symm.trans hname)
  obtain rfl := Except.ok.inj hu
  exact Text.prefix_joined _ _ _

/-! ### Reports by the options -/

namespace Session

variable {o : SessionOptions} {n : Text}

/-- Without a location the line begins with the name of the source. -/
theorem logged_nowhere (hname : o.sourceName = .text n) (hn : n ≠ []) (ops : List Operation)
    (level : Level) (format : Text) (args : List Value) {t : Text}
    (ht : Format.message .none format args = .ok t) :
    ∃ line, (((start o).run ops).effect (.report level .none format args)).logged = some line ∧
      line.text = n ++ Text.ofString ": " ++ t := by
  have h : (Operation.report level .none format args).ReportsAt o (.text n) format args := by
    rw [← hname]
    exact .somewhere
  have hlocated : (Value.text n).isLocated = true := by
    show (!n.isEmpty) = true
    rw [Bool.not_eq_true', List.isEmpty_eq_false_iff]
    exact hn
  have hplace : (Value.text n).display = .ok n := Value.display_text n
  obtain ⟨_, line, -, hlogged, hsame⟩ := (endsAs_effect ops h).tellSame ht fun _ => ⟨n, hplace⟩
  obtain ⟨place, hplace', htext⟩ := hsame.located hlocated
  obtain rfl := Except.ok.inj (hplace.symm.trans hplace')
  exact ⟨line, hlogged, htext⟩

/-- With a span the line is the message, behind the text of the span if that is not unknown.  If
that text is missing, so is the line. -/
theorem logged_at_span (s : Span) (ops : List Operation) (level : Level) (format : Text)
    (args : List Value) {t : Text} (ht : Format.message .none format args = .ok t) :
    (s.isUnknown = true →
      ∃ line,
        (((start o).run ops).effect (.report level s.toValue format args)).logged = some line ∧
        line.text = t) ∧
    (s.isUnknown = false →
      (∀ u, s.display = .ok u →
        ∃ line,
          (((start o).run ops).effect (.report level s.toValue format args)).logged = some line ∧
          line.text = u ++ Text.ofString ": " ++ t) ∧
      ∀ e, s.display = .error e →
        (((start o).run ops).effect (.report level s.toValue format args)).logged = none) := by
  have h : (Operation.report level s.toValue format args).ReportsAt o s.toValue format args :=
    .placed nofun
  have hlocated : s.toValue.isLocated = !s.isUnknown := s.isLocated_toValue
  obtain ⟨d, e, -, hlogged, hknown, he, -⟩ | ⟨d, line, -, hlogged, hsame⟩ :=
    (endsAs_effect ops h).of_message ht
  · -- the location is worth mentioning and cannot be written
    rw [hlocated, Bool.not_eq_true'] at hknown
    refine ⟨fun hunknown => ?_, fun _ => ⟨fun u hu => ?_, fun _ _ => hlogged⟩⟩
    · cases hknown.symm.trans hunknown
    · cases hu.symm.trans he
  · refine ⟨fun hunknown => ⟨line, hlogged, hsame.notLocated ?_⟩, fun hknown => ?_⟩
    · rw [hlocated, hunknown, Bool.not_true]
    · obtain ⟨place, hplace, htext⟩ := hsame.located (by rw [hlocated, hknown, Bool.not_false])
      refine ⟨fun u hu => ?_, fun e he => ?_⟩
      · obtain rfl := Except.ok.inj (hplace.symm.trans hu)
        exact ⟨line, hlogged, htext⟩
      · cases hplace.symm.trans he

/-- **The name of the source in the log.**  Reports without a location are logged behind the name of
the source.  Reports at a span without a file are not: if the span is unknown the message stands
alone, and otherwise it stands behind the text of the span, with `<unknown>` for the file.  So all
lines for it begin with the name of the source iff the span is not unknown and its text, which knows
nothing of that name, happens to begin with it.  A report whose message cannot be written, or the
text of its span, has no line. -/
theorem sourceName_begins_iff (hname : o.sourceName = .text n) (hn : n ≠ [])
    (ops : List Operation) :
    (∀ level format args t, Format.message .none format args = .ok t →
      ∃ line, (((start o).run ops).effect (.report level .none format args)).logged = some line ∧
        line.text = n ++ Text.ofString ": " ++ t) ∧
    ∀ s : Span, s.file.isTruthy = false →
      (∀ u, s.display = .ok u → Text.ofString "<unknown>" <+: u) ∧
      (∀ level format args t, Format.message .none format args = .ok t →
        (s.isUnknown = true →
          ∃ line,
            (((start o).run ops).effect (.report level s.toValue format args)).logged = some line ∧
            line.text = t) ∧
        (s.isUnknown = false →
          (∀ u, s.display = .ok u →
            ∃ line,
              (((start o).run ops).effect (.report level s.toValue format args)).logged
                = some line ∧
              line.text = u ++ Text.ofString ": " ++ t) ∧
          ∀ e, s.display = .error e →
            (((start o).run ops).effect (.report level s.toValue format args)).logged = none)) ∧
      ((∀ level format args line,
          (((start o).run ops).effect (.report level s.toValue format args)).logged = some line →
          n <+: line.text) ↔
        s.isUnknown = false ∧ ∀ u, s.display = .ok u → n <+: u ++ Text.ofString ": ") := by
  refine ⟨fun level format args t => logged_nowhere hname hn ops level format args,
    fun s hfile => ⟨fun u => Span.display_of_not_isTruthy hfile,
      fun level format args t => logged_at_span s ops level format args, ?_, ?_⟩⟩
  · intro hbegins
    -- the empty message shows what is in front of every message
    have hempty : Format.message .none [] [] = .ok [] := rfl
    obtain ⟨hunknown, hknown⟩ := logged_at_span (o := o) s ops .error [] [] hempty
    cases hs : s.isUnknown with
    | true =>
      obtain ⟨line, hlogged, htext⟩ := hunknown hs
      have hline := hbegins _ _ _ line hlogged
      rw [htext] at hline
      exact absurd (List.prefix_nil.mp hline) hn
    | false =>
      refine ⟨rfl, fun u hu => ?_⟩
      obtain ⟨line, hlogged, htext⟩ := (hknown hs).1 u hu
      have hline := hbegins _ _ _ line hlogged
      rw [htext, List.append_nil] at hline
      exact hline
  · rintro ⟨hs, hbegins⟩ level format args line hline
    have h : (Operation.report level s.toValue format args).ReportsAt o s.toValue format args :=
      .placed nofun
    obtain ⟨_, t, -, hsame⟩ := (endsAs_effect ops h).of_logged hline
    obtain ⟨place, hplace, htext⟩ :=
      hsame.located (by rw [s.isLocated_toValue, hs, Bool.not_false])
    rw [htext]
    exact (hbegins place hplace).trans (List.prefix_append _ _)

/-- A span with just a line, in a session for the source `main.js`. -/
theorem sourceName_begins_iff_line :
    let o : SessionOptions := ⟨.string "main.js", .none, false⟩
    let s : Span := { line := .int 3 }
    o.sourceName = .text (Text.ofString "main.js") ∧ Text.ofString "main.js" ≠ [] ∧
      s.file.isTruthy = false ∧
      ∃ line, ((start o).effect (.report .warning s.toValue ['x'] [])).logged = some line ∧
        line.text = Text.ofString "<unknown>:3: x" := by
  intro o s
  have hname : o.sourceName = .text (Text.ofString "main.js") := rfl
  have hn : Text.ofString "main.js" ≠ [] := by decide
  have hfile : s.file.isTruthy = false := rfl
  have hplace : s.display = .ok (Text.ofString "<unknown>:3") := rfl
  obtain ⟨-, hspan⟩ := sourceName_begins_iff hname hn []
  obtain ⟨-, htext, -⟩ := hspan s hfile
  obtain ⟨-, hknown⟩ := htext .warning ['x'] [] ['x'] rfl
  obtain ⟨line, hlogged, hline⟩ := (hknown rfl).1 _ hplace
  exact ⟨hname, hn, hfile, line, hlogged, hline⟩

/-- An error at the unknown span: the name of the source is missing in the log. -/
theorem sourceName_begins_iff_unknown :
    let o : SessionOptions := ⟨.string "main.js", .none, false⟩
    ∃ line, ((start o).effect (.report .error Span.unknown.toValue ['x'] [])).logged = some line ∧
      line.text = ['x'] ∧ ¬ Text.ofString "main.js" <+: line.text := by
  intro o
  exact ⟨_, rfl, rfl, by decide⟩

end Session

end EcmaTree
