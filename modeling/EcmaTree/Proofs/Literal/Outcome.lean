import EcmaTree.Literal.Value
import EcmaTree.Proofs.Literal.Segmentation

/-!
# What reading a literal comes to

`LiteralValue.read` gives a value or one of three kinds of error.  Which of the four it is depends
on the text alone, and each is told here without the reader (`read_outcome`): the text is no
literal, or it is a string with an escape that stands for nothing, or it is a whole number of more
than `4300` digits, or it has a value.

The parser gives back the one well-formed form that the text spells, so all that is left is the
value of a form (`LiteralForm.value_outcome`).
-/

namespace EcmaTree

/-- The error names an escape of a string. -/
def LiteralError.ConcernsEscape : LiteralError → Prop
  | malformedEscape _ _ => True
  | outOfRange _ _ => True
  | invalid _ _ => False
  | tooManyDigits _ => False

/-- The text is a string literal in which an escape is ill-formed or leads out of the code
space. -/
def Text.IsFaultyString (t : Text) : Prop :=
  ∃ quote items, (LiteralForm.string quote items).WellFormed ∧
    (LiteralForm.string quote items).spelling = t ∧ HasFaultyEscape items

/-- The text is a decimal number without point and exponent of more than `4300` digits. -/
def Text.IsOverlongWhole (t : Text) : Prop :=
  ∃ negative d, (LiteralForm.number negative (.decimal d)).WellFormed ∧
    (LiteralForm.number negative (.decimal d)).spelling = t ∧
    d.hasPoint = false ∧ d.exponent = none ∧ 4300 < d.whole.length

/-! ### The value of a form -/

namespace LiteralForm

/-- The form is a string with a faulty escape. -/
def IsFaulty : LiteralForm → Prop
  | string _ items => HasFaultyEscape items
  | _ => False

/-- The form is a decimal number without point and exponent of more than `4300` digits. -/
def IsOverlong : LiteralForm → Prop
  | number _ (.decimal d) => d.hasPoint = false ∧ d.exponent = none ∧ 4300 < d.whole.length
  | _ => False

end LiteralForm

/-- What an escape fails for concerns the escape. -/
theorem Escape.concernsEscape_of_decode_eq_error {column : ℕ} {escape : Escape} {e : LiteralError}
    (h : escape.decode column = .error e) : e.ConcernsEscape := by
  have hnumbered : ∀ {n : ℕ}, escape.numbered column n = .error e → e.ConcernsEscape := by
    intro n hn
    rw [numbered] at hn
    split at hn
    · exact absurd hn (by simp)
    · obtain rfl := Except.error.inj hn
      trivial
  -- Only numbers and single letters can stand for nothing.
  cases escape with
  | braced digits => exact hnumbered h
  | unit digits => exact hnumbered h
  | byte digits => exact hnumbered h
  | octal digits => exact hnumbered h
  | lineEnd terminator => exact absurd h (by simp [decode])
  | single c =>
    rw [decode] at h
    split at h
    · obtain rfl := Except.error.inj h
      trivial
    · exact absurd h (by simp)

/-- What a body fails for concerns one of its escapes. -/
theorem Piece.concernsEscape_of_decodeAll_eq_error {ps : List Piece} :
    ∀ {column : ℕ} {e : LiteralError}, decodeAll column ps = .error e → e.ConcernsEscape := by
  induction ps with
  | nil => exact fun {column e} h => absurd h (by simp [decodeAll])
  | cons p ps ih =>
    intro column e h
    rw [decodeAll] at h
    -- The error is that of the first piece, or that of the others.
    split at h
    · next e' hp =>
      obtain rfl := Except.error.inj h
      cases p with
      | plain c => exact absurd hp (by simp [decode])
      | escape escape => exact Escape.concernsEscape_of_decode_eq_error hp
    · split at h
      · next e' hps =>
        obtain rfl := Except.error.inj h
        exact ih hps
      · exact absurd h (by simp)

/-- The body of a string has no value iff one of its escapes is faulty, and that is then what the
error is about. -/
theorem unescape_outcome {quote : Quote} {items : List StringItem}
    (h : ∀ item ∈ items, item.WellFormed quote) :
    (HasFaultyEscape items ∧ ∃ e, Text.unescape (items.flatMap StringItem.spelling) = .error e ∧
        e.ConcernsEscape) ∨
      (¬HasFaultyEscape items ∧
        ∃ t, Text.unescape (items.flatMap StringItem.spelling) = .ok t) := by
  have hiff : (∃ e, Piece.decodeAll 2 (Piece.segment (items.flatMap StringItem.spelling))
      = .error e) ↔ HasFaultyEscape items := exists_decodeAll_segment_eq_error_iff h
  rw [← hiff, Text.unescape]
  cases hdecode : Piece.decodeAll 2 (Piece.segment (items.flatMap StringItem.spelling)) with
  | error e =>
    exact Or.inl ⟨⟨e, rfl⟩, e, rfl, Piece.concernsEscape_of_decodeAll_eq_error hdecode⟩
  | ok t => exact Or.inr ⟨by simp, _, rfl⟩

theorem DecimalNumeral.isWhole_eq_true_iff {d : DecimalNumeral} :
    d.isWhole = true ↔ d.hasPoint = false ∧ d.exponent = none := by
  simp [isWhole]

theorem DecimalNumeral.value_outcome (d : DecimalNumeral) :
    ((d.hasPoint = false ∧ d.exponent = none ∧ 4300 < d.whole.length) ∧
        d.value = .error (.tooManyDigits d.whole.length)) ∨
      (¬(d.hasPoint = false ∧ d.exponent = none ∧ 4300 < d.whole.length) ∧
        ∃ x, d.value = .ok x) := by
  rw [← and_assoc, ← isWhole_eq_true_iff, value]
  by_cases hwhole : d.isWhole = true
  · rw [if_pos hwhole]
    by_cases hlong : 4300 < d.whole.length
    · exact Or.inl ⟨⟨hwhole, hlong⟩, if_pos hlong⟩
    · exact Or.inr ⟨fun h => hlong h.2, _, if_neg hlong⟩
  · rw [if_neg hwhole]
    exact Or.inr ⟨fun h => hwhole h.1, _, rfl⟩

/-- The value of a well-formed form: an error about an escape, an error about the number of
digits, or a value. -/
theorem LiteralForm.value_outcome {form : LiteralForm} (h : form.WellFormed) :
    (form.IsFaulty ∧ ¬form.IsOverlong ∧ ∃ e, form.value = .error e ∧ e.ConcernsEscape) ∨
    (¬form.IsFaulty ∧ form.IsOverlong ∧ ∃ n, form.value = .error (.tooManyDigits n)) ∨
    (¬form.IsFaulty ∧ ¬form.IsOverlong ∧ ∃ v, form.value = .ok v) := by
  cases form with
  | null => exact Or.inr (Or.inr ⟨not_false, not_false, _, rfl⟩)
  | boolean b => exact Or.inr (Or.inr ⟨not_false, not_false, _, rfl⟩)
  | string quote items =>
    rw [value]
    rcases unescape_outcome h with ⟨hfaulty, e, he, hconcerns⟩ | ⟨hno, t, ht⟩
    · exact Or.inl ⟨hfaulty, not_false, e, by rw [he], hconcerns⟩
    · exact Or.inr (Or.inr ⟨hno, not_false, .string t, by rw [ht]⟩)
  | number negative n =>
    rw [value]
    cases n with
    | nan => exact Or.inr (Or.inr ⟨not_false, not_false, _, rfl⟩)
    | infinity => exact Or.inr (Or.inr ⟨not_false, not_false, _, rfl⟩)
    | inRadix radix marker digits => exact Or.inr (Or.inr ⟨not_false, not_false, _, rfl⟩)
    | decimal d =>
      rw [Numeral.value]
      rcases d.value_outcome with ⟨hlong, hd⟩ | ⟨hno, x, hd⟩
      · exact Or.inr (Or.inl ⟨not_false, hlong, _, by rw [hd]⟩)
      · exact Or.inr (Or.inr ⟨not_false, hno, _, by rw [hd]⟩)

/-! ### The four outcomes -/

/-- For a literal, the conditions on the text are conditions on its form. -/
theorem isFaultyString_spelling_iff {form : LiteralForm} (h : form.WellFormed) :
    form.spelling.IsFaultyString ↔ form.IsFaulty := by
  constructor
  · rintro ⟨quote, items, hwf, hspelling, hfaulty⟩
    obtain rfl : form = .string quote items := Except.ok.inj
      ((LiteralForm.parse_eq_ok_iff.mpr ⟨h, rfl⟩).symm.trans
        (LiteralForm.parse_eq_ok_iff.mpr ⟨hwf, hspelling⟩))
    exact hfaulty
  · intro hfaulty
    cases form with
    | string quote items => exact ⟨quote, items, h, rfl, hfaulty⟩
    | _ => exact hfaulty.elim

theorem isOverlongWhole_spelling_iff {form : LiteralForm} (h : form.WellFormed) :
    form.spelling.IsOverlongWhole ↔ form.IsOverlong := by
  constructor
  · rintro ⟨negative, d, hwf, hspelling, hlong⟩
    obtain rfl : form = .number negative (.decimal d) := Except.ok.inj
      ((LiteralForm.parse_eq_ok_iff.mpr ⟨h, rfl⟩).symm.trans
        (LiteralForm.parse_eq_ok_iff.mpr ⟨hwf, hspelling⟩))
    exact hlong
  · intro hlong
    cases form with
    | number negative n =>
      cases n with
      | decimal d => exact ⟨negative, d, h, rfl, hlong⟩
      | _ => exact hlong.elim
    | _ => exact hlong.elim

/-- **The four outcomes of reading a text.** -/
theorem read_outcome (t : Text) :
    ((∃ column, LiteralValue.read t = .error (.invalid t column)) ↔ ¬t.IsLiteral) ∧
    ((∃ e, LiteralValue.read t = .error e ∧ e.ConcernsEscape) ↔ t.IsFaultyString) ∧
    ((∃ count, LiteralValue.read t = .error (.tooManyDigits count)) ↔ t.IsOverlongWhole) ∧
    ((∃ v, LiteralValue.read t = .ok v) ↔
      t.IsLiteral ∧ ¬t.IsFaultyString ∧ ¬t.IsOverlongWhole) := by
  by_cases hliteral : t.IsLiteral
  · -- all four conditions are read off the form, of which exactly one holds
    obtain ⟨form, hform, rfl⟩ := hliteral
    have hread : LiteralValue.read form.spelling = form.value := by
      rw [LiteralValue.read, LiteralForm.parse_eq_ok_iff.mpr ⟨hform, rfl⟩]
    have hliteral : form.spelling.IsLiteral := ⟨form, hform, rfl⟩
    rw [hread, isFaultyString_spelling_iff hform, isOverlongWhole_spelling_iff hform]
    rcases LiteralForm.value_outcome hform with
      ⟨hfaulty, hlong, e, he, hconcerns⟩ | ⟨hfaulty, hlong, n, hn⟩ | ⟨hfaulty, hlong, v, hv⟩
    · rw [he]
      cases e with
      | malformedEscape letter column =>
        simp [hfaulty, hlong, hliteral, LiteralError.ConcernsEscape]
      | outOfRange escape column =>
        simp [hfaulty, hlong, hliteral, LiteralError.ConcernsEscape]
      | invalid text column => exact hconcerns.elim
      | tooManyDigits count => exact hconcerns.elim
    · rw [hn]
      simp [hfaulty, hlong, hliteral, LiteralError.ConcernsEscape]
    · rw [hv]
      simp [hfaulty, hlong, hliteral]
  · obtain ⟨column, hcolumn⟩ := LiteralForm.exists_parse_eq_error_iff.mpr hliteral
    have hread : LiteralValue.read t = .error (.invalid t column) := by
      rw [LiteralValue.read, hcolumn]
    have hfaulty : ¬t.IsFaultyString := fun ⟨_, _, hwf, hspelling, _⟩ =>
      hliteral ⟨_, hwf, hspelling⟩
    have hlong : ¬t.IsOverlongWhole := fun ⟨_, _, hwf, hspelling, _⟩ =>
      hliteral ⟨_, hwf, hspelling⟩
    rw [hread]
    simp [hliteral, hfaulty, hlong, LiteralError.ConcernsEscape]

end EcmaTree
