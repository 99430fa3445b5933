import EcmaTree.Literal.Value
import EcmaTree.Proofs.Literal.Segmentation

/-!
# The escape that is reported

A string with faulty escapes is refused for the first of them, in the column of its backslash
(`read_first_faulty_escape`).  `FirstFaultyEscape` goes through the items of the body from left to
right up to that escape, so a backslash that is itself escaped is no start of one.  `EscapeFault`
is what is said about a faulty escape; it depends on the place of the backslash and on what stands
right behind it, so nothing further to the right has any influence.

Decoding goes through pieces instead of items.  Up to the first faulty escape every piece decodes,
and the items that a piece takes up beyond its own are plain ones, so both arrive at the same
backslash (`FirstFaultyEscape.decodeAll_eq_error`).
-/

namespace EcmaTree

open StringItem (plain escaped escapedLineEnd)

/-! ### What is said about an escape -/

/-- The error for an escape that starts with `c` behind its backslash, has `rest` behind that, and
stands for nothing. -/
inductive EscapeFault (c : CodePoint) (rest : Text) (column : ℕ) : LiteralError → Prop
  /-- There are no two digits behind `\x`. -/
  | byte (hc : c = 'x') (hbyte : ∀ digits, ¬rest.LeadingHex 2 digits) :
    EscapeFault c rest column (.malformedEscape 'x' column)
  /-- There are neither four digits nor digits in braces behind `\u`. -/
  | unit (hc : c = 'u') (hunit : ∀ digits, ¬rest.LeadingHex 4 digits)
      (hbraced : ∀ digits, ¬rest.LeadingBraced digits) :
    EscapeFault c rest column (.malformedEscape 'u' column)
  /-- The number in braces is behind the code space; the whole escape is shown. -/
  | range {digits : Text} (hc : c = 'u') (hbraced : rest.LeadingBraced digits)
      (hrange : 0x10FFFF < Text.valueOf 16 CodePoint.hexDigit? digits) :
    EscapeFault c rest column
      (.outOfRange (Text.ofString "\\u\x7b" ++ digits ++ Text.ofString "\x7d") column)

/-- There is something to say about an escape iff it is faulty. -/
theorem exists_escapeFault_iff {c : CodePoint} {rest : Text} {column : ℕ} :
    (∃ e, EscapeFault c rest column e) ↔ FaultyEscape c rest := by
  constructor
  · rintro ⟨e, ⟨hc, hbyte⟩ | ⟨hc, hunit, hbraced⟩ | ⟨hc, hbraced, hrange⟩⟩
    · exact Or.inl ⟨hc, hbyte⟩
    · exact Or.inr (Or.inl ⟨hc, hunit, hbraced⟩)
    · exact Or.inr (Or.inr ⟨hc, _, hbraced, hrange⟩)
  · rintro (⟨hc, hbyte⟩ | ⟨hc, hunit, hbraced⟩ | ⟨hc, digits, hbraced, hrange⟩)
    · exact ⟨_, .byte hc hbyte⟩
    · exact ⟨_, .unit hc hunit hbraced⟩
    · exact ⟨_, .range hc hbraced hrange⟩

/-- Every fault is in the column of the backslash. -/
theorem EscapeFault.column?_eq {c : CodePoint} {rest : Text} {column : ℕ} {e : LiteralError}
    (h : EscapeFault c rest column e) : e.column? = some column := by
  cases h <;> rfl

/-- Decoding says just this about the escape. -/
theorem EscapeFault.decode_scanFrom {c : CodePoint} {rest : Text} {column : ℕ} {e : LiteralError}
    (h : EscapeFault c rest column e) : (Escape.scanFrom c rest).decode column = .error e := by
  cases h with
  | byte hc hbyte =>
    subst hc
    rw [Escape.scanFrom_x_of_not_leadingHex hbyte]
    rfl
  | unit hc hunit hbraced =>
    subst hc
    rw [Escape.scanFrom_u_of_not_leading hunit hbraced]
    rfl
  | range hc hbraced hrange =>
    subst hc
    -- There is no code point behind the code space.
    have hnone : CodePoint.ofNat? (Text.valueOf 16 CodePoint.hexDigit? _) = none :=
      dif_neg (not_lt.mpr hrange)
    rw [Escape.scanFrom_of_leadingBraced hbraced, Escape.decode, Escape.numbered, hnone]
    rfl

/-! ### Decoding piece by piece -/

namespace Piece

variable {column : ℕ} {p : Piece} {ps : List Piece} {e : LiteralError}

/-- The first piece decides if it stands for nothing. -/
theorem decodeAll_cons_of_error (h : p.decode column = .error e) :
    decodeAll column (p :: ps) = .error e := by
  rw [decodeAll, h]

/-- Otherwise the error of the others is passed on. -/
theorem decodeAll_cons_of_ok {here : Text} (h : p.decode column = .ok here)
    (hps : decodeAll (column + p.spelling.length) ps = .error e) :
    decodeAll column (p :: ps) = .error e := by
  simp only [decodeAll, h, hps]

end Piece

/-! ### The first faulty escape -/

/-- Going through the items from the left, the first escape that stands for nothing is the one
that starts with `c`, between the items `before` and `after`. -/
inductive FirstFaultyEscape :
    (items before : List StringItem) → (c : CodePoint) → (after : List StringItem) → Prop
  /-- The escape at the front is faulty. -/
  | here {c : CodePoint} {items : List StringItem}
      (hfaulty : FaultyEscape c (items.flatMap StringItem.spelling)) :
    FirstFaultyEscape (escaped c :: items) [] c items
  /-- A code point that stands for itself is passed over. -/
  | behindPlain {d c : CodePoint} {items before after : List StringItem}
      (h : FirstFaultyEscape items before c after) :
    FirstFaultyEscape (plain d :: items) (plain d :: before) c after
  /-- An escape that stands for something is passed over, its second code point included. -/
  | behindEscape {d c : CodePoint} {items before after : List StringItem}
      (hok : ¬FaultyEscape d (items.flatMap StringItem.spelling))
      (h : FirstFaultyEscape items before c after) :
    FirstFaultyEscape (escaped d :: items) (escaped d :: before) c after
  /-- A line that goes on is passed over. -/
  | behindLineEnd {c : CodePoint} {items before after : List StringItem}
      (h : FirstFaultyEscape items before c after) :
    FirstFaultyEscape (escapedLineEnd :: items) (escapedLineEnd :: before) c after

namespace FirstFaultyEscape

variable {items before after : List StringItem} {c : CodePoint}

/-- The first faulty escape stands between the items before it and those after it. -/
theorem eq_append (h : FirstFaultyEscape items before c after) :
    items = before ++ escaped c :: after := by
  induction h with
  | here hfaulty => rfl
  | behindPlain h ih => rw [ih, List.cons_append]
  | behindEscape hok h ih => rw [ih, List.cons_append]
  | behindLineEnd h ih => rw [ih, List.cons_append]

theorem faultyEscape (h : FirstFaultyEscape items before c after) :
    FaultyEscape c (after.flatMap StringItem.spelling) := by
  induction h with
  | here hfaulty => exact hfaulty
  | behindPlain h ih => exact ih
  | behindEscape hok h ih => exact ih
  | behindLineEnd h ih => exact ih

/-- If there is a faulty escape, then there is a first one. -/
theorem exists_of_hasFaultyEscape :
    ∀ {items : List StringItem}, HasFaultyEscape items →
      ∃ before c after, FirstFaultyEscape items before c after := by
  intro items
  induction items with
  | nil => exact fun h => absurd h not_hasFaultyEscape_nil
  | cons item items ih =>
    intro h
    -- An item that is no faulty escape itself is passed over, and the others have one.
    cases item with
    | plain d =>
      rw [hasFaultyEscape_cons_of_ne (by simp)] at h
      obtain ⟨before, c, after, hfirst⟩ := ih h
      exact ⟨_, c, after, .behindPlain hfirst⟩
    | escaped d =>
      by_cases hd : FaultyEscape d (items.flatMap StringItem.spelling)
      · exact ⟨[], d, items, .here hd⟩
      · rw [hasFaultyEscape_escaped_cons, or_iff_right hd] at h
        obtain ⟨before, c, after, hfirst⟩ := ih h
        exact ⟨_, c, after, .behindEscape hd hfirst⟩
    | escapedLineEnd =>
      rw [hasFaultyEscape_cons_of_ne (by simp)] at h
      obtain ⟨before, c, after, hfirst⟩ := ih h
      exact ⟨_, c, after, .behindLineEnd hfirst⟩

/-- A run of plain items is passed over at once. -/
theorem of_map_plain_append {run : Text} :
    ∀ {before : List StringItem}, FirstFaultyEscape (run.map .plain ++ items) before c after →
      ∃ between, before = run.map .plain ++ between ∧
        FirstFaultyEscape items between c after := by
  -- One plain item after the other is taken off the front.
  induction run with
  | nil => exact fun {before} h => ⟨before, rfl, h⟩
  | cons d run ih =>
    intro before h
    cases h with
    | behindPlain h =>
      obtain ⟨between, rfl, hbetween⟩ := ih h
      exact ⟨between, rfl, hbetween⟩

/-- Decoding stops at the first faulty escape, whatever is behind it. -/
theorem decodeAll_eq_error {quote : Quote} {column : ℕ} {e : LiteralError}
    (hwf : ∀ item ∈ items, item.WellFormed quote) (h : FirstFaultyEscape items before c after)
    (hfault : EscapeFault c (after.flatMap StringItem.spelling)
      (column + (before.flatMap StringItem.spelling).length) e) :
    Piece.decodeAll column (Piece.segment (items.flatMap StringItem.spelling)) = .error e := by
  -- The induction goes by escapes and not by items, because an escape takes digits along that are
  -- items of their own.  Both what is passed over and the column change on the way.
  revert before column
  refine StringItem.inductionOnEscapes (P := fun items => ∀ {before : List StringItem} {column : ℕ},
    FirstFaultyEscape items before c after →
    EscapeFault c (after.flatMap StringItem.spelling)
      (column + (before.flatMap StringItem.spelling).length) e →
    Piece.decodeAll column (Piece.segment (items.flatMap StringItem.spelling)) = .error e)
    ?nil ?plain ?escaped ?escapedLineEnd hwf
  case nil => exact fun {before column} h => nomatch h
  case plain =>
    intro d items hd ih before column h hfault
    cases h with
    | @behindPlain _ _ _ before _ h =>
      have hsegment : Piece.segment ((plain d :: items).flatMap StringItem.spelling)
          = .plain d :: Piece.segment (items.flatMap StringItem.spelling) :=
        Piece.segment_cons_of_ne hd _
      rw [List.flatMap_cons, List.length_append, ← Nat.add_assoc] at hfault
      rw [hsegment]
      exact Piece.decodeAll_cons_of_ok rfl (ih h hfault)
  case escaped =>
    intro d items ih before column h hfault
    cases h with
    | here hfaulty =>
      rw [StringItem.flatMap_spelling_escaped_cons, Piece.segment_backslash_cons]
      exact Piece.decodeAll_cons_of_error hfault.decode_scanFrom
    | @behindEscape _ _ _ before _ hok h =>
      obtain ⟨run, behind, hbehind, hrun, hspelling, hsegment⟩ :=
        Piece.exists_segment_backslash_cons d (items.flatMap StringItem.spelling)
      -- the piece takes the items of the run along, and the first faulty escape is behind them
      obtain ⟨rest, rfl, rfl, hrest⟩ := ih run behind hrun hbehind
      obtain ⟨between, rfl, hbetween⟩ := h.of_map_plain_append
      obtain ⟨here, hhere⟩ := Escape.exists_decode_scanFrom_eq_ok hok column
      have hpiece : (Piece.escape (Escape.scanFrom d ((run.map plain ++ rest).flatMap
          StringItem.spelling))).spelling.length = run.length + 2 := by
        rw [Piece.spelling, List.length_append, hspelling, List.length_cons, Nat.add_comm]
        rfl
      have hbefore : ((escaped d :: (run.map plain ++ between)).flatMap
          StringItem.spelling).length
            = run.length + 2 + (between.flatMap StringItem.spelling).length := by
        rw [StringItem.flatMap_spelling_escaped_cons, List.flatMap_append,
          StringItem.flatMap_spelling_map_plain, List.length_cons, List.length_cons,
          List.length_append]
        omega
      rw [hbefore, ← Nat.add_assoc, ← hpiece] at hfault
      rw [StringItem.flatMap_spelling_escaped_cons, hsegment]
      exact Piece.decodeAll_cons_of_ok hhere (hrest hbetween hfault)
  case escapedLineEnd =>
    intro items ih before column h hfault
    cases h with
    | @behindLineEnd _ _ before _ h =>
      rw [List.flatMap_cons, List.length_append, ← Nat.add_assoc] at hfault
      rw [Piece.segment_escapedLineEnd_cons]
      exact Piece.decodeAll_cons_of_ok rfl (ih h hfault)

end FirstFaultyEscape

/-- A string is refused for its first faulty escape. -/
theorem read_eq_error_of_firstFaultyEscape {quote : Quote} {items before after : List StringItem}
    {c : CodePoint} {e : LiteralError} (hwf : (LiteralForm.string quote items).WellFormed)
    (h : FirstFaultyEscape items before c after)
    (hfault : EscapeFault c (after.flatMap StringItem.spelling)
      (1 + (quote.mark :: before.flatMap StringItem.spelling).length) e) :
    LiteralValue.read (LiteralForm.string quote items).spelling = .error e := by
  -- the quote is in column one, so the body starts in column two
  have hcolumn : 1 + (quote.mark :: before.flatMap StringItem.spelling).length
      = 2 + (before.flatMap StringItem.spelling).length := by
    rw [List.length_cons]
    omega
  rw [hcolumn] at hfault
  have hdecode := h.decodeAll_eq_error hwf hfault
  rw [LiteralValue.read, LiteralForm.parse_eq_ok_iff.mpr ⟨hwf, rfl⟩]
  simp only [LiteralForm.value, Text.unescape, hdecode]

/-- **The first faulty escape is reported.**  A text that parses as a string and has a faulty escape
is refused for the first one, in the column of its backslash.  Any other body in which the same
fault comes first is refused with the same error. -/
theorem read_first_faulty_escape {t : Text} {quote : Quote} {items : List StringItem}
    (hparse : LiteralForm.parse t = .ok (.string quote items)) (hfaulty : HasFaultyEscape items) :
    ∃ (before : List StringItem) (c : CodePoint) (after : List StringItem) (index : ℕ)
      (e : LiteralError),
      FirstFaultyEscape items before c after ∧
      index = (quote.mark :: before.flatMap StringItem.spelling).length ∧
      t.drop index
        = CodePoint.ofChar '\\' :: c :: (after.flatMap StringItem.spelling ++ [quote.mark]) ∧
      EscapeFault c (after.flatMap StringItem.spelling) (1 + index) e ∧
      LiteralValue.read t = .error e ∧ e.column? = some (1 + index) ∧
      ∀ others behind : List StringItem, (LiteralForm.string quote others).WellFormed →
        FirstFaultyEscape others before c behind →
        EscapeFault c (behind.flatMap StringItem.spelling) (1 + index) e →
        LiteralValue.read (LiteralForm.string quote others).spelling = .error e := by
  obtain ⟨hwf, rfl⟩ := LiteralForm.parse_eq_ok_iff.mp hparse
  obtain ⟨before, c, after, hfirst⟩ := FirstFaultyEscape.exists_of_hasFaultyEscape hfaulty
  obtain ⟨e, he⟩ := exists_escapeFault_iff.mpr hfirst.faultyEscape
  have hread : ∀ others behind : List StringItem, (LiteralForm.string quote others).WellFormed →
      FirstFaultyEscape others before c behind →
      EscapeFault c (behind.flatMap StringItem.spelling) _ e →
      LiteralValue.read (LiteralForm.string quote others).spelling = .error e :=
    fun others behind hothers h hfault => read_eq_error_of_firstFaultyEscape hothers h hfault
  refine ⟨before, c, after, _, e, hfirst, rfl, ?_, he, hread items after hwf hfirst he,
    he.column?_eq, hread⟩
  -- The text falls apart at the backslash of the first faulty escape.
  have hspelling : (LiteralForm.string quote items).spelling
      = (quote.mark :: before.flatMap StringItem.spelling) ++
        (CodePoint.ofChar '\\' :: c :: (after.flatMap StringItem.spelling ++ [quote.mark])) := by
    rw [LiteralForm.spelling, hfirst.eq_append, List.flatMap_append,
      StringItem.flatMap_spelling_escaped_cons]
    simp only [List.append_assoc, List.cons_append]
  rw [hspelling, List.drop_left]

/-- An escaped backslash in front of an `x` is no faulty escape, and what the braces say is never
looked at. -/
theorem read_first_faulty_escape_byte :
    let t := Text.ofString "\"\\\\x\\x4\\u\x7b110000\x7d\""
    let items : List StringItem := [.escaped '\\', .plain 'x', .escaped 'x', .plain '4',
      .escaped 'u', .plain '\x7b', .plain '1', .plain '1', .plain '0', .plain '0', .plain '0',
      .plain '0', .plain '\x7d']
    LiteralForm.parse t = .ok (.string .double items) ∧ HasFaultyEscape items ∧
      ∃ (before : List StringItem) (c : CodePoint) (after : List StringItem) (index : ℕ)
        (e : LiteralError),
        FirstFaultyEscape items before c after ∧
        index = (Quote.double.mark :: before.flatMap StringItem.spelling).length ∧
        t.drop index
          = CodePoint.ofChar '\\' :: c ::
            (after.flatMap StringItem.spelling ++ [Quote.double.mark]) ∧
        EscapeFault c (after.flatMap StringItem.spelling) (1 + index) e ∧
        LiteralValue.read t = .error e ∧ e.column? = some (1 + index) ∧
        ∀ others behind : List StringItem, (LiteralForm.string .double others).WellFormed →
          FirstFaultyEscape others before c behind →
          EscapeFault c (behind.flatMap StringItem.spelling) (1 + index) e →
          LiteralValue.read (LiteralForm.string .double others).spelling = .error e := by
  intro t items
  have hparse : LiteralForm.parse t = .ok (.string .double items) := by decide +kernel
  have hfaulty : HasFaultyEscape items := by
    refine ⟨[.escaped '\\', .plain 'x'], 'x', _, rfl, ?_⟩
    exact (@Escape.exists_decode_scanFrom_x_eq_error_iff _ 5).mp ⟨_, rfl⟩
  exact ⟨hparse, hfaulty, read_first_faulty_escape hparse hfaulty⟩

end EcmaTree
