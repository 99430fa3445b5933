import EcmaTree.Proofs.Literal.Escapes

/-!
# Two ways to cut the body of a string

The grammar reads a body as items: single code points, and a backslash with the one code point (or
the two of a `CR LF`) behind it.  Decoding reads it as pieces, whose escapes can be longer.  Both
start an escape at the same backslashes: what an escape takes beyond its item is a run without
backslashes, and such a run is a run of plain items (`StringItem.exists_eq_map_plain_append`).  What
is proved of a body goes from escape to escape in this way (`StringItem.inductionOnEscapes`).

So what decoding refuses can be said in terms of items: the body has a faulty escape iff some
item with a backslash is one, together with what is spelled behind it
(`exists_decodeAll_segment_eq_error_iff`).
-/

namespace EcmaTree

/-- Some backslash of the body starts an escape that stands for nothing. -/
def HasFaultyEscape (items : List StringItem) : Prop :=
  ∃ before c after, items = before ++ .escaped c :: after ∧
    FaultyEscape c (after.flatMap StringItem.spelling)

theorem not_hasFaultyEscape_nil : ¬HasFaultyEscape [] := by
  rintro ⟨before, c, after, h, -⟩
  exact absurd h (by simp)

theorem hasFaultyEscape_escaped_cons (c : CodePoint) (items : List StringItem) :
    HasFaultyEscape (.escaped c :: items) ↔
      FaultyEscape c (items.flatMap StringItem.spelling) ∨ HasFaultyEscape items := by
  constructor
  · rintro ⟨before, d, after, h, hfaulty⟩
    cases before with
    | nil =>
      obtain ⟨rfl, rfl⟩ : c = d ∧ items = after := by simpa using h
      exact Or.inl hfaulty
    | cons b before =>
      rw [List.cons_append, List.cons.injEq] at h
      exact Or.inr ⟨before, d, after, h.2, hfaulty⟩
  · rintro (hfaulty | ⟨before, d, after, rfl, hfaulty⟩)
    · exact ⟨[], c, items, rfl, hfaulty⟩
    · exact ⟨.escaped c :: before, d, after, rfl, hfaulty⟩

theorem hasFaultyEscape_cons_of_ne {item : StringItem} (hitem : ∀ c, item ≠ .escaped c)
    (items : List StringItem) : HasFaultyEscape (item :: items) ↔ HasFaultyEscape items := by
  constructor
  · rintro ⟨before, d, after, h, hfaulty⟩
    cases before with
    | nil => exact absurd (List.cons.inj h).1 (hitem d)
    | cons b before =>
      rw [List.cons_append, List.cons.injEq] at h
      exact ⟨before, d, after, h.2, hfaulty⟩
  · rintro ⟨before, d, after, rfl, hfaulty⟩
    exact ⟨item :: before, d, after, rfl, hfaulty⟩

theorem hasFaultyEscape_map_plain_append (run : Text) (items : List StringItem) :
    HasFaultyEscape (run.map .plain ++ items) ↔ HasFaultyEscape items := by
  induction run with
  | nil => exact Iff.rfl
  | cons c run ih =>
    rw [List.map_cons, List.cons_append, hasFaultyEscape_cons_of_ne (by simp), ih]

/-! ### Pieces -/

namespace Piece

theorem segmentFrom_eq_segment_drop (n : ℕ) (t : Text) : segmentFrom n t = segment (t.drop n) := by
  induction t generalizing n with
  | nil => cases n <;> rfl
  | cons c t ih =>
    cases n with
    | zero => rfl
    | succ n => rw [segmentFrom, ih, List.drop_succ_cons]

theorem segment_cons_of_ne {c : CodePoint} (hc : c ≠ '\\') (rest : Text) :
    segment (c :: rest) = plain c :: segment rest := by
  rw [segment, segmentFrom, if_neg hc]
  rfl

theorem segment_backslash_cons (c : CodePoint) (rest : Text) :
    segment ('\\' :: c :: rest) = escape (Escape.scanFrom c rest) ::
      segment ((c :: rest).drop (Escape.scanFrom c rest).spelling.length) := by
  rw [segment, segmentFrom, if_pos rfl]
  simp only [Escape.scan?, segmentFrom_eq_segment_drop]

/-- Behind an escape the cutting goes on where a run without backslashes ends. -/
theorem exists_segment_backslash_cons (c : CodePoint) (rest : Text) :
    ∃ run behind, rest = run ++ behind ∧ CodePoint.ofChar '\\' ∉ run ∧
      (Escape.scanFrom c rest).spelling = c :: run ∧
      segment ('\\' :: c :: rest) = escape (Escape.scanFrom c rest) :: segment behind := by
  obtain ⟨run, hspelling, ⟨behind, rfl⟩, hrun⟩ := Escape.exists_spelling_scanFrom c rest
  refine ⟨run, behind, rfl, hrun, hspelling, ?_⟩
  rw [segment_backslash_cons, hspelling, List.length_cons, List.drop_succ_cons, List.drop_left]

theorem exists_decodeAll_cons_eq_error_iff {column : ℕ} {p : Piece} {ps : List Piece} :
    (∃ e, decodeAll column (p :: ps) = .error e) ↔
      (∃ e, p.decode column = .error e) ∨
        ∃ e, decodeAll (column + p.spelling.length) ps = .error e := by
  rw [decodeAll]
  cases p.decode column with
  | error e => simp
  | ok here => cases decodeAll (column + p.spelling.length) ps <;> simp

end Piece

/-! ### Items -/

theorem StringItem.flatMap_spelling_escaped_cons (c : CodePoint) (items : List StringItem) :
    (escaped c :: items).flatMap spelling
      = CodePoint.ofChar '\\' :: c :: items.flatMap spelling :=
  rfl

/-- A run of plain items is spelled as the run. -/
theorem StringItem.flatMap_spelling_map_plain (run : Text) :
    (run.map plain).flatMap spelling = run := by
  induction run with
  | nil => rfl
  | cons c run ih => rw [List.map_cons, List.flatMap_cons, ih, spelling, List.singleton_append]

/-- What a body has in front without backslashes is a run of plain items. -/
theorem StringItem.exists_eq_map_plain_append {run behind : Text} :
    ∀ {items : List StringItem}, CodePoint.ofChar '\\' ∉ run →
      items.flatMap spelling = run ++ behind →
      ∃ rest, items = run.map plain ++ rest ∧ rest.flatMap spelling = behind := by
  induction run with
  | nil => exact fun {items} _ h => ⟨items, rfl, h⟩
  | cons c run ih =>
    intro items hrun h
    rw [List.mem_cons, not_or] at hrun
    cases items with
    | nil => exact absurd h (by simp)
    | cons item items =>
      cases item with
      | plain d =>
        obtain ⟨hd, htail⟩ : d = c ∧ items.flatMap spelling = run ++ behind := List.cons.inj h
        obtain ⟨rest, rfl, hrest⟩ := ih hrun.2 htail
        exact ⟨rest, by rw [hd]; rfl, hrest⟩
      | escaped d => exact absurd (List.cons.inj h).1 hrun.1
      | escapedLineEnd => exact absurd (List.cons.inj h).1 hrun.1

/-- Induction over the items of a body.  An escape can take several items along, so behind a
backslash the hypothesis is about what follows any run of plain items. -/
theorem StringItem.inductionOnEscapes {quote : Quote} {P : List StringItem → Prop} (nil : P [])
    (plain : ∀ (c : CodePoint) (items : List StringItem), c ≠ '\\' → P items →
      P (.plain c :: items))
    (escaped : ∀ (c : CodePoint) (items : List StringItem),
      (∀ run behind : Text, CodePoint.ofChar '\\' ∉ run → items.flatMap spelling = run ++ behind →
        ∃ rest, items = run.map .plain ++ rest ∧ rest.flatMap spelling = behind ∧ P rest) →
      P (.escaped c :: items))
    (escapedLineEnd : ∀ items : List StringItem, P items → P (.escapedLineEnd :: items)) :
    ∀ {items : List StringItem}, (∀ item ∈ items, item.WellFormed quote) → P items := by
  intro items
  -- what follows a run need not be the tail, so the induction is on the number of items
  induction hn : items.length using Nat.strong_induction_on generalizing items with
  | _ n ih =>
  intro hwf
  cases items with
  | nil => exact nil
  | cons item items =>
    obtain ⟨hitem, hitems⟩ := List.forall_mem_cons.mp hwf
    have htail : items.length < n := by
      rw [← hn, List.length_cons]
      exact Nat.lt_succ_self _
    cases item with
    | plain c => exact plain c items hitem.2.1 (ih _ htail rfl hitems)
    | escaped c =>
      refine escaped c items fun run behind hrun hbehind => ?_
      obtain ⟨rest, rfl, hrest⟩ := exists_eq_map_plain_append hrun hbehind
      have hlength : rest.length < n := by
        rw [List.length_append] at htail
        omega
      exact ⟨rest, rfl, hrest,
        ih _ hlength rfl fun item hi => hitems item (List.mem_append_right _ hi)⟩
    | escapedLineEnd => exact escapedLineEnd items (ih _ htail rfl hitems)

/-- A line that goes on is one piece. -/
theorem Piece.segment_escapedLineEnd_cons (items : List StringItem) :
    segment ((StringItem.escapedLineEnd :: items).flatMap StringItem.spelling)
      = escape (.lineEnd [CodePoint.carriageReturn, CodePoint.lineFeed])
        :: segment (items.flatMap StringItem.spelling) :=
  segment_backslash_cons _ _

/-- Decoding refuses a body iff one of its escapes is faulty. -/
theorem exists_decodeAll_segment_eq_error_iff {quote : Quote} {items : List StringItem}
    {column : ℕ} (hwf : ∀ item ∈ items, item.WellFormed quote) :
    (∃ e, Piece.decodeAll column (Piece.segment (items.flatMap StringItem.spelling)) = .error e)
      ↔ HasFaultyEscape items := by
  revert column
  refine StringItem.inductionOnEscapes (P := fun items => ∀ {column : ℕ},
    (∃ e, Piece.decodeAll column (Piece.segment (items.flatMap StringItem.spelling)) = .error e)
      ↔ HasFaultyEscape items) ?nil ?plain ?escaped ?escapedLineEnd hwf
  case nil =>
    refine fun {column} => iff_of_false ?_ not_hasFaultyEscape_nil
    rintro ⟨e, he⟩
    exact absurd he (by simp [Piece.segment, Piece.segmentFrom, Piece.decodeAll])
  case plain =>
    intro c items hc ih column
    rw [hasFaultyEscape_cons_of_ne (by simp), List.flatMap_cons, StringItem.spelling,
      List.singleton_append, Piece.segment_cons_of_ne hc,
      Piece.exists_decodeAll_cons_eq_error_iff, or_iff_right (by simp [Piece.decode])]
    exact ih
  case escaped =>
    intro c items ih column
    obtain ⟨run, behind, hbehind, hrun, -, hsegment⟩ :=
      Piece.exists_segment_backslash_cons c (items.flatMap StringItem.spelling)
    obtain ⟨rest, rfl, rfl, hrest⟩ := ih run behind hrun hbehind
    -- none of the items that the escape has taken along is an escape of its own
    rw [hasFaultyEscape_escaped_cons, hasFaultyEscape_map_plain_append,
      StringItem.flatMap_spelling_escaped_cons, hsegment,
      Piece.exists_decodeAll_cons_eq_error_iff]
    exact or_congr Escape.exists_decode_scanFrom_eq_error_iff hrest
  case escapedLineEnd =>
    intro items ih column
    rw [hasFaultyEscape_cons_of_ne (by simp), Piece.segment_escapedLineEnd_cons,
      Piece.exists_decodeAll_cons_eq_error_iff,
      or_iff_right (by simp [Piece.decode, Escape.decode])]
    exact ih

end EcmaTree
