import EcmaTree.Proofs.Literal.Segmentation

/-!
# Where escapes start

Items and pieces both cut the body of a string into parts, and every part has a place: the number of
code points in front of it.  The parts with a backslash are at the same places in both cuts, and the
pieces cover the body without gaps and without overlaps (`escapes_start_alike`).

The two cuts go along with each other (`CutAlike`): a piece is a plain item, or it is an item with a
backslash and the run of plain items that the escape takes along.  So both get to the next backslash
together, however long an escape is.
-/

namespace EcmaTree

/-! ### Parts and their places -/

/-- A part of a text and where it starts. -/
structure Placed (α : Type) where
  /-- The number of code points in front of the part. -/
  start : ℕ
  /-- The part. -/
  part : α

section Places

variable {α : Type} (spelling : α → Text)

/-- The parts from left to right, the first of them at `start`. -/
def placesFrom : ℕ → List α → List (Placed α)
  | _, [] => []
  | start, part :: parts => ⟨start, part⟩ :: placesFrom (start + (spelling part).length) parts

/-- The code point at the offset belongs to the part. -/
def Placed.Covers (place : Placed α) (i : ℕ) : Prop :=
  place.start ≤ i ∧ i < place.start + (spelling place.part).length

/-- The offsets at which the escapes among the parts start, from left to right. -/
def escapeStarts (isEscape : α → Bool) (places : List (Placed α)) : List ℕ :=
  (places.filter fun place => isEscape place.part).map Placed.start

variable {spelling} {start : ℕ} {part : α} {parts : List α}

theorem exists_eq_append_of_mem_placesFrom {place : Placed α}
    (h : place ∈ placesFrom spelling start parts) :
    ∃ before after, parts = before ++ place.part :: after ∧
      place.start = start + (before.flatMap spelling).length := by
  induction parts generalizing start with
  | nil => cases h
  | cons part parts ih =>
    rw [placesFrom, List.mem_cons] at h
    rcases h with rfl | h
    · exact ⟨[], parts, rfl, rfl⟩
    · obtain ⟨before, after, rfl, hstart⟩ := ih h
      refine ⟨part :: before, after, rfl, ?_⟩
      rw [hstart, List.flatMap_cons, List.length_append, Nat.add_assoc]

theorem le_start_of_mem_placesFrom {place : Placed α}
    (h : place ∈ placesFrom spelling start parts) : start ≤ place.start := by
  obtain ⟨before, after, -, hstart⟩ := exists_eq_append_of_mem_placesFrom h
  omega

/-- Every part ends where the next one starts, or in front of it. -/
theorem pairwise_placesFrom (start : ℕ) (parts : List α) :
    (placesFrom spelling start parts).Pairwise
      fun a b => a.start + (spelling a.part).length ≤ b.start := by
  induction parts generalizing start with
  | nil => exact List.Pairwise.nil
  | cons part parts ih => exact List.pairwise_cons.mpr ⟨fun _ => le_start_of_mem_placesFrom, ih _⟩

/-- The parts cover what they spell, each code point once. -/
theorem existsUnique_covers {i : ℕ} (hle : start ≤ i)
    (hlt : i < start + (parts.flatMap spelling).length) :
    ∃! place, place ∈ placesFrom spelling start parts ∧ place.Covers spelling i := by
  induction parts generalizing start with
  | nil =>
    rw [List.flatMap_nil, List.length_nil] at hlt
    omega
  | cons part parts ih =>
    rw [List.flatMap_cons, List.length_append] at hlt
    -- the first part covers it, or one of the others does
    by_cases hi : i < start + (spelling part).length
    · refine ⟨⟨start, part⟩, ⟨List.mem_cons_self, hle, hi⟩, ?_⟩
      rintro place ⟨hmem, hcovers⟩
      rcases List.mem_cons.mp hmem with rfl | hmem
      · rfl
      · -- all other parts start behind the first one
        have := le_start_of_mem_placesFrom hmem
        exact absurd hcovers.1 (by omega)
    · obtain ⟨place, ⟨hmem, hcovers⟩, hunique⟩ := ih (Nat.le_of_not_lt hi) (by omega)
      refine ⟨place, ⟨List.mem_cons_of_mem _ hmem, hcovers⟩, ?_⟩
      rintro other ⟨hother, hcovers'⟩
      rcases List.mem_cons.mp hother with rfl | hother
      · exact absurd hcovers'.2 hi
      · exact hunique other ⟨hother, hcovers'⟩

/-- An escape in front is the first to start. -/
theorem escapeStarts_cons_of_pos {isEscape : α → Bool} (h : isEscape part = true) :
    escapeStarts isEscape (placesFrom spelling start (part :: parts))
      = start :: escapeStarts isEscape
          (placesFrom spelling (start + (spelling part).length) parts) := by
  rw [escapeStarts, placesFrom, List.filter_cons, if_pos h, List.map_cons]
  rfl

/-- Where no escape is in front, the others are all there are. -/
theorem escapeStarts_cons_of_neg {isEscape : α → Bool} (h : ¬isEscape part = true) :
    escapeStarts isEscape (placesFrom spelling start (part :: parts))
      = escapeStarts isEscape (placesFrom spelling (start + (spelling part).length) parts) := by
  rw [escapeStarts, placesFrom, List.filter_cons, if_neg h]
  rfl

end Places

/-! ### The two cuts of a body -/

/-- Whether the item starts with a backslash. -/
def StringItem.isEscape : StringItem → Bool
  | plain _ => false
  | escaped _ => true
  | escapedLineEnd => true

/-- Whether the piece starts with a backslash. -/
def Piece.isEscape : Piece → Bool
  | plain _ => false
  | escape _ => true

/-- The items of a body and where they start. -/
def StringItem.places (items : List StringItem) : List (Placed StringItem) :=
  placesFrom spelling 0 items

/-- The pieces of a body and where they start. -/
def Piece.places (body : Text) : List (Placed Piece) := placesFrom spelling 0 (segment body)

/-- The items and the pieces start their escapes together; the plain items that follow can belong to
the escape. -/
inductive CutAlike : List StringItem → List Piece → Prop
  /-- Nothing is left of the body. -/
  | nil : CutAlike [] []
  /-- Both take a code point that stands for itself. -/
  | plain {c : CodePoint} {items : List StringItem} {pieces : List Piece} (hc : c ≠ '\\')
      (h : CutAlike items pieces) : CutAlike (.plain c :: items) (.plain c :: pieces)
  /-- Both are at a backslash. -/
  | escape {item : StringItem} {run : Text} {e : Escape} {items : List StringItem}
      {pieces : List Piece} (hitem : item.isEscape = true)
      (hspelling : (Piece.escape e).spelling = item.spelling ++ run) (h : CutAlike items pieces) :
      CutAlike (item :: (run.map .plain ++ items)) (.escape e :: pieces)

/-- Cutting a body into pieces goes along with its items. -/
theorem cutAlike_segment {quote : Quote} {items : List StringItem}
    (hwf : ∀ item ∈ items, item.WellFormed quote) :
    CutAlike items (Piece.segment (items.flatMap StringItem.spelling)) := by
  refine StringItem.inductionOnEscapes
    (P := fun items => CutAlike items (Piece.segment (items.flatMap StringItem.spelling)))
    ?nil ?plain ?escaped ?escapedLineEnd hwf
  case nil => exact .nil
  case plain =>
    intro c items hc ih
    rw [List.flatMap_cons, StringItem.spelling, List.singleton_append, Piece.segment_cons_of_ne hc]
    exact .plain hc ih
  case escaped =>
    intro c items ih
    -- The escape may take plain items along, which are cut off together with it.
    obtain ⟨run, behind, hbehind, hrun, hspelling, hsegment⟩ :=
      Piece.exists_segment_backslash_cons c (items.flatMap StringItem.spelling)
    obtain ⟨rest, rfl, rfl, hrest⟩ := ih run behind hrun hbehind
    rw [StringItem.flatMap_spelling_escaped_cons, hsegment]
    refine .escape rfl ?_ hrest
    rw [Piece.spelling, hspelling]
    rfl
  case escapedLineEnd =>
    intro items ih
    rw [Piece.segment_escapedLineEnd_cons]
    exact @CutAlike.escape _ [] _ _ _ rfl rfl ih

/-- A run of plain items has no escapes. -/
theorem StringItem.escapeStarts_map_plain_append (start : ℕ) (run : Text)
    (items : List StringItem) :
    escapeStarts isEscape (placesFrom spelling start (run.map plain ++ items))
      = escapeStarts isEscape (placesFrom spelling (start + run.length) items) := by
  induction run generalizing start with
  | nil => rfl
  | cons c run ih =>
    rw [List.map_cons, List.cons_append, escapeStarts_cons_of_neg (by simp [isEscape]), ih,
      List.length_cons, Nat.add_comm run.length, ← Nat.add_assoc]
    rfl

namespace CutAlike

variable {items : List StringItem} {pieces : List Piece}

/-- Both cuts start their escapes at the same places. -/
theorem escapeStarts_eq (h : CutAlike items pieces) (start : ℕ) :
    escapeStarts StringItem.isEscape (placesFrom StringItem.spelling start items)
      = escapeStarts Piece.isEscape (placesFrom Piece.spelling start pieces) := by
  induction h generalizing start with
  | nil => rfl
  | plain hc h ih =>
    rw [escapeStarts_cons_of_neg (by simp [StringItem.isEscape]),
      escapeStarts_cons_of_neg (by simp [Piece.isEscape]), ih]
    rfl
  -- The plain items that an escape takes along start none themselves.
  | escape hitem hspelling h ih =>
    rw [escapeStarts_cons_of_pos hitem, escapeStarts_cons_of_pos rfl,
      StringItem.escapeStarts_map_plain_append, ih, hspelling, List.length_append, Nat.add_assoc]

/-- Both cuts spell the same body. -/
theorem flatMap_spelling_eq (h : CutAlike items pieces) :
    pieces.flatMap Piece.spelling = items.flatMap StringItem.spelling := by
  induction h with
  | nil => rfl
  | plain hc h ih =>
    rw [List.flatMap_cons, List.flatMap_cons, ih]
    rfl
  | escape hitem hspelling h ih =>
    rw [List.flatMap_cons, List.flatMap_cons, List.flatMap_append,
      StringItem.flatMap_spelling_map_plain, hspelling, ih, List.append_assoc]

/-- No backslash stands for itself. -/
theorem ne_of_plain_mem (h : CutAlike items pieces) {c : CodePoint}
    (hc : Piece.plain c ∈ pieces) : c ≠ '\\' := by
  induction h with
  | nil => cases hc
  | plain hd h ih =>
    rcases List.mem_cons.mp hc with heq | hc
    · obtain rfl := Piece.plain.inj heq
      exact hd
    · exact ih hc
  | escape hitem hspelling h ih =>
    rcases List.mem_cons.mp hc with heq | hc
    · cases heq
    · exact ih hc

end CutAlike

/-! ### What stands at a place -/

namespace Piece

/-- The piece is taken in front of `behind`: an escape is the one that the scanner recognises
there, and no backslash is passed over as a code point that stands for itself. -/
def TakenBefore (behind : Text) : Piece → Prop
  | plain c => c ≠ '\\'
  | escape e => Escape.scan? (e.spelling ++ behind) = some e

/-- The first piece, and the text behind it. -/
theorem exists_of_segment_eq_cons {t : Text} {p : Piece} {ps : List Piece}
    (h : segment t = p :: ps) :
    ∃ behind, t = p.spelling ++ behind ∧ segment behind = ps ∧
      ∀ e, p = escape e → Escape.scan? (e.spelling ++ behind) = some e := by
  cases t with
  | nil => cases h
  | cons c rest =>
    -- A backslash starts an escape, unless it is the last code point.
    by_cases hc : c = '\\'
    · subst hc
      cases rest with
      | nil =>
        obtain ⟨rfl, rfl⟩ := List.cons.inj h
        exact ⟨[], rfl, rfl, fun e he => nomatch he⟩
      | cons d rest =>
        obtain ⟨run, behind, rfl, -, hspelling, hsegment⟩ := exists_segment_backslash_cons d rest
        obtain ⟨rfl, rfl⟩ := List.cons.inj (hsegment.symm.trans h)
        refine ⟨behind, by rw [spelling, hspelling]; rfl, rfl, ?_⟩
        rintro e ⟨⟩
        rw [hspelling]
        rfl
    · rw [segment_cons_of_ne hc] at h
      obtain ⟨rfl, rfl⟩ := List.cons.inj h
      exact ⟨rest, rfl, rfl, fun e he => nomatch he⟩

/-- The pieces behind some others are those of the text behind them. -/
theorem exists_of_segment_eq_append {t : Text} {before ps : List Piece}
    (h : segment t = before ++ ps) :
    ∃ behind, t = before.flatMap spelling ++ behind ∧ segment behind = ps := by
  induction before generalizing t with
  | nil => exact ⟨t, rfl, h⟩
  | cons p before ih =>
    obtain ⟨rest, rfl, hrest, -⟩ := exists_of_segment_eq_cons h
    obtain ⟨behind, rfl, hbehind⟩ := ih hrest
    exact ⟨behind, by rw [List.flatMap_cons, List.append_assoc], hbehind⟩

/-- A piece is spelled at its place, and an escape is recognised there. -/
theorem exists_drop_of_mem_places {body : Text} {place : Placed Piece}
    (h : place ∈ places body) :
    ∃ behind, body.drop place.start = place.part.spelling ++ behind ∧
      ∀ e, place.part = escape e → Escape.scan? (e.spelling ++ behind) = some e := by
  obtain ⟨before, after, hsegment, hstart⟩ := exists_eq_append_of_mem_placesFrom h
  obtain ⟨rest, hbody, hrest⟩ := exists_of_segment_eq_append hsegment
  obtain ⟨behind, rfl, -, hscan⟩ := exists_of_segment_eq_cons hrest
  refine ⟨behind, ?_, hscan⟩
  rw [hstart, Nat.zero_add, hbody, List.drop_left]

end Piece

/-- **Items and pieces start escapes at the same places.**  In a body that stands between two quotes
as a string, the same backslashes start an escape in both cuts, in the same order.  Every piece is
spelled inside the body: an escape as the scanner recognises it, and a single code point that is no
backslash.  No two pieces overlap, and every code point of the body belongs to exactly one. -/
theorem escapes_start_alike {quote : Quote} {body : Text} {items : List StringItem}
    (hparse : LiteralForm.parse (quote.mark :: (body ++ [quote.mark]))
      = .ok (.string quote items)) :
    items.flatMap StringItem.spelling = body ∧
    escapeStarts StringItem.isEscape (StringItem.places items)
      = escapeStarts Piece.isEscape (Piece.places body) ∧
    (∀ place ∈ Piece.places body, ∃ behind,
      body.drop place.start = place.part.spelling ++ behind ∧ place.part.TakenBefore behind) ∧
    (Piece.places body).Pairwise
      (fun a b => a.start + a.part.spelling.length ≤ b.start) ∧
    ∀ i < body.length, ∃! place, place ∈ Piece.places body ∧ place.Covers Piece.spelling i := by
  obtain ⟨hwf, hspelling⟩ := LiteralForm.parse_eq_ok_iff.mp hparse
  obtain rfl : items.flatMap StringItem.spelling = body :=
    List.append_cancel_right (List.cons.inj hspelling).2
  have halike := cutAlike_segment hwf
  refine ⟨rfl, halike.escapeStarts_eq 0, ?_, pairwise_placesFrom _ _, ?_⟩
  · intro place hplace
    obtain ⟨behind, hdrop, hscan⟩ := Piece.exists_drop_of_mem_places hplace
    refine ⟨behind, hdrop, ?_⟩
    -- A plain piece comes from the cut, and an escape from the scanner.
    cases hpart : place.part with
    | plain c =>
      obtain ⟨before, after, hsegment, -⟩ := exists_eq_append_of_mem_placesFrom hplace
      refine halike.ne_of_plain_mem ?_
      rw [hsegment, hpart]
      exact List.mem_append_right _ List.mem_cons_self
    | escape e => exact hscan e hpart
  · intro i hi
    refine existsUnique_covers (Nat.zero_le i) ?_
    rwa [Nat.zero_add, halike.flatMap_spelling_eq]

/-- An escaped backslash in front of what looks like an escape, one in braces, an octal one that
ends in front of an `8`, a line that goes on and an escaped quote. -/
theorem escapes_start_alike_mixed :
    let body := Text.ofString "\\\\u\x7b41\x7d\\u\x7b41\x7d\\1018\\\r\n\\\""
    let items : List StringItem := [.escaped '\\', .plain 'u', .plain '\x7b', .plain '4',
      .plain '1', .plain '\x7d', .escaped 'u', .plain '\x7b', .plain '4', .plain '1',
      .plain '\x7d', .escaped '1', .plain '0', .plain '1', .plain '8', .escapedLineEnd,
      .escaped '"']
    LiteralForm.parse (Quote.double.mark :: (body ++ [Quote.double.mark]))
        = .ok (.string .double items) ∧
      items.flatMap StringItem.spelling = body ∧
      escapeStarts StringItem.isEscape (StringItem.places items)
        = escapeStarts Piece.isEscape (Piece.places body) ∧
      (∀ place ∈ Piece.places body, ∃ behind,
        body.drop place.start = place.part.spelling ++ behind ∧ place.part.TakenBefore behind) ∧
      (Piece.places body).Pairwise
        (fun a b => a.start + a.part.spelling.length ≤ b.start) ∧
      ∀ i < body.length, ∃! place, place ∈ Piece.places body ∧ place.Covers Piece.spelling i := by
  intro body items
  have hparse : LiteralForm.parse (Quote.double.mark :: (body ++ [Quote.double.mark]))
      = .ok (.string .double items) := by decide +kernel
  exact ⟨hparse, escapes_start_alike hparse⟩

end EcmaTree
