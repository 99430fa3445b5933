import EcmaTree.Build.Builder
import EcmaTree.Build.Property
import EcmaTree.Proofs.Literal.Segmentation
import EcmaTree.Proofs.Text.Surrogates

/-!
# String tokens read back

A string token spells any text in printable ASCII, and reading the token gives the text back with
its surrogate pairs joined (`stringToken_round_trip`).

Writing escapes a code point unit by unit, so what decoding makes of the body is not the text but
its units, each as a code point of its own (`Text.decodesTo_flatMap_inStringLiteral`).  The units of
that are again the units of the text, and joining pairs looks at nothing else.
-/

namespace EcmaTree

/-! ### Decoding what an escape stands for -/

/-- Decoding the body `t` gives `s`, wherever the body stands. -/
def Text.DecodesTo (t s : Text) : Prop :=
  ∀ column, Piece.decodeAll column (Piece.segment t) = .ok s

namespace Text

theorem decodesTo_nil : DecodesTo [] [] := fun _ => rfl

theorem DecodesTo.cons {c : CodePoint} {rest s : Text} (hc : c ≠ '\\') (h : rest.DecodesTo s) :
    DecodesTo (c :: rest) (c :: s) := by
  intro column
  rw [Piece.segment_cons_of_ne hc, Piece.decodeAll, Piece.decode]
  simp only [h _]
  rfl

theorem DecodesTo.escape {c : CodePoint} {rest s : Text} (e : Escape) (run here : Text)
    (hscan : Escape.scanFrom c (run ++ rest) = e) (hspelling : e.spelling = c :: run)
    (hdecode : ∀ column, e.decode column = .ok here) (h : rest.DecodesTo s) :
    DecodesTo (CodePoint.ofChar '\\' :: c :: (run ++ rest)) (here ++ s) := by
  intro column
  rw [Piece.segment_backslash_cons, hscan, hspelling, List.length_cons, List.drop_succ_cons,
    List.drop_left, Piece.decodeAll, Piece.decode, hdecode]
  simp only [h _]

/-- A backslash and a letter or sign. -/
theorem DecodesTo.single {c d : CodePoint} {rest s : Text}
    (hscan : Escape.scanFrom c rest = .single c)
    (hdecode : ∀ column, (Escape.single c).decode column = .ok [d]) (h : rest.DecodesTo s) :
    DecodesTo (CodePoint.ofChar '\\' :: c :: rest) (d :: s) :=
  DecodesTo.escape (.single c) [] [d] hscan rfl hdecode h

end Text

/-! ### Units -/

theorem CodePoint.isHexDigit_ofDigit {d : ℕ} (h : d < 16) :
    Escape.isHexDigit (CodePoint.ofDigit d) = true := by
  rw [Escape.isHexDigit, CodePoint.hexDigit?_ofDigit h]
  rfl

theorem Text.leadingHex_hex_append (width n : ℕ) (rest : Text) :
    (hex width n ++ rest).LeadingHex width (hex width n) := by
  refine ⟨length_hex width n, fun c hc => ?_, List.prefix_append _ _⟩
  obtain ⟨d, hd, rfl⟩ := exists_ofDigit_of_mem_hex hc
  exact CodePoint.isHexDigit_ofDigit hd

/-- The escape of a unit stands for the unit. -/
theorem Text.DecodesTo.unit {rest s : Text} (h : rest.DecodesTo s) (u : CodeUnit) :
    DecodesTo (u.escaped ++ rest) (u.alone :: s) := by
  have hvalue : valueOf 16 CodePoint.hexDigit? (hex 4 u.toNat) = u.toNat := by
    rw [valueOf_hex]
    exact Nat.mod_eq_of_lt u.isLt
  refine DecodesTo.escape (.unit (hex 4 u.toNat)) (hex 4 u.toNat) [u.alone]
    (Escape.scanFrom_of_leadingHex_four (leadingHex_hex_append 4 u.toNat rest)) rfl
    (fun column => ?_) h
  have hlt := u.isLt
  rw [Escape.decode, Escape.numbered, hvalue, CodePoint.ofNat?, dif_pos (by omega)]
  rfl

theorem Text.DecodesTo.units {rest s : Text} (h : rest.DecodesTo s) (us : List CodeUnit) :
    DecodesTo (us.flatMap CodeUnit.escaped ++ rest) (us.map CodeUnit.alone ++ s) := by
  induction us with
  | nil => exact h
  | cons u us ih =>
    rw [List.flatMap_cons, List.append_assoc, List.map_cons, List.cons_append]
    exact ih.unit u

theorem CodePoint.map_alone_units_of_lt {c : CodePoint} (h : c.toNat < 0x10000) :
    c.units.map CodeUnit.alone = [c] := by
  rw [units_of_lt h]
  rfl

/-! ### Code points in a string literal -/

/-- What a string literal holds for a code point decodes to its units. -/
theorem Text.DecodesTo.inStringLiteral {rest s : Text} (h : rest.DecodesTo s) (c : CodePoint) :
    DecodesTo (c.inStringLiteral ++ rest) (c.units.map CodeUnit.alone ++ s) := by
  rw [CodePoint.inStringLiteral]
  -- seven code points have a letter or sign of their own, and are one unit each
  split_ifs with hquote hbackslash hb hf hn hr ht hprintable
  · subst hquote
    exact DecodesTo.single rfl (fun _ => rfl) h
  · subst hbackslash
    exact DecodesTo.single rfl (fun _ => rfl) h
  · subst hb
    exact DecodesTo.single rfl (fun _ => rfl) h
  · subst hf
    exact DecodesTo.single rfl (fun _ => rfl) h
  · subst hn
    exact DecodesTo.single rfl (fun _ => rfl) h
  · subst hr
    exact DecodesTo.single rfl (fun _ => rfl) h
  · subst ht
    exact DecodesTo.single rfl (fun _ => rfl) h
  · rw [Bool.and_eq_true, decide_eq_true_eq, decide_eq_true_eq] at hprintable
    rw [CodePoint.map_alone_units_of_lt (by omega)]
    exact DecodesTo.cons hbackslash h
  · exact h.units c.units

theorem Text.decodesTo_flatMap_inStringLiteral (v : Text) :
    DecodesTo (v.flatMap CodePoint.inStringLiteral)
      (v.flatMap fun c => c.units.map CodeUnit.alone) := by
  induction v with
  | nil => exact decodesTo_nil
  | cons c v ih =>
    rw [List.flatMap_cons, List.flatMap_cons]
    exact ih.inStringLiteral c

/-- Writing the units of a text as code points changes no unit. -/
theorem Text.units_flatMap_units (v : Text) :
    units (v.flatMap fun c => c.units.map CodeUnit.alone) = units v := by
  induction v with
  | nil => rfl
  | cons c v ih => rw [List.flatMap_cons, units_append, units_map_alone, ih, units_cons]

theorem Text.unescape_flatMap_inStringLiteral (v : Text) :
    unescape (v.flatMap CodePoint.inStringLiteral) = .ok v.pairsJoined := by
  have hjoin : joinSurrogates (v.flatMap fun c => c.units.map CodeUnit.alone) = v.pairsJoined := by
    rw [← joinSurrogates_eq_pairsJoined, joinSurrogates, units_flatMap_units]
    rfl
  rw [unescape, decodesTo_flatMap_inStringLiteral v 2]
  simp only [hjoin]

/-! ### The text of a string literal -/

/-- Printable ASCII that can stand between double quotes. -/
def Text.IsPrintableBody (t : Text) : Prop :=
  (∀ c ∈ t, 0x20 ≤ c.toNat ∧ c.toNat ≤ 0x7E) ∧
    ∃ items : List StringItem, (∀ item ∈ items, item.WellFormed .double) ∧
      items.flatMap StringItem.spelling = t

namespace Text

theorem isPrintableBody_nil : IsPrintableBody [] :=
  ⟨by simp, [], by simp, rfl⟩

theorem IsPrintableBody.append {s t : Text} (hs : s.IsPrintableBody) (ht : t.IsPrintableBody) :
    (s ++ t).IsPrintableBody := by
  obtain ⟨hs, items, hitems, rfl⟩ := hs
  obtain ⟨ht, others, hothers, rfl⟩ := ht
  refine ⟨List.forall_mem_append.mpr ⟨hs, ht⟩, items ++ others,
    List.forall_mem_append.mpr ⟨hitems, hothers⟩, List.flatMap_append⟩

theorem isPrintableBody_flatMap {α : Type} {f : α → Text} {xs : List α}
    (h : ∀ x ∈ xs, (f x).IsPrintableBody) : IsPrintableBody (xs.flatMap f) := by
  induction xs with
  | nil => exact isPrintableBody_nil
  | cons x xs ih =>
    obtain ⟨hx, hxs⟩ := List.forall_mem_cons.mp h
    rw [List.flatMap_cons]
    exact hx.append (ih hxs)

theorem isPrintableBody_singleton {c : CodePoint} (hquote : c ≠ '"') (hbackslash : c ≠ '\\')
    (hprintable : 0x20 ≤ c.toNat ∧ c.toNat ≤ 0x7E) : IsPrintableBody [c] := by
  refine ⟨by simpa using hprintable, [.plain c], ?_, rfl⟩
  rw [List.forall_mem_singleton]
  refine ⟨hquote, hbackslash, ?_, ?_⟩ <;> rintro rfl <;> exact absurd hprintable (by decide)

theorem isPrintableBody_escaped {c : CodePoint} (hprintable : 0x20 ≤ c.toNat ∧ c.toNat ≤ 0x7E) :
    IsPrintableBody [CodePoint.ofChar '\\', c] := by
  refine ⟨?_, [.escaped c], by simp [StringItem.WellFormed], rfl⟩
  rw [List.forall_mem_cons, List.forall_mem_singleton]
  exact ⟨by decide, hprintable⟩

theorem isPrintableBody_ofDigit {d : ℕ} (h : d < 16) :
    IsPrintableBody [CodePoint.ofDigit d] := by
  interval_cases d <;> exact isPrintableBody_singleton (by decide) (by decide) (by decide)

theorem isPrintableBody_hex (width n : ℕ) : IsPrintableBody (hex width n) := by
  induction width generalizing n with
  | zero => exact isPrintableBody_nil
  | succ width ih => exact (ih _).append (isPrintableBody_ofDigit (Nat.mod_lt n (by omega)))

theorem isPrintableBody_escapedUnit (u : CodeUnit) : IsPrintableBody u.escaped :=
  (isPrintableBody_escaped (c := 'u') (by decide)).append (isPrintableBody_hex 4 u.toNat)

theorem isPrintableBody_inStringLiteral (c : CodePoint) : c.inStringLiteral.IsPrintableBody := by
  rw [CodePoint.inStringLiteral]
  split_ifs with hquote hbackslash hb hf hn hr ht hprintable
  · exact isPrintableBody_escaped (c := '"') (by decide)
  · exact isPrintableBody_escaped (c := '\\') (by decide)
  · exact isPrintableBody_escaped (c := 'b') (by decide)
  · exact isPrintableBody_escaped (c := 'f') (by decide)
  · exact isPrintableBody_escaped (c := 'n') (by decide)
  · exact isPrintableBody_escaped (c := 'r') (by decide)
  · exact isPrintableBody_escaped (c := 't') (by decide)
  · rw [Bool.and_eq_true, decide_eq_true_eq, decide_eq_true_eq] at hprintable
    exact isPrintableBody_singleton hquote hbackslash hprintable
  · exact isPrintableBody_flatMap fun u _ => isPrintableBody_escapedUnit u

end Text

/-- A string literal is printable, and parses as a string. -/
theorem Text.exists_parse_stringLiteral (v : Text) :
    (∀ c ∈ v.stringLiteral, 0x20 ≤ c.toNat ∧ c.toNat ≤ 0x7E) ∧
      ∃ items, LiteralForm.parse v.stringLiteral = .ok (.string .double items) ∧
        items.flatMap StringItem.spelling = v.flatMap CodePoint.inStringLiteral := by
  obtain ⟨hprintable, items, hitems, hspelling⟩ :=
    isPrintableBody_flatMap fun c (_ : c ∈ v) => isPrintableBody_inStringLiteral c
  have hquote : ∀ c ∈ ofString "\"", 0x20 ≤ c.toNat ∧ c.toNat ≤ 0x7E := by decide
  refine ⟨?_, items, ?_, hspelling⟩
  · rw [stringLiteral, List.forall_mem_append, List.forall_mem_append]
    exact ⟨⟨hquote, hprintable⟩, hquote⟩
  · refine LiteralForm.parse_eq_ok_iff.mpr ⟨hitems, ?_⟩
    rw [LiteralForm.spelling, hspelling]
    rfl

/-- Reading the literal of a text joins its surrogate pairs. -/
theorem read_stringLiteral (t : Text) :
    LiteralValue.read t.stringLiteral = .ok (.string t.pairsJoined) := by
  obtain ⟨-, items, hparse, hspelling⟩ := Text.exists_parse_stringLiteral t
  rw [LiteralValue.read, hparse]
  simp only [LiteralForm.value, hspelling, Text.unescape_flatMap_inStringLiteral]

theorem property_literalValue_stringLiteral (v : Text) :
    (Token.literal .string v.stringLiteral).property .literalValue
      = .ok (.text v.pairsJoined) := by
  show Built.literalValue v.stringLiteral = _
  rw [Built.literalValue, read_stringLiteral]
  rfl

theorem stringToken_build (v : Text) :
    Builder.stringToken.build [.text v] = .ok (Token.literal .string v.stringLiteral) := by
  simp only [Builder.build, Builder.unary, Token.data, Value.json_text]
  rfl

/-- **String tokens read back.**  The token of a text is spelled in printable ASCII, its spelling is
one string literal, and what it stands for is the text with its surrogate pairs joined, which is the
text itself iff there are none. -/
theorem stringToken_round_trip (v : Text) :
    ∃ t : Text, Builder.stringToken.build [.text v] = .ok (Token.literal .string t) ∧
      (∀ c ∈ t, 0x20 ≤ c.toNat ∧ c.toNat ≤ 0x7E) ∧
      (∃ items, LiteralForm.parse t = .ok (.string .double items)) ∧
      (Token.literal .string t).property .literalValue = .ok (.text v.pairsJoined) ∧
      ((Token.literal .string t).property .literalValue = .ok (.text v) ↔
        ¬v.HasSurrogatePair) := by
  obtain ⟨hprintable, items, hparse, -⟩ := Text.exists_parse_stringLiteral v
  have hvalue := property_literalValue_stringLiteral v
  refine ⟨v.stringLiteral, stringToken_build v, hprintable, ⟨items, hparse⟩, hvalue, ?_⟩
  rw [hvalue, ← Text.pairsJoined_eq_self_iff, Except.ok.injEq, Value.text.injEq]

end EcmaTree
