import EcmaTree.Proofs.Literal.StringRoundTrip

/-!
# String tokens as a normal form

The token of a text depends on the units of the text and on nothing else, and texts of different
units have different tokens (`Text.stringLiteral_eq_iff`).  What is read from a literal has no
surrogate pair, so it is told apart from other such texts by its token, and its token reads as the
text again (`stringToken_normal_form`).
-/

namespace EcmaTree

/-! ### Tokens and units -/

/-- Behind ASCII a code point is written unit by unit. -/
theorem CodePoint.inStringLiteral_of_lt {c : CodePoint} (h : 0x7E < c.toNat) :
    c.inStringLiteral = c.units.flatMap CodeUnit.escaped := by
  have hne : ∀ d : CodePoint, d.toNat ≤ 0x7E → c ≠ d := by
    rintro d hd rfl
    omega
  have hprintable : ¬(decide (0x20 ≤ c.toNat) && decide (c.toNat ≤ 0x7E)) = true := by
    rw [Bool.and_eq_true, decide_eq_true_eq, decide_eq_true_eq]
    omega
  rw [inStringLiteral, if_neg (hne _ (by decide)), if_neg (hne _ (by decide)),
    if_neg (hne _ (by decide)), if_neg (hne _ (by decide)), if_neg (hne _ (by decide)),
    if_neg (hne _ (by decide)), if_neg (hne _ (by decide)), if_neg hprintable]

/-- Every code point is written like its units. -/
theorem CodePoint.inStringLiteral_eq_flatMap (c : CodePoint) :
    c.inStringLiteral = c.units.flatMap fun u => u.alone.inStringLiteral := by
  by_cases hc : c.toNat < 0x10000
  · rw [units_of_lt hc]
    exact (List.append_nil _).symm
  · obtain ⟨high, low, hunits, hhigh, hlow, -⟩ := units_of_le (Nat.not_lt.mp hc)
    simp only [CodeUnit.isHigh, CodeUnit.isLow, Bool.and_eq_true, decide_eq_true_eq] at hhigh hlow
    -- both units are surrogates, and so far behind ASCII
    have hescaped : ∀ u : CodeUnit, 0x7E < u.toNat → u.alone.inStringLiteral = u.escaped := by
      intro u hu
      rw [inStringLiteral_of_lt hu, CodeUnit.units_alone]
      exact List.append_nil _
    rw [inStringLiteral_of_lt (by omega), hunits]
    simp only [List.flatMap_cons, List.flatMap_nil, hescaped high (by omega),
      hescaped low (by omega)]

namespace Text

theorem flatMap_inStringLiteral (v : Text) :
    v.flatMap CodePoint.inStringLiteral
      = v.units.flatMap fun u => u.alone.inStringLiteral := by
  induction v with
  | nil => rfl
  | cons c v ih =>
    rw [List.flatMap_cons, units_cons, List.flatMap_append, ih,
      CodePoint.inStringLiteral_eq_flatMap]

/-- Two texts are written alike iff they have the same units. -/
theorem stringLiteral_eq_iff {v w : Text} :
    v.stringLiteral = w.stringLiteral ↔ v.units = w.units := by
  constructor
  · intro h
    have hread := read_stringLiteral v
    rw [h, read_stringLiteral] at hread
    rw [← joinSurrogates_eq_joinSurrogates_iff, joinSurrogates_eq_pairsJoined,
      joinSurrogates_eq_pairsJoined]
    exact (LiteralValue.string.inj (Except.ok.inj hread)).symm
  · intro h
    rw [stringLiteral, stringLiteral, flatMap_inStringLiteral, flatMap_inStringLiteral, h]

/-- What the body of a string stands for has no surrogate pair. -/
theorem not_hasSurrogatePair_of_unescape {body v : Text} (h : body.unescape = .ok v) :
    ¬v.HasSurrogatePair := by
  rw [unescape] at h
  split at h
  · next t _ =>
    obtain rfl := Except.ok.inj h
    exact not_hasSurrogatePair_ofUnits t.units
  · cases h

/-- What a literal is read as has no surrogate pair. -/
theorem not_hasSurrogatePair_of_read {t v : Text} (h : LiteralValue.read t = .ok (.string v)) :
    ¬v.HasSurrogatePair := by
  rw [LiteralValue.read] at h
  split at h
  · next form _ =>
    -- Only a string is read as a text, and its body goes through the units.
    cases form with
    | null => cases h
    | boolean b => cases h
    | string quote items =>
      rw [LiteralForm.value] at h
      split at h
      · next body hbody =>
        obtain rfl := LiteralValue.string.inj (Except.ok.inj h)
        exact not_hasSurrogatePair_of_unescape hbody
      · cases h
    | number negative numeral =>
      rw [LiteralForm.value] at h
      split at h <;> cases h
  · cases h

end Text

/-! ### Tokens of what was read -/

/-- **String tokens are a normal form.**  What a literal is read as has no surrogate pair and is
read back from its token; of two such texts the tokens are equal iff the texts are.  Of any two
texts the tokens are equal iff they have the same units. -/
theorem stringToken_normal_form {t₁ t₂ v₁ v₂ : Text}
    (h₁ : LiteralValue.read t₁ = .ok (.string v₁)) (h₂ : LiteralValue.read t₂ = .ok (.string v₂)) :
    (∃ s₁ s₂ : Text, Builder.stringToken.build [.text v₁] = .ok (Token.literal .string s₁) ∧
      Builder.stringToken.build [.text v₂] = .ok (Token.literal .string s₂) ∧
      ¬v₁.HasSurrogatePair ∧
      (Token.literal .string s₁).property .literalValue = .ok (.text v₁) ∧
      (s₁ = s₂ ↔ v₁ = v₂)) ∧
    ∀ v w : Text, ∃ s s' : Text,
      Builder.stringToken.build [.text v] = .ok (Token.literal .string s) ∧
      Builder.stringToken.build [.text w] = .ok (Token.literal .string s') ∧
      (s = s' ↔ v.units = w.units) := by
  have hpair₁ := Text.not_hasSurrogatePair_of_read h₁
  have hpair₂ := Text.not_hasSurrogatePair_of_read h₂
  constructor
  · refine ⟨_, _, stringToken_build v₁, stringToken_build v₂, hpair₁, ?_, ?_⟩
    · rw [property_literalValue_stringLiteral, (Text.pairsJoined_eq_self_iff v₁).mpr hpair₁]
    · rw [Text.stringLiteral_eq_iff, ← Text.joinSurrogates_eq_joinSurrogates_iff,
        (Text.joinSurrogates_eq_self_iff v₁).mpr hpair₁,
        (Text.joinSurrogates_eq_self_iff v₂).mpr hpair₂]
  · exact fun v w => ⟨_, _, stringToken_build v, stringToken_build w, Text.stringLiteral_eq_iff⟩

/-- Two surrogates that make a pair, and the same two the other way round. -/
theorem stringToken_normal_form_surrogates :
    let t₁ := Text.ofString "\"\\ud83d\\ude00\""
    let t₂ := Text.ofString "'\\ude00\\ud83d'"
    let v₁ := Text.ofString "😀"
    let v₂ : Text := [⟨0xDE00, by decide⟩, ⟨0xD83D, by decide⟩]
    LiteralValue.read t₁ = .ok (.string v₁) ∧ LiteralValue.read t₂ = .ok (.string v₂) ∧
      (∃ s₁ s₂ : Text, Builder.stringToken.build [.text v₁] = .ok (Token.literal .string s₁) ∧
        Builder.stringToken.build [.text v₂] = .ok (Token.literal .string s₂) ∧
        ¬v₁.HasSurrogatePair ∧
        (Token.literal .string s₁).property .literalValue = .ok (.text v₁) ∧
        (s₁ = s₂ ↔ v₁ = v₂)) ∧
      ∀ v w : Text, ∃ s s' : Text,
        Builder.stringToken.build [.text v] = .ok (Token.literal .string s) ∧
        Builder.stringToken.build [.text w] = .ok (Token.literal .string s') ∧
        (s = s' ↔ v.units = w.units) := by
  intro t₁ t₂ v₁ v₂
  have h₁ : LiteralValue.read t₁ = .ok (.string v₁) := by decide +kernel
  have h₂ : LiteralValue.read t₂ = .ok (.string v₂) := by decide +kernel
  exact ⟨h₁, h₂, stringToken_normal_form h₁ h₂⟩

end EcmaTree
