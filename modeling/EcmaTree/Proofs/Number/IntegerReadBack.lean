import EcmaTree.Proofs.Number.IntegerText

/-!
# Tokens of integers read back

The token of an integer below `10 ^ 21` stands for that integer.  From there on it stands for the
binary64 number nearest to the integer, which is infinite just from `2 ^ 1024 - 2 ^ 970` on, the
middle between the largest finite number and the power of two behind it
(`integerToken_read_back`).
-/

namespace EcmaTree

namespace Magnitude

/-- An odd rank gives way to the next one in the middle between the two. -/
theorem IsNearest.succ_le_iff_of_odd {q : ℚ} {r s : ℕ} (h : IsNearest q r) (hs : s % 2 = 1) :
    s + 1 ≤ r ↔ (Magnitude.unitsAt s : ℚ) + Magnitude.unitsAt (s + 1) ≤ 2 * q := by
  constructor
  · intro hr
    have hmiddle := h.middle_le (Nat.lt_of_succ_le hr)
    have hle : (Magnitude.unitsAt (s + 1) : ℚ) ≤ Magnitude.unitsAt r := by
      exact_mod_cast unitsAt_strictMono.monotone hr
    linarith
  · intro hq
    by_contra hr
    have hmiddle := h.le_middle (not_le.mp hr)
    rcases Nat.lt_or_eq_of_le (Nat.le_of_lt_succ (not_le.mp hr)) with hlt | rfl
    · have hstep : (Magnitude.unitsAt r : ℚ) < Magnitude.unitsAt s := by
        exact_mod_cast unitsAt_strictMono hlt
      linarith
    · -- in the middle itself only the even one of the two is nearest
      have heven := h.even_of_middle (Nat.succ_ne_self r) (le_antisymm hmiddle hq)
      omega

/-- The middle between the largest magnitude and the rank behind it. -/
theorem unitsAt_overflow :
    unitsAt 0x7FEFFFFFFFFFFFFF + unitsAt (0x7FEFFFFFFFFFFFFF + 1)
      = 2 * ((2 ^ 1024 - 2 ^ 970) * unitsPerOne) := by decide +kernel

/-- Numbers overflow from that middle on, because the largest magnitude has an odd rank. -/
theorem IsNearest.overflow_iff {q : ℚ} {r : ℕ} (h : IsNearest (q * unitsPerOne) r) :
    0x7FF0000000000000 ≤ r ↔ ((2 ^ 1024 - 2 ^ 970 : ℕ) : ℚ) ≤ q := by
  refine (h.succ_le_iff_of_odd (s := 0x7FEFFFFFFFFFFFFF) rfl).trans ?_
  -- the bound is a variable here, so that its powers are not worked out
  obtain ⟨bound, hbound⟩ : ∃ bound : ℕ, bound = 2 ^ 1024 - 2 ^ 970 := ⟨_, rfl⟩
  have hmiddle := unitsAt_overflow
  rw [← hbound] at hmiddle ⊢
  rw [← Nat.cast_add, hmiddle, Nat.cast_mul, Nat.cast_ofNat, Nat.cast_mul,
    mul_le_mul_iff_of_pos_left two_pos, mul_le_mul_iff_of_pos_right unitsPerOne_cast_pos]

end Magnitude

namespace Binary64

theorem ofRank_eq_infinity_iff {negative : Bool} {r : ℕ} :
    ofRank negative r = infinity negative ↔ 0x7FF0000000000000 ≤ r := by
  constructor
  · intro h
    by_contra hlt
    rw [ofRank, dif_pos (not_le.mp hlt)] at h
    cases h
  · exact ofRank_of_le

/-- Integers overflow from the middle behind the largest finite number on. -/
theorem ofRank_eq_infinity_iff_of_isNearest {n : ℤ} {r : ℕ}
    (h : Magnitude.IsNearest ((n.natAbs : ℚ) * unitsPerOne) r) :
    ofRank (n < 0) r = infinity (n < 0) ↔ 2 ^ 1024 - 2 ^ 970 ≤ n.natAbs := by
  rw [ofRank_eq_infinity_iff, h.overflow_iff]
  exact Nat.cast_le

end Binary64

/-- What the text of an integer reads as. -/
theorem read_source_int (n : ℤ) :
    LiteralValue.read (Number.int n).source
      = .ok (.number (if n.natAbs < 10 ^ 21 then .int n else .float (Binary64.ofInt n))) := by
  split
  · next hlt => exact read_source_int_of_lt hlt
  · next hge => exact read_source_int_of_ge (not_lt.mp hge)

/-- **Integer tokens read back.**  The token of an integer below `10 ^ 21` stands for the integer,
and that of any other one for the nearest binary64 number, which is infinite iff the integer
overflows. -/
theorem integerToken_read_back (n : ℤ) :
    ∃ (t : Text) (v : Number) (r : ℕ),
      Builder.numberToken.build [.number (.int n)] = .ok (Token.literal .number t) ∧
      (Token.literal .number t).property .literalValue = .ok (.number v) ∧
      Magnitude.IsNearest ((n.natAbs : ℚ) * unitsPerOne) r ∧
      v = (if n.natAbs < 10 ^ 21 then .int n else .float (Binary64.ofRank (n < 0) r)) ∧
      (Binary64.ofRank (n < 0) r = .infinity (n < 0) ↔ 2 ^ 1024 - 2 ^ 970 ≤ n.natAbs) := by
  obtain ⟨r, hr⟩ := Magnitude.exists_isNearest
    (mul_nonneg (Nat.cast_nonneg n.natAbs) unitsPerOne_cast_pos.le)
  refine ⟨_, _, r, numberToken_build _, property_literalValue (read_source_int n), hr, ?_,
    Binary64.ofRank_eq_infinity_iff_of_isNearest hr⟩
  rw [Binary64.ofInt_eq_ofRank hr]

end EcmaTree
