import EcmaTree.Number.Shortest
import EcmaTree.Proofs.Number.Nearest
import Mathlib.Algebra.Order.Field.Power

/-!
# Decimals read correctly rounded

`Binary64.ofDecimal` gives the number nearest to the value of the decimal, or infinity where the
nearest rank is past the largest magnitude (`Binary64.ofDecimal_eq_ofRank`).  The tests that keep
large powers from being taken do not show in the result, so what is read depends on the value of
the decimal alone (`Binary64.ofDecimal_congr`).  The same holds of integers
(`Binary64.ofInt_eq_ofRank`).
-/

namespace EcmaTree

/-- The value of a decimal. -/
def Decimal.value (d : Decimal) : ℚ := d.significand * (10 : ℚ) ^ d.exponent

theorem Decimal.value_nonneg (d : Decimal) : 0 ≤ d.value :=
  mul_nonneg (Nat.cast_nonneg _) (zpow_nonneg (by norm_num) _)

/-- A factor that is a power of ten moves between significand and exponent. -/
theorem Decimal.value_mul_pow (s k : ℕ) (e : ℤ) :
    Decimal.value ⟨s * 10 ^ k, e⟩ = Decimal.value ⟨s, k + e⟩ := by
  unfold value
  rw [zpow_add₀ (by norm_num), zpow_natCast]
  push_cast
  ring

/-- With an exponent that is no less than zero, a decimal is a whole number. -/
theorem Decimal.value_natCast (s k : ℕ) : Decimal.value ⟨s, k⟩ = (s * 10 ^ k : ℕ) := by
  unfold value
  rw [zpow_natCast]
  push_cast
  rfl

/-- The value of a magnitude. -/
def Magnitude.value (x : Magnitude) : ℚ := x.units / unitsPerOne

theorem unitsPerOne_cast_pos : (0 : ℚ) < unitsPerOne := by exact_mod_cast unitsPerOne_pos

theorem Magnitude.value_mul_unitsPerOne (x : Magnitude) :
    x.value * unitsPerOne = unitsAt x.rank := by
  rw [value, div_mul_cancel₀ _ unitsPerOne_cast_pos.ne', units_eq_unitsAt]

namespace Binary64

open Magnitude

/-! ### Numbers by rank -/

/-- The number of a rank, which is infinite past the largest magnitude. -/
def ofRank (negative : Bool) (r : ℕ) : Binary64 :=
  if h : r < 0x7FF0000000000000 then finite negative ⟨r, h⟩ else infinity negative

theorem ofRank_rank (negative : Bool) (x : Magnitude) :
    ofRank negative x.rank = finite negative x := by
  rw [ofRank, dif_pos x.isLt]

/-- The number of a rank is a given magnitude iff that has the rank. -/
theorem ofRank_eq_finite_iff {negative : Bool} {r : ℕ} {x : Magnitude} :
    ofRank negative r = finite negative x ↔ r = x.rank := by
  constructor
  · intro h
    unfold ofRank at h
    split at h
    · injection h with _ hx
      rw [← hx]
    · cases h
  · rintro rfl
    exact ofRank_rank negative x

/-- Past the largest magnitude everything is infinite. -/
theorem ofRank_of_le {negative : Bool} {r : ℕ} (h : 0x7FF0000000000000 ≤ r) :
    ofRank negative r = infinity negative := by
  rw [ofRank, dif_neg (by omega)]

/-- Stated of functions, because with arguments the check of the definition would go on to compute
the magnitude, on a factor of `2 ^ 1074` that is counted down one by one. -/
theorem ofRatio_eq : ofRatio = fun negative num den =>
    match Magnitude.ofRatio? num den with
    | some x => finite negative x
    | none => infinity negative := by
  delta ofRatio
  rfl

/-- A ratio is rounded to the nearest number. -/
theorem ofRatio_eq_ofRank {negative : Bool} {num den r : ℕ} (hden : 0 < den)
    (h : IsNearest ((num : ℚ) / den * unitsPerOne) r) :
    ofRatio negative num den = ofRank negative r := by
  have hnearest := nearestRank_isNearest (num * unitsPerOne) hden
  rw [Nat.cast_mul, mul_div_right_comm] at hnearest
  obtain rfl : nearestRank (num * unitsPerOne) den = r := hnearest.eq h
  rw [ofRatio_eq, ofRank]
  by_cases hlt : nearestRank (num * unitsPerOne) den < 0x7FF0000000000000
  · have hsome : ofRatio? num den = some ⟨_, hlt⟩ := dif_pos hlt
    simp only [hsome, dif_pos hlt]
  · have hnone : ofRatio? num den = none := dif_neg hlt
    simp only [hnone, dif_neg hlt]

/-! ### Decimals -/

/-- From `10 ^ 309` on everything is infinite. -/
theorem le_rank_of_exponent {s r : ℕ} {e : ℤ} (hs : s ≠ 0) (he : 309 ≤ e)
    (h : IsNearest (Decimal.value ⟨s, e⟩ * unitsPerOne) r) : 0x7FF0000000000000 ≤ r := by
  refine (IsNearest.unitsAt 0x7FF0000000000000).le h ?_
  have hs1 : (1 : ℚ) ≤ s := by exact_mod_cast Nat.one_le_iff_ne_zero.mpr hs
  -- the exponent is a variable here, so that its power is not worked out
  obtain ⟨k, hk, hbig⟩ : ∃ k : ℕ, k = 309 ∧
      unitsAt 0x7FF0000000000000 ≤ 10 ^ k * unitsPerOne := by
    refine ⟨309, rfl, ?_⟩
    decide +kernel
  have hpow : (10 : ℚ) ^ k ≤ 10 ^ e := by
    rw [← zpow_natCast]
    exact zpow_le_zpow_right₀ (by norm_num) (by omega)
  calc (unitsAt 0x7FF0000000000000 : ℚ) ≤ 10 ^ k * unitsPerOne := by exact_mod_cast hbig
    _ ≤ s * 10 ^ e * unitsPerOne := by
      refine mul_le_mul_of_nonneg_right ?_ unitsPerOne_cast_pos.le
      calc (10 : ℚ) ^ k ≤ 10 ^ e := hpow
        _ ≤ s * 10 ^ e := le_mul_of_one_le_left (zpow_nonneg (by norm_num) _) hs1

/-- A negative power of ten is below the same power of eight. -/
theorem ten_zpow_le {e : ℤ} (he : e ≤ 0) : (10 : ℚ) ^ e ≤ 2 ^ (3 * e) := by
  obtain ⟨k, rfl⟩ : ∃ k : ℕ, e = -k := ⟨e.natAbs, by omega⟩
  have height : (2 : ℚ) ^ (3 : ℤ) = 8 := by norm_num
  rw [zpow_mul, height, zpow_neg, zpow_neg, zpow_natCast, zpow_natCast]
  exact inv_anti₀ (by positivity) (pow_le_pow_left₀ (by norm_num) (by norm_num) k)

/-- What has its leading binary place far enough down is below half a unit. -/
theorem isNearest_zero_of_log2 {s : ℕ} {e : ℤ} (hlog : s.log2 + 1 + 3 * e < -1075) :
    IsNearest (Decimal.value ⟨s, e⟩ * unitsPerOne) 0 := by
  have hvalue := Decimal.value_nonneg ⟨s, e⟩
  refine IsNearest.zero (mul_nonneg hvalue unitsPerOne_cast_pos.le) ?_
  -- The significand is below the power of two behind its leading place, and the power of ten is not
  -- above that of eight.
  have hs : (s : ℚ) < 2 ^ ((s.log2 : ℤ) + 1) := by
    have hnat : s < 2 ^ (s.log2 + 1) := Nat.lt_log2_self
    exact_mod_cast hnat
  have hpow : (10 : ℚ) ^ e ≤ 2 ^ (3 * e) := ten_zpow_le (by omega)
  obtain ⟨k, hk, hone⟩ := exists_unitsPerOne_eq_pow
  have htwo : (2 : ℚ) ≠ 0 := by norm_num
  have hpos : (0 : ℚ) < 10 ^ e := zpow_pos (by norm_num) e
  have hlt : Decimal.value ⟨s, e⟩ < 2 ^ ((s.log2 : ℤ) + 1 + 3 * e) := by
    rw [zpow_add₀ htwo]
    exact mul_lt_mul hs hpow hpos (zpow_nonneg (by norm_num) _)
  calc 2 * (Decimal.value ⟨s, e⟩ * unitsPerOne)
      < 2 * (2 ^ ((s.log2 : ℤ) + 1 + 3 * e) * unitsPerOne) := by
        have := mul_lt_mul_of_pos_right hlt unitsPerOne_cast_pos
        linarith
    _ = 2 ^ (1 + ((s.log2 : ℤ) + 1 + 3 * e + k)) := by
        rw [zpow_add₀ htwo 1, zpow_one, zpow_add₀ htwo _ (k : ℤ), zpow_natCast, hone]
        push_cast
        rfl
    _ ≤ 2 ^ (0 : ℤ) := zpow_le_zpow_right₀ (by norm_num) (by omega)
    _ = 1 := zpow_zero 2

/-- A decimal reads as the number nearest to its value. -/
theorem ofDecimal_eq_ofRank {s r : ℕ} {e : ℤ}
    (h : IsNearest (Decimal.value ⟨s, e⟩ * unitsPerOne) r) : ofDecimal s e = ofRank false r := by
  -- Zero, the overflow and the underflow are told by the size alone.  Between them the decimal is
  -- an exact ratio, with the power of ten above or below.
  unfold ofDecimal
  split
  · next hs =>
    have hzero : IsNearest (Decimal.value ⟨s, e⟩ * unitsPerOne) 0 := by
      rw [Decimal.value, hs, Nat.cast_zero, zero_mul, zero_mul]
      exact IsNearest.unitsAt 0
    rw [h.eq hzero]
    rfl
  · next hs =>
    split
    · next he => rw [ofRank_of_le (le_rank_of_exponent hs he h)]
    · split
      · next hlog =>
        rw [h.eq (isNearest_zero_of_log2 hlog)]
        rfl
      · split
        · next he =>
          refine ofRatio_eq_ofRank one_pos ?_
          have hcast : ((s * Nat.pow 10 e.toNat : ℕ) : ℚ) / (1 : ℕ) = Decimal.value ⟨s, e⟩ := by
            rw [Nat.pow_eq, Nat.cast_one, div_one, ← Decimal.value_natCast, Int.toNat_of_nonneg he]
          rwa [hcast]
        · next he =>
          refine ofRatio_eq_ofRank (Nat.pow_pos (by omega)) ?_
          have hcast : (s : ℚ) / (Nat.pow 10 e.natAbs : ℕ) = Decimal.value ⟨s, e⟩ := by
            have hneg : e = -(e.natAbs : ℤ) := by omega
            rw [Decimal.value]
            conv_rhs => rw [hneg, zpow_neg, zpow_natCast]
            rw [Nat.pow_eq, div_eq_mul_inv]
            push_cast
            rfl
          rwa [hcast]

/-- What a decimal reads as depends on its value alone. -/
theorem ofDecimal_congr {s s' : ℕ} {e e' : ℤ}
    (h : Decimal.value ⟨s, e⟩ = Decimal.value ⟨s', e'⟩) : ofDecimal s e = ofDecimal s' e' := by
  obtain ⟨r, hr⟩ := exists_isNearest
    (mul_nonneg (Decimal.value_nonneg ⟨s, e⟩) unitsPerOne_cast_pos.le)
  rw [ofDecimal_eq_ofRank hr, ofDecimal_eq_ofRank (h ▸ hr)]

/-- An integer is rounded to the nearest number. -/
theorem ofInt_eq_ofRank {n : ℤ} {r : ℕ} (h : IsNearest ((n.natAbs : ℚ) * unitsPerOne) r) :
    ofInt n = ofRank (n < 0) r := by
  refine ofRatio_eq_ofRank one_pos ?_
  rwa [Nat.cast_one, div_one]

end Binary64

end EcmaTree
