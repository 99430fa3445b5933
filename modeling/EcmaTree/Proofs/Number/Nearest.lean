import EcmaTree.Number.Rounding
import Mathlib.Algebra.Order.Field.Basic
import Mathlib.Data.Rat.Cast.Order
import Mathlib.Order.Monotone.Basic
import Mathlib.Tactic.FieldSimp
import Mathlib.Tactic.Linarith
import Mathlib.Tactic.Positivity
import Mathlib.Tactic.Ring

/-!
# The nearest rank

A rank is nearest to a number of units if no other rank has its value closer, and if a rank with
its value equally close leaves the choice to the even one (`Magnitude.IsNearest`).  There is one
nearest rank (`Magnitude.IsNearest.eq`), it grows with the number (`Magnitude.IsNearest.le`), and
`Magnitude.nearestRank` computes it (`Magnitude.nearestRank_isNearest`).

Ranks go on past the largest magnitude here, as they do in the computation; what lies there is
infinity.
-/

namespace EcmaTree

theorem unitsPerOne_pos : 0 < unitsPerOne := by decide +kernel

/-- The exponent is a variable, so that nothing works the power out. -/
theorem exists_unitsPerOne_eq_pow : ∃ k : ℕ, k = 1074 ∧ unitsPerOne = 2 ^ k := by
  refine ⟨1074, rfl, ?_⟩
  decide +kernel

namespace Magnitude

/-! ### The values of all ranks -/

/-- The value of a rank in units. -/
def unitsAt (r : ℕ) : ℕ :=
  if r < 0x10000000000000 then r
  else (0x10000000000000 + r % 0x10000000000000) * 2 ^ (r / 0x10000000000000 - 1)

theorem units_eq_unitsAt (x : Magnitude) : x.units = unitsAt x.rank := rfl

/-- From one rank to the next is a power of two. -/
theorem unitsAt_succ (r : ℕ) : unitsAt (r + 1) = unitsAt r + 2 ^ (r / 0x10000000000000 - 1) := by
  -- The ranks before the first binade, the step into it, and the ranks from there on.
  rcases Nat.lt_trichotomy (r + 1) 0x10000000000000 with h | h | h
  · rw [unitsAt, if_pos h, unitsAt, if_pos (by omega), Nat.div_eq_of_lt (by omega), pow_zero]
  · obtain rfl : r = 0xFFFFFFFFFFFFF := by omega
    decide
  · have hlow : ¬ r < 0x10000000000000 := by omega
    rw [unitsAt, if_neg (by omega), unitsAt, if_neg hlow]
    by_cases hcarry : r % 0x10000000000000 + 1 < 0x10000000000000
    · have hdiv : (r + 1) / 0x10000000000000 = r / 0x10000000000000 := by omega
      have hmod : (r + 1) % 0x10000000000000 = r % 0x10000000000000 + 1 := by omega
      rw [hdiv, hmod]
      ring
    · -- the step out of a run of equal distances doubles the distance
      have hexp : (r + 1) / 0x10000000000000 - 1 = r / 0x10000000000000 - 1 + 1 := by omega
      have hmod : (r + 1) % 0x10000000000000 = 0 := by omega
      have hlast : r % 0x10000000000000 = 0xFFFFFFFFFFFFF := by omega
      rw [hexp, hmod, hlast, pow_succ]
      ring

/-- The values grow with the ranks. -/
theorem unitsAt_strictMono : StrictMono unitsAt := by
  refine strictMono_nat_of_lt_succ fun r => ?_
  rw [unitsAt_succ]
  exact Nat.lt_add_of_pos_right (Nat.two_pow_pos _)

theorem unitsAt_zero : unitsAt 0 = 0 := rfl

/-- The rank that 53 binary places at a distance of `2 ^ d` units have. -/
theorem unitsAt_grid {d m : ℕ} (hm : m < 0x20000000000000)
    (hd : d = 0 ∨ 0x10000000000000 ≤ m) :
    unitsAt (d * 0x10000000000000 + m) = m * 2 ^ d ∧
      unitsAt (d * 0x10000000000000 + m + 1) = (m + 1) * 2 ^ d := by
  have hgrid : unitsAt (d * 0x10000000000000 + m) = m * 2 ^ d := by
    unfold unitsAt
    split
    -- Below the first binade there is no distance but one unit.
    · next hlow =>
      obtain rfl : d = 0 := by omega
      rw [Nat.zero_mul, Nat.zero_add, pow_zero, Nat.mul_one]
    · next hlow =>
      have hexp : (d * 0x10000000000000 + m) / 0x10000000000000 - 1 = d := by omega
      have hmod : 0x10000000000000 + (d * 0x10000000000000 + m) % 0x10000000000000 = m := by omega
      rw [hexp, hmod]
  refine ⟨hgrid, ?_⟩
  have hexp : (d * 0x10000000000000 + m) / 0x10000000000000 - 1 = d := by omega
  rw [unitsAt_succ, hgrid, hexp]
  ring

/-! ### Nearest ranks -/

/-- The rank `r` is nearest to `q` units, and even if another one is as near. -/
structure IsNearest (q : ℚ) (r : ℕ) : Prop where
  /-- No rank is nearer. -/
  dist_le : ∀ s, |q - unitsAt r| ≤ |q - unitsAt s|
  /-- Of two equally near ranks the even one is taken. -/
  even_of_tie : ∀ s, s ≠ r → |q - unitsAt r| = |q - unitsAt s| → r % 2 = 0

namespace IsNearest

variable {p q : ℚ} {r s : ℕ}

/-- A nearest rank is not behind the middle between itself and a smaller rank. -/
theorem middle_le (h : IsNearest q r) (hsr : s < r) : (unitsAt s : ℚ) + unitsAt r ≤ 2 * q := by
  have hlt : (unitsAt s : ℚ) < unitsAt r := by exact_mod_cast unitsAt_strictMono hsr
  by_contra hlow
  have hdist := h.dist_le s
  rw [abs_of_neg (by linarith), le_abs] at hdist
  rcases hdist with hdist | hdist <;> linarith

/-- A nearest rank is not before the middle between itself and a larger rank. -/
theorem le_middle (h : IsNearest q r) (hrs : r < s) : 2 * q ≤ (unitsAt r : ℚ) + unitsAt s := by
  have hlt : (unitsAt r : ℚ) < unitsAt s := by exact_mod_cast unitsAt_strictMono hrs
  by_contra hhigh
  have hdist := h.dist_le s
  rw [abs_of_pos (by linarith), le_abs] at hdist
  rcases hdist with hdist | hdist <;> linarith

/-- The nearest rank to the middle of two ranks is neither of them unless they are neighbours. -/
theorem even_of_middle (h : IsNearest q r) (hne : s ≠ r)
    (hmid : 2 * q = (unitsAt r : ℚ) + unitsAt s) : r % 2 = 0 := by
  refine h.even_of_tie s hne ?_
  have hneg : q - unitsAt s = -(q - unitsAt r) := by linarith
  rw [hneg, abs_neg]

/-- The nearest rank grows with the number. -/
theorem le (hp : IsNearest p r) (hq : IsNearest q s) (hpq : p ≤ q) : r ≤ s := by
  by_contra hlt
  have hsr : s < r := by omega
  have hlow := hp.middle_le hsr
  have hhigh := hq.le_middle hsr
  have hmid : 2 * q = (unitsAt s : ℚ) + unitsAt r := by linarith
  have hmid' : 2 * p = (unitsAt r : ℚ) + unitsAt s := by linarith
  -- both ranks are even, so the rank behind the smaller one lies strictly between them
  have hs := hq.even_of_middle hsr.ne' hmid
  have hr := hp.even_of_middle hsr.ne hmid'
  have hbetween : s + 1 < r := by omega
  have hstep : (unitsAt s : ℚ) < unitsAt (s + 1) := by
    exact_mod_cast unitsAt_strictMono (Nat.lt_succ_self s)
  have hle := hp.middle_le hbetween
  linarith

/-- There is only one nearest rank. -/
theorem eq (hr : IsNearest q r) (hs : IsNearest q s) : r = s :=
  le_antisymm (hr.le hs le_rfl) (hs.le hr le_rfl)

/-- The value of a rank is nearest to that rank. -/
theorem unitsAt (r : ℕ) : IsNearest (unitsAt r) r where
  dist_le s := by
    rw [sub_self, abs_zero]
    exact abs_nonneg _
  even_of_tie s hne htie := by
    rw [sub_self, abs_zero, eq_comm, abs_eq_zero, sub_eq_zero, Nat.cast_inj] at htie
    exact absurd (unitsAt_strictMono.injective htie).symm hne

/-- Less than half a unit is nearest to nothing. -/
theorem zero (h0 : 0 ≤ q) (hq : 2 * q < 1) : IsNearest q 0 where
  dist_le s := by
    rw [unitsAt_zero, Nat.cast_zero, sub_zero, abs_of_nonneg h0, le_abs]
    rcases Nat.eq_zero_or_pos s with rfl | hs
    · left; rw [unitsAt_zero, Nat.cast_zero, sub_zero]
    · have h1 : (1 : ℚ) ≤ Magnitude.unitsAt s := by
        exact_mod_cast Nat.one_le_of_lt (unitsAt_strictMono hs)
      right; linarith
  even_of_tie _ _ _ := rfl

end IsNearest

section Between

variable {q : ℚ} {r s : ℕ}

/-- The distance down to a rank that is not behind `r`. -/
theorem dist_of_le (hlow : unitsAt r ≤ q) (hs : s ≤ r) :
    |q - unitsAt s| = q - unitsAt s ∧ (unitsAt s : ℚ) ≤ unitsAt r := by
  have hle : (unitsAt s : ℚ) ≤ unitsAt r := by exact_mod_cast unitsAt_strictMono.monotone hs
  exact ⟨abs_of_nonneg (by linarith), hle⟩

/-- The distance up to a rank that is behind `r`. -/
theorem dist_of_lt (hhigh : q < unitsAt (r + 1)) (hs : r < s) :
    |q - unitsAt s| = unitsAt s - q ∧ (unitsAt (r + 1) : ℚ) ≤ unitsAt s := by
  have hle : (unitsAt (r + 1) : ℚ) ≤ unitsAt s := by exact_mod_cast unitsAt_strictMono.monotone hs
  refine ⟨?_, hle⟩
  rw [abs_of_neg (by linarith)]
  ring

/-- Up to the middle between two neighbouring ranks the smaller one is nearest. -/
theorem isNearest_of_le_middle (hlow : unitsAt r ≤ q)
    (hmiddle : 2 * q ≤ unitsAt r + unitsAt (r + 1))
    (htie : 2 * q = unitsAt r + unitsAt (r + 1) → r % 2 = 0) : IsNearest q r := by
  have hstep : (unitsAt r : ℚ) < unitsAt (r + 1) := by
    exact_mod_cast unitsAt_strictMono (Nat.lt_succ_self r)
  have hhigh : q < unitsAt (r + 1) := by linarith
  obtain ⟨hself, -⟩ := dist_of_le hlow (le_refl r)
  -- Ranks up to `r` are no nearer than `r`, and those behind it no nearer than the next.
  constructor
  · intro s
    rw [hself]
    rcases Nat.lt_or_ge r s with hs | hs
    · obtain ⟨hdist, hle⟩ := dist_of_lt hhigh hs
      rw [hdist]
      linarith
    · obtain ⟨hdist, hle⟩ := dist_of_le hlow hs
      rw [hdist]
      linarith
  · intro s hne heq
    rw [hself] at heq
    rcases Nat.lt_or_ge r s with hs | hs
    · obtain ⟨hdist, hle⟩ := dist_of_lt hhigh hs
      rw [hdist] at heq
      exact htie (by linarith)
    · obtain ⟨hdist, -⟩ := dist_of_le hlow hs
      rw [hdist] at heq
      have hvalue : (unitsAt s : ℚ) = unitsAt r := by linarith
      exact absurd (unitsAt_strictMono.injective (by exact_mod_cast hvalue)) hne

/-- From the middle between two neighbouring ranks on the larger one is nearest. -/
theorem isNearest_of_middle_le (hhigh : q < unitsAt (r + 1))
    (hmiddle : unitsAt r + unitsAt (r + 1) ≤ 2 * q)
    (htie : 2 * q = unitsAt r + unitsAt (r + 1) → (r + 1) % 2 = 0) : IsNearest q (r + 1) := by
  have hstep : (unitsAt r : ℚ) < unitsAt (r + 1) := by
    exact_mod_cast unitsAt_strictMono (Nat.lt_succ_self r)
  have hlow : unitsAt r ≤ q := by linarith
  obtain ⟨hself, -⟩ := dist_of_lt hhigh (Nat.lt_succ_self r)
  -- The ranks split at `r` again, but it is the next one that the others are compared with.
  constructor
  · intro s
    rw [hself]
    rcases Nat.lt_or_ge r s with hs | hs
    · obtain ⟨hdist, hle⟩ := dist_of_lt hhigh hs
      rw [hdist]
      linarith
    · obtain ⟨hdist, hle⟩ := dist_of_le hlow hs
      rw [hdist]
      linarith
  · intro s hne heq
    rw [hself] at heq
    rcases Nat.lt_or_ge r s with hs | hs
    · obtain ⟨hdist, -⟩ := dist_of_lt hhigh hs
      rw [hdist] at heq
      have hvalue : (unitsAt s : ℚ) = unitsAt (r + 1) := by linarith
      exact absurd (unitsAt_strictMono.injective (by exact_mod_cast hvalue)) hne
    · obtain ⟨hdist, hle⟩ := dist_of_le hlow hs
      rw [hdist] at heq
      exact htie (by linarith)

end Between

/-! ### Computing it -/

/-- Cutting a quotient to 53 binary places leaves that many, or drops none. -/
theorem cut_bounds (n : ℕ) :
    n / 2 ^ (n.log2 - 52) < 0x20000000000000 ∧
      (n.log2 - 52 = 0 ∨ 0x10000000000000 ≤ n / 2 ^ (n.log2 - 52)) := by
  constructor
  · have hlt : n < 2 ^ (n.log2 + 1) := Nat.lt_log2_self
    have hle : 2 ^ (n.log2 + 1) ≤ 2 ^ (53 + (n.log2 - 52)) :=
      Nat.pow_le_pow_right (by omega) (by omega)
    rw [Nat.div_lt_iff_lt_mul (Nat.two_pow_pos _)]
    calc n < 2 ^ (53 + (n.log2 - 52)) := lt_of_lt_of_le hlt hle
      _ = 0x20000000000000 * 2 ^ (n.log2 - 52) := by rw [pow_add]; norm_num
  -- A quotient of 53 places or fewer loses none.
  · by_cases hlog : n.log2 ≤ 52
    · exact Or.inl (by omega)
    · right
      have hne : n ≠ 0 := by
        rintro rfl
        exact hlog (by decide)
      have hexp : n.log2 = 52 + (n.log2 - 52) := by omega
      rw [Nat.le_div_iff_mul_le (Nat.two_pow_pos _)]
      calc 0x10000000000000 * 2 ^ (n.log2 - 52) = 2 ^ n.log2 := by
            conv_rhs => rw [hexp, pow_add]
            norm_num
        _ ≤ n := Nat.log2_self_le hne

/-- The cut leaves a rank that is not behind the quotient, and a rest below the distance to the
next rank. -/
theorem exists_cut (num : ℕ) {den : ℕ} (hden : 0 < den) :
    ∃ rank rest step, rest < step ∧ num = unitsAt rank * den + rest ∧
      unitsAt (rank + 1) * den = unitsAt rank * den + step ∧
      nearestRank num den
        = if 2 * rest < step ∨ 2 * rest = step ∧ rank % 2 = 0 then rank else rank + 1 := by
  -- The distance on the grid of the cut, and the step between its ranks in terms of the dividend.
  set d := (num / den).log2 - 52 with hd
  set step := 2 ^ d * den with hstep
  have hstep0 : 0 < step := Nat.mul_pos (Nat.two_pow_pos d) hden
  have hcut : num / den / 2 ^ d = num / step := by
    rw [Nat.div_div_eq_div_mul, hstep, Nat.mul_comm den]
  obtain ⟨hm, hm'⟩ := cut_bounds (num / den)
  rw [← hd, hcut] at hm hm'
  obtain ⟨hlow, hhigh⟩ := unitsAt_grid hm hm'
  have hlow' : unitsAt (d * 0x10000000000000 + num / step) * den = step * (num / step) := by
    rw [hlow, hstep]
    ring
  refine ⟨d * 0x10000000000000 + num / step, num % step, step, Nat.mod_lt num hstep0, ?_, ?_, ?_⟩
  · rw [hlow', Nat.div_add_mod]
  · rw [hlow', hhigh, hstep]
    ring
  · simp only [nearestRank, Nat.pow_eq, ← hd, ← hstep, Bool.or_eq_true, Bool.and_eq_true,
      decide_eq_true_eq]

/-- The computed rank is nearest. -/
theorem nearestRank_isNearest (num : ℕ) {den : ℕ} (hden : 0 < den) :
    IsNearest (num / den : ℚ) (nearestRank num den) := by
  obtain ⟨rank, rest, step, hrest, hnum, hnext, hcond⟩ := exists_cut num hden
  have hden' : (0 : ℚ) < den := by exact_mod_cast hden
  have hnum' : (num : ℚ) = unitsAt rank * den + rest := by exact_mod_cast hnum
  have hnext' : (unitsAt (rank + 1) : ℚ) * den = unitsAt rank * den + step := by
    exact_mod_cast hnext
  have hrest' : (rest : ℚ) < step := by exact_mod_cast hrest
  have hrest0 : (0 : ℚ) ≤ rest := Nat.cast_nonneg rest
  -- the quotient is as far from the middle as twice the rest is from the step
  have hmiddle : (2 * (num / den : ℚ) - (unitsAt rank + unitsAt (rank + 1))) * den
      = 2 * rest - step := by
    have hq : (num / den : ℚ) * den = num := div_mul_cancel₀ _ hden'.ne'
    linarith
  have htie : 2 * (num / den : ℚ) = unitsAt rank + unitsAt (rank + 1) → 2 * rest = step := by
    intro h
    rw [h, sub_self, zero_mul, eq_comm, sub_eq_zero] at hmiddle
    exact_mod_cast hmiddle
  rw [hcond]
  split
  · next hdown =>
    have hle : (2 : ℚ) * rest ≤ step := by
      exact_mod_cast (by omega : 2 * rest ≤ step)
    refine isNearest_of_le_middle (by rw [le_div_iff₀ hden']; linarith) ?_ ?_
    · exact sub_nonpos.mp (nonpos_of_mul_nonpos_left (by linarith) hden')
    · intro h
      have := htie h
      omega
  · next hup =>
    have hle : (step : ℚ) ≤ 2 * rest := by
      exact_mod_cast (by omega : step ≤ 2 * rest)
    refine isNearest_of_middle_le (by rw [div_lt_iff₀ hden']; linarith) ?_ ?_
    · exact sub_nonneg.mp (nonneg_of_mul_nonneg_left (by linarith) hden')
    · intro h
      have := htie h
      omega

/-- Every number has a nearest rank. -/
theorem exists_isNearest {q : ℚ} (h0 : 0 ≤ q) : ∃ r, IsNearest q r := by
  refine ⟨nearestRank q.num.toNat q.den, ?_⟩
  have hnum : ((q.num.toNat : ℕ) : ℚ) = q.num := by
    exact_mod_cast Int.toNat_of_nonneg (Rat.num_nonneg.mpr h0)
  have hnearest := nearestRank_isNearest q.num.toNat q.den_pos
  rwa [hnum, Rat.num_div_den] at hnearest

end Magnitude

end EcmaTree
