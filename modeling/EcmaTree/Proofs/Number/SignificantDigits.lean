import EcmaTree.Proofs.Number.Shortest

/-!
# The digits of the shortest decimal

No decimal that reads as a magnitude has fewer digits than the shortest one
(`Magnitude.shortest_hasDigits`), and none with as few is nearer (`Magnitude.shortest_dist_le`).
Seventeen digits are enough, so the exact value that stands behind the search is never its result
(`Magnitude.exists_onGrid?_eq_some_shortest`).

Two facts about rounding carry this.  What lies between a magnitude and a decimal that reads as it
reads as it too, so a grid with any such decimal has one next to the magnitude; and a magnitude is
at most `2 ^ 53 < 10 ^ 16` times its distance to either neighbouring magnitude, so the first
neighbour on the grid of 17 places is close enough.
-/

namespace EcmaTree

/-- The decimal has at most `k` digits, zeros at the end aside. -/
def Decimal.HasDigits (d : Decimal) (k : ℕ) : Prop :=
  ∃ t j : ℕ, d.significand = t * 10 ^ j ∧ t < 10 ^ k

theorem Decimal.HasDigits.mono {d : Decimal} {k l : ℕ} (h : d.HasDigits k) (hkl : k ≤ l) :
    d.HasDigits l := by
  obtain ⟨t, j, hd, ht⟩ := h
  exact ⟨t, j, hd, lt_of_lt_of_le ht (Nat.pow_le_pow_right (by omega) hkl)⟩

theorem Decimal.hasDigits_of_le {d : Decimal} {k : ℕ} (hk : k ≠ 0) (h : d.significand ≤ 10 ^ k) :
    d.HasDigits k := by
  rcases Nat.eq_or_lt_of_le h with heq | hlt
  · exact ⟨1, k, by rw [heq, Nat.one_mul], Nat.one_lt_pow hk (by omega)⟩
  · exact ⟨d.significand, 0, by rw [pow_zero, Nat.mul_one], hlt⟩

namespace Magnitude

/-! ### The place of the first digit -/

/-- A positive magnitude is below the power of ten of its place, and at least a tenth of it. -/
theorem decimalPoint_bounds {x : Magnitude} (hx : x.rank ≠ 0) :
    (10 : ℚ) ^ (x.decimalPoint - 1) ≤ x.value ∧ x.value < 10 ^ x.decimalPoint := by
  have hone := unitsPerOne_cast_pos
  have hpos : 0 < x.units := by
    have := unitsAt_strictMono (Nat.pos_of_ne_zero hx)
    rwa [unitsAt_zero, ← units_eq_unitsAt] at this
  rw [value, le_div_iff₀ hone, div_lt_iff₀ hone, decimalPoint]
  split
  · next hle =>
    have hn : x.units / unitsPerOne ≠ 0 := (Nat.div_pos hle unitsPerOne_pos).ne'
    obtain ⟨k, hk, hlow, hhigh⟩ := exists_length_digitsIn hn
    have hlow' : 10 ^ k * unitsPerOne ≤ x.units := (Nat.le_div_iff_mul_le unitsPerOne_pos).mp hlow
    have hhigh' : x.units < 10 ^ (k + 1) * unitsPerOne :=
      (Nat.div_lt_iff_lt_mul unitsPerOne_pos).mp hhigh
    have hpred : ((k + 1 : ℕ) : ℤ) - 1 = k := by omega
    rw [hk, hpred, zpow_natCast, zpow_natCast]
    exact ⟨by exact_mod_cast hlow', by exact_mod_cast hhigh'⟩
  · next hlt =>
    -- one over the magnitude, rounded up, less one: its digits are the zeros behind the point
    have hm : (unitsPerOne - 1) / x.units ≠ 0 := (Nat.div_pos (by omega) hpos).ne'
    obtain ⟨k, hk, hlow, hhigh⟩ := exists_length_digitsIn hm
    have hlow' : 10 ^ k * x.units ≤ unitsPerOne - 1 := (Nat.le_div_iff_mul_le hpos).mp hlow
    have hhigh' : unitsPerOne - 1 < 10 ^ (k + 1) * x.units := (Nat.div_lt_iff_lt_mul hpos).mp hhigh
    have hlow'' : (10 : ℚ) ^ k * x.units < unitsPerOne := by
      exact_mod_cast (by omega : 10 ^ k * x.units < unitsPerOne)
    have hhigh'' : (unitsPerOne : ℚ) ≤ 10 ^ (k + 1) * x.units := by
      exact_mod_cast (by omega : unitsPerOne ≤ 10 ^ (k + 1) * x.units)
    have hexp : 1 - ((k + 1 : ℕ) : ℤ) = -(k : ℤ) := by omega
    have hexp' : -(k : ℤ) - 1 = -((k + 1 : ℕ) : ℤ) := by omega
    rw [hk, hexp, hexp', zpow_neg, zpow_neg, zpow_natCast, zpow_natCast]
    constructor
    · rw [inv_mul_le_iff₀ (by positivity)]
      exact hhigh''
    · rw [lt_inv_mul_iff₀ (by positivity)]
      exact hlow''

/-! ### What reads as a magnitude -/

/-- The decimal `c` lies between the magnitude and `d`, on either side of the magnitude. -/
def IsBetween (x : Magnitude) (c d : Decimal) : Prop :=
  d.value ≤ c.value ∧ c.value ≤ x.value ∨ x.value ≤ c.value ∧ c.value ≤ d.value

theorem isNearest_value_mul (x : Magnitude) : IsNearest (x.value * unitsPerOne) x.rank := by
  rw [value_mul_unitsPerOne]
  exact IsNearest.unitsAt x.rank

namespace IsBetween

variable {x : Magnitude} {c d : Decimal}

theorem of_value_eq (h : c.value = d.value) : IsBetween x c d := by
  rcases le_total c.value x.value with hle | hge
  · exact Or.inl ⟨h.ge, hle⟩
  · exact Or.inr ⟨hge, h.le⟩

theorem dist_le (h : IsBetween x c d) : |c.value - x.value| ≤ |d.value - x.value| := by
  rcases h with ⟨hdc, hcx⟩ | ⟨hxc, hcd⟩
  · rw [abs_of_nonpos (by linarith), abs_of_nonpos (by linarith)]
    linarith
  · rw [abs_of_nonneg (by linarith), abs_of_nonneg (by linarith)]
    linarith

/-- What lies between a magnitude and a decimal that reads as it reads as it too. -/
theorem isReadFrom (h : IsBetween x c d) (hd : x.isReadFrom d = true) :
    x.isReadFrom c = true := by
  have hu := unitsPerOne_cast_pos.le
  obtain ⟨r, hr⟩ := exists_isNearest (mul_nonneg c.value_nonneg hu)
  have hd' := isReadFrom_iff.mp hd
  suffices r = x.rank by
    rw [this] at hr
    exact isReadFrom_iff.mpr hr
  rcases h with ⟨hdc, hcx⟩ | ⟨hxc, hcd⟩
  · exact le_antisymm (hr.le x.isNearest_value_mul (mul_le_mul_of_nonneg_right hcx hu))
      (hd'.le hr (mul_le_mul_of_nonneg_right hdc hu))
  · exact le_antisymm (hr.le hd' (mul_le_mul_of_nonneg_right hcd hu))
      (x.isNearest_value_mul.le hr (mul_le_mul_of_nonneg_right hxc hu))

end IsBetween

/-- A rank is at most `2 ^ 53` times its distance to the rank before it. -/
theorem unitsAt_succ_le (r : ℕ) :
    (unitsAt (r + 1) : ℚ) ≤ 2 ^ 53 * (unitsAt (r + 1) - unitsAt r) := by
  have hstep : (unitsAt (r + 1) : ℚ) - unitsAt r = (2 ^ (r / 0x10000000000000 - 1) : ℕ) := by
    rw [unitsAt_succ, Nat.cast_add, add_sub_cancel_left]
  rw [hstep]
  suffices unitsAt (r + 1) ≤ 2 ^ 53 * 2 ^ (r / 0x10000000000000 - 1) by exact_mod_cast this
  rw [unitsAt_succ, unitsAt]
  -- Below the first full binade the units are the ranks themselves, and the step is one.
  split
  · next hlow =>
    rw [Nat.div_eq_of_lt hlow]
    omega
  · have hone : 0x10000000000000 + r % 0x10000000000000 + 1 ≤ 2 ^ 53 := by omega
    calc (0x10000000000000 + r % 0x10000000000000) * 2 ^ (r / 0x10000000000000 - 1)
          + 2 ^ (r / 0x10000000000000 - 1)
        = (0x10000000000000 + r % 0x10000000000000 + 1) * 2 ^ (r / 0x10000000000000 - 1) := by ring
      _ ≤ 2 ^ 53 * 2 ^ (r / 0x10000000000000 - 1) := Nat.mul_le_mul_right _ hone

/-- What is off by less than one part in `2 ^ 54` rounds back. -/
theorem isNearest_of_close {q : ℚ} {r : ℕ} (hr : r ≠ 0)
    (hq : 2 ^ 53 * (2 * |q - unitsAt r|) < unitsAt r) : IsNearest q r := by
  have hnext : (unitsAt r : ℚ) < unitsAt (r + 1) := by
    exact_mod_cast unitsAt_strictMono (Nat.lt_succ_self r)
  have hgap := unitsAt_succ_le r
  -- On either side the gap to the neighbouring rank is at least one part in `2 ^ 53` of the rank, and
  -- `q` is off by less than half of that.
  rcases le_or_gt (unitsAt r : ℚ) q with hle | hlt
  · rw [abs_of_nonneg (by linarith)] at hq
    have hmiddle : 2 * q < unitsAt r + unitsAt (r + 1) := by linarith
    exact isNearest_of_le_middle hle hmiddle.le fun h => absurd h hmiddle.ne
  · obtain ⟨s, rfl⟩ := Nat.exists_eq_succ_of_ne_zero hr
    have hgap' := unitsAt_succ_le s
    rw [abs_of_neg (by linarith)] at hq
    have hmiddle : unitsAt s + unitsAt (s + 1) < 2 * q := by linarith
    exact isNearest_of_middle_le hlt hmiddle.le fun h => absurd h hmiddle.ne'

/-! ### Grids with something on them -/

/-- The first neighbour is at most half a place away, and one of the two lies between the magnitude
and any other decimal of the grid. -/
theorem exists_neighbours_isBetween (x : Magnitude) (e : ℤ) :
    ∃ near far : Decimal, x.neighbours e = [near, far] ∧
      2 * |near.value - x.value| ≤ 10 ^ e ∧ |near.value - x.value| ≤ |far.value - x.value| ∧
      ∀ c : Decimal, c.exponent = e → IsBetween x near c ∨ IsBetween x far c := by
  obtain ⟨b, hlow, hhigh, hdef⟩ := x.exists_neighbours e
  have hten : (0 : ℚ) ≤ 10 ^ e := (zpow_pos (by norm_num) e).le
  have hlower : (⟨b, e⟩ : Decimal).value = b * 10 ^ e := rfl
  have hupper : (⟨b + 1, e⟩ : Decimal).value = (b + 1) * 10 ^ e := by
    rw [Decimal.value, Nat.cast_add, Nat.cast_one]
  have hlowerDist : |(⟨b, e⟩ : Decimal).value - x.value| = x.value - b * 10 ^ e := by
    rw [hlower, abs_of_nonpos (by linarith), neg_sub]
  have hupperDist : |(⟨b + 1, e⟩ : Decimal).value - x.value| = (b + 1) * 10 ^ e - x.value := by
    rw [hupper, abs_of_pos (by linarith)]
  -- A decimal of the grid is above the lower neighbour, and so beyond the upper one, or it is not.
  have hside : ∀ c : Decimal, c.exponent = e → IsBetween x ⟨b, e⟩ c ∨ IsBetween x ⟨b + 1, e⟩ c := by
    intro c hc
    have hvalue : c.value = c.significand * 10 ^ e := by rw [Decimal.value, hc]
    rcases Nat.lt_or_ge b c.significand with hlt | hle
    · have hlt' : (b : ℚ) + 1 ≤ c.significand := by exact_mod_cast hlt
      refine Or.inr (Or.inr ⟨by rw [hupper]; exact hhigh.le, ?_⟩)
      rw [hupper, hvalue]
      exact mul_le_mul_of_nonneg_right hlt' hten
    · have hle' : (c.significand : ℚ) ≤ b := by exact_mod_cast hle
      refine Or.inl (Or.inl ⟨?_, hlow⟩)
      rw [hlower, hvalue]
      exact mul_le_mul_of_nonneg_right hle' hten
  rw [hdef]
  -- The neighbours come in the order of their distance, which the middle between them decides.
  split
  · next hdown =>
    have hmiddle : 2 * x.value ≤ (2 * b + 1) * 10 ^ e := hdown.elim le_of_lt fun h => h.1.le
    refine ⟨⟨b, e⟩, ⟨b + 1, e⟩, rfl, ?_, ?_, hside⟩
    · rw [hlowerDist]
      linarith
    · rw [hlowerDist, hupperDist]
      linarith
  · next hup =>
    have hmiddle : (2 * b + 1) * 10 ^ e ≤ 2 * x.value := not_lt.mp (mt Or.inl hup)
    refine ⟨⟨b + 1, e⟩, ⟨b, e⟩, rfl, ?_, ?_, fun c hc => (hside c hc).symm⟩
    · rw [hupperDist]
      linarith
    · rw [hlowerDist, hupperDist]
      linarith

section Grid

variable {x : Magnitude} {k : ℕ} {c d : Decimal}

theorem onGrid?_ne_none_of_mem (hmem : c ∈ x.neighbours (x.decimalPoint - k))
    (hread : x.isReadFrom c = true) : x.onGrid? k ≠ none := by
  intro hnone
  rw [onGrid?, List.find?_eq_none] at hnone
  exact hnone c hmem hread

/-- A grid with a decimal that reads as the magnitude has one next to the magnitude. -/
theorem onGrid?_ne_none (hd : x.isReadFrom d = true)
    (hexp : d.exponent = x.decimalPoint - k) : x.onGrid? k ≠ none := by
  obtain ⟨near, far, hdef, -, -, hbetween⟩ := x.exists_neighbours_isBetween (x.decimalPoint - k)
  rcases hbetween d hexp with hnear | hfar
  · exact onGrid?_ne_none_of_mem (hdef ▸ List.mem_cons_self) (hnear.isReadFrom hd)
  · refine onGrid?_ne_none_of_mem ?_ (hfar.isReadFrom hd)
    rw [hdef]
    exact List.mem_cons_of_mem near (List.mem_singleton_self far)

/-- What is found on a grid is the nearest decimal of the grid that reads as the magnitude. -/
theorem dist_le_of_onGrid?_eq_some (h : x.onGrid? k = some d) (hc : x.isReadFrom c = true)
    (hexp : c.exponent = x.decimalPoint - k) : |d.value - x.value| ≤ |c.value - x.value| := by
  obtain ⟨near, far, hdef, -, hnear, hbetween⟩ :=
    x.exists_neighbours_isBetween (x.decimalPoint - k)
  rw [onGrid?, hdef] at h
  by_cases hread : x.isReadFrom near = true
  · rw [List.find?_cons_of_pos hread] at h
    obtain rfl : near = d := Option.some.inj h
    rcases hbetween c hexp with hle | hle
    · exact hle.dist_le
    · exact hnear.trans hle.dist_le
  · -- the first neighbour does not read, so it does not lie between the magnitude and `c`
    rw [List.find?_cons_of_neg hread] at h
    obtain rfl : d = far := List.mem_singleton.mp (List.mem_of_find?_eq_some h)
    exact ((hbetween c hexp).resolve_left fun hle => hread (hle.isReadFrom hc)).dist_le

/-- What is found on the grid of `k` places has `k` digits. -/
theorem hasDigits_of_onGrid?_eq_some (hx : x.rank ≠ 0) (hk : k ≠ 0)
    (h : x.onGrid? k = some d) : d.HasDigits k := by
  have hmem := mem_neighbours_of_onGrid?_eq_some h
  obtain ⟨b, hlow, -, hdef⟩ := x.exists_neighbours (x.decimalPoint - k)
  have hten : (0 : ℚ) < 10 ^ (x.decimalPoint - k) := zpow_pos (by norm_num) _
  have hhigh := (decimalPoint_bounds hx).2
  have hexp : x.decimalPoint = k + (x.decimalPoint - k) := by omega
  rw [hexp, zpow_add₀ (by norm_num), zpow_natCast] at hhigh
  -- The lower neighbour is not above the magnitude, which lies below the power of ten that the
  -- decimal point gives.
  have hb : b < 10 ^ k := by
    exact_mod_cast lt_of_mul_lt_mul_right (lt_of_le_of_lt hlow hhigh) hten.le
  refine Decimal.hasDigits_of_le hk ?_
  rw [hdef] at hmem
  split at hmem <;> simp only [List.mem_cons, List.not_mem_nil, or_false] at hmem <;>
    rcases hmem with rfl | rfl
  · exact hb.le
  · exact hb
  · exact hb
  · exact hb.le

end Grid

/-- Seventeen digits are enough. -/
theorem onGrid?_seventeen_ne_none {x : Magnitude} (hx : x.rank ≠ 0) : x.onGrid? 17 ≠ none := by
  obtain ⟨c, far, hdef, hclose, -⟩ := x.exists_neighbours_isBetween (x.decimalPoint - (17 : ℕ))
  refine onGrid?_ne_none_of_mem (hdef ▸ List.mem_cons_self) (isReadFrom_iff.mpr ?_)
  refine isNearest_of_close hx ?_
  have hone := unitsPerOne_cast_pos
  have hten : (0 : ℚ) < 10 ^ (x.decimalPoint - (17 : ℕ)) := zpow_pos (by norm_num) _
  have hexp : x.decimalPoint - 1 = 16 + (x.decimalPoint - (17 : ℕ)) := by omega
  have hlow := (decimalPoint_bounds hx).1
  rw [hexp, zpow_add₀ (by norm_num)] at hlow
  -- The first neighbour is off by half a place at most, and `2 ^ 53 < 10 ^ 16` places are not more
  -- than the magnitude.
  have hrel : 2 ^ 53 * (2 * |c.value - x.value|) < x.value := by
    calc 2 ^ 53 * (2 * |c.value - x.value|) ≤ 2 ^ 53 * 10 ^ (x.decimalPoint - (17 : ℕ)) := by
          exact mul_le_mul_of_nonneg_left hclose (by norm_num)
      _ < 10 ^ (16 : ℤ) * 10 ^ (x.decimalPoint - (17 : ℕ)) :=
          mul_lt_mul_of_pos_right (by norm_num) hten
      _ ≤ x.value := hlow
  rw [← value_mul_unitsPerOne, ← sub_mul, abs_mul, abs_of_pos hone, ← mul_assoc, ← mul_assoc,
    mul_assoc _ 2]
  exact mul_lt_mul_of_pos_right hrel hone

/-- The shortest decimal of a positive magnitude is always found on a grid. -/
theorem exists_onGrid?_eq_some_shortest {x : Magnitude} (hx : x.rank ≠ 0) :
    ∃ place, 1 ≤ place ∧ place ≤ 17 ∧ (∀ p, 1 ≤ p → p < place → x.onGrid? p = none) ∧
      x.onGrid? place = some x.shortest := by
  rcases x.shortest_cases with hfound | ⟨hall, -⟩
  · exact hfound
  · exact absurd (hall 17 (by omega) le_rfl) (onGrid?_seventeen_ne_none hx)

/-! ### No decimal is shorter, and none as short is nearer -/

section Shortest

variable {x : Magnitude} {d : Decimal} {k : ℕ}

/-- Nothing without digits reads as a positive magnitude. -/
theorem ne_zero_of_hasDigits (hx : x.rank ≠ 0) (hd : x.isReadFrom d = true)
    (hk : d.HasDigits k) : k ≠ 0 := by
  rintro rfl
  obtain ⟨t, j, hsig, ht⟩ := hk
  obtain rfl : t = 0 := by simpa using ht
  have hzero : d.value = 0 := by
    rw [Decimal.value, hsig, Nat.zero_mul, Nat.cast_zero, zero_mul]
  rw [isReadFrom_iff, hzero, zero_mul] at hd
  exact hx (hd.eq (IsNearest.zero le_rfl (by norm_num)))

/-- A decimal of `k` digits is on the grid of `k` places, or the power of ten that the grid starts
with is nearer. -/
theorem exists_isBetween_of_hasDigits (hx : x.rank ≠ 0) (hd : x.isReadFrom d = true)
    (hk : d.HasDigits k) :
    ∃ c : Decimal, c.exponent = x.decimalPoint - k ∧ IsBetween x c d := by
  have hk0 := ne_zero_of_hasDigits hx hd hk
  obtain ⟨t, j, hsig, ht⟩ := hk
  have hvalue : d.value = t * 10 ^ (j + d.exponent) := by
    rw [Decimal.value, hsig, zpow_add₀ (by norm_num), zpow_natCast]
    push_cast
    ring
  -- Either the last digit stands on the grid, or all `k` digits end before it starts.
  rcases le_or_gt (x.decimalPoint - k) (j + d.exponent) with hle | hlt
  · obtain ⟨i, hi⟩ := Int.eq_ofNat_of_zero_le (sub_nonneg.mpr hle)
    have hexp : j + d.exponent = i + (x.decimalPoint - k) := by omega
    refine ⟨⟨t * 10 ^ i, x.decimalPoint - k⟩, rfl, IsBetween.of_value_eq ?_⟩
    rw [hvalue, hexp, zpow_add₀ (by norm_num), zpow_natCast, Decimal.value]
    push_cast
    ring
  -- Then the decimal is below the power of ten that the magnitude has already reached.
  · have hpow : (⟨10 ^ (k - 1), x.decimalPoint - k⟩ : Decimal).value
        = 10 ^ (x.decimalPoint - 1) := by
      have hexp : x.decimalPoint - 1 = (k - 1 : ℕ) + (x.decimalPoint - k) := by omega
      rw [hexp, zpow_add₀ (by norm_num), zpow_natCast, Decimal.value]
      push_cast
      rfl
    refine ⟨⟨10 ^ (k - 1), x.decimalPoint - k⟩, rfl, Or.inl ⟨?_, ?_⟩⟩
    · have ht' : (t : ℚ) ≤ 10 ^ (k : ℤ) := by exact_mod_cast ht.le
      calc d.value ≤ 10 ^ (k : ℤ) * 10 ^ (j + d.exponent) := by
            rw [hvalue]
            exact mul_le_mul_of_nonneg_right ht' (zpow_pos (by norm_num) _).le
        _ = 10 ^ (k + (j + d.exponent)) := (zpow_add₀ (by norm_num) _ _).symm
        _ ≤ 10 ^ (x.decimalPoint - 1) := zpow_le_zpow_right₀ (by norm_num) (by omega)
        _ = (⟨10 ^ (k - 1), x.decimalPoint - k⟩ : Decimal).value := hpow.symm
    · rw [hpow]
      exact (decimalPoint_bounds hx).1

/-- Every decimal that reads as a positive magnitude has at least as many digits as the
shortest. -/
theorem shortest_hasDigits (hx : x.rank ≠ 0) (hd : x.isReadFrom d = true)
    (hk : d.HasDigits k) : x.shortest.HasDigits k := by
  obtain ⟨place, hplace, -, hbefore, hfound⟩ := exists_onGrid?_eq_some_shortest hx
  have hdigits := hasDigits_of_onGrid?_eq_some hx (by omega) hfound
  -- The search has passed every grid with fewer places without finding anything.
  rcases Nat.lt_or_ge k place with hlt | hle
  · obtain ⟨c, hexp, hbetween⟩ := exists_isBetween_of_hasDigits hx hd hk
    have hk0 := ne_zero_of_hasDigits hx hd hk
    exact absurd (hbefore k (by omega) hlt) (onGrid?_ne_none (hbetween.isReadFrom hd) hexp)
  · exact hdigits.mono hle

/-- Among the decimals with no more digits than the shortest, the shortest is nearest. -/
theorem shortest_dist_le (hx : x.rank ≠ 0) (hd : x.isReadFrom d = true)
    (hlen : ∀ k, x.shortest.HasDigits k → d.HasDigits k) :
    |x.shortest.value - x.value| ≤ |d.value - x.value| := by
  obtain ⟨place, hplace, -, -, hfound⟩ := exists_onGrid?_eq_some_shortest hx
  have hdigits := hlen place (hasDigits_of_onGrid?_eq_some hx (by omega) hfound)
  obtain ⟨c, hexp, hbetween⟩ := exists_isBetween_of_hasDigits hx hd hdigits
  exact (dist_le_of_onGrid?_eq_some hfound (hbetween.isReadFrom hd) hexp).trans hbetween.dist_le

end Shortest

end Magnitude

end EcmaTree
