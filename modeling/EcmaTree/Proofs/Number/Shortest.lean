import EcmaTree.Proofs.Number.Decimal
import EcmaTree.Proofs.Text.Digits

/-!
# The shortest decimal and the magnitude

The shortest decimal of a magnitude reads as the magnitude (`Magnitude.shortest_isReadFrom`), the
search for it tries nothing but whole numbers if the magnitude is one
(`Magnitude.shortest_isWhole`), and it is on the same side of `10 ^ 21`
(`Magnitude.shortest_value_lt_iff`).  Below `2 ^ 53`, where all whole numbers are magnitudes, it is
a whole number only if it is the magnitude itself (`Magnitude.value_eq_of_shortest_value_eq`).
-/

namespace EcmaTree

namespace Magnitude

/-! ### Values and ranks -/

theorem value_eq_natCast_iff {x : Magnitude} {n : ℕ} :
    x.value = n ↔ x.units = n * unitsPerOne := by
  rw [← mul_left_inj' unitsPerOne_cast_pos.ne', value_mul_unitsPerOne, ← units_eq_unitsAt]
  exact_mod_cast Iff.rfl

theorem value_of_rank_eq_zero {x : Magnitude} (hx : x.rank = 0) : x.value = (0 : ℕ) := by
  rw [value_eq_natCast_iff, units_eq_unitsAt, hx, unitsAt_zero, Nat.zero_mul]

theorem unitsAt_two_pow_fifty_three :
    unitsAt 0x4340000000000000 = 2 ^ 53 * unitsPerOne := by decide +kernel

theorem unitsAt_ten_pow_twenty_one :
    unitsAt 0x444B1AE4D6E2EF50 = 10 ^ 21 * unitsPerOne := by decide +kernel

/-- A rank is nearest to its own value alone. -/
theorem rank_eq_of_unitsAt_eq {x : Magnitude} {n r : ℕ} (hr : unitsAt r = n * unitsPerOne)
    (hx : IsNearest ((n : ℚ) * unitsPerOne) x.rank) : x.value = n := by
  have hown := IsNearest.unitsAt r
  rw [hr, Nat.cast_mul] at hown
  rw [value_eq_natCast_iff, units_eq_unitsAt, hx.eq hown, hr]

/-- Every natural number below `2 ^ 53` is the value of a rank. -/
theorem exists_unitsAt_eq {n : ℕ} (hn : n < 0x20000000000000) :
    ∃ r, unitsAt r = n * unitsPerOne := by
  rcases Nat.eq_zero_or_pos n with rfl | hpos
  · exact ⟨0, by rw [unitsAt_zero, Nat.zero_mul]⟩
  have hlog : n.log2 < 53 := (Nat.log2_lt hpos.ne').mpr hn
  have hlow : 2 ^ n.log2 ≤ n := Nat.log2_self_le hpos.ne'
  have hhigh : n < 2 ^ (n.log2 + 1) := Nat.lt_log2_self
  -- as many places are added as are missing to 53
  set j := 52 - n.log2 with hj
  have hm : n * 2 ^ j < 0x20000000000000 := by
    calc n * 2 ^ j < 2 ^ (n.log2 + 1) * 2 ^ j := Nat.mul_lt_mul_of_pos_right hhigh (by positivity)
      _ = 2 ^ 53 := by rw [← pow_add]; congr 1; omega
  have hm' : 0x10000000000000 ≤ n * 2 ^ j := by
    calc 2 ^ 52 = 2 ^ n.log2 * 2 ^ j := by rw [← pow_add]; congr 1; omega
      _ ≤ n * 2 ^ j := Nat.mul_le_mul_right _ hlow
  obtain ⟨k, hk, hone⟩ := exists_unitsPerOne_eq_pow
  have hexp : j + (k - j) = k := by omega
  refine ⟨(k - j) * 0x10000000000000 + n * 2 ^ j, ?_⟩
  rw [(unitsAt_grid hm (Or.inr hm')).1, hone, Nat.mul_assoc, ← pow_add, hexp]

/-- From `2 ^ 53` on every magnitude is a whole number. -/
theorem exists_value_eq_natCast {x : Magnitude} (hx : (2 ^ 53 : ℕ) ≤ x.value) :
    ∃ n : ℕ, x.value = n := by
  have hrank : 0x4340000000000000 ≤ x.rank := by
    rw [← unitsAt_strictMono.le_iff_le, unitsAt_two_pow_fifty_three, ← units_eq_unitsAt]
    rw [value, le_div_iff₀ unitsPerOne_cast_pos] at hx
    exact_mod_cast hx
  obtain ⟨k, hk, hone⟩ := exists_unitsPerOne_eq_pow
  have hexp : x.rank / 0x10000000000000 - 1 = (x.rank / 0x10000000000000 - 1 - k) + k := by omega
  refine ⟨(0x10000000000000 + x.rank % 0x10000000000000)
    * 2 ^ (x.rank / 0x10000000000000 - 1 - k), ?_⟩
  rw [value_eq_natCast_iff, units_eq_unitsAt, unitsAt, if_neg (by omega), hexp, pow_add, hone,
    Nat.add_sub_cancel, Nat.mul_assoc]

/-! ### Reading the shortest decimal -/

/-- A decimal reads as a magnitude iff that has the nearest rank. -/
theorem isReadFrom_iff {x : Magnitude} {d : Decimal} :
    x.isReadFrom d = true ↔ IsNearest (d.value * unitsPerOne) x.rank := by
  -- Some rank is nearest, and reading ends there.
  obtain ⟨r, hr⟩ := exists_isNearest (mul_nonneg d.value_nonneg unitsPerOne_cast_pos.le)
  rw [isReadFrom, decide_eq_true_eq, Binary64.ofDecimal_eq_ofRank hr,
    Binary64.ofRank_eq_finite_iff]
  constructor
  · rintro rfl
    exact hr
  · exact hr.eq

/-- A decimal with the value of a magnitude reads as it. -/
theorem isReadFrom_of_value_eq {x : Magnitude} {d : Decimal} (h : d.value = x.value) :
    x.isReadFrom d = true := by
  rw [isReadFrom_iff, h, value_mul_unitsPerOne]
  exact IsNearest.unitsAt x.rank

/-- The exact decimal has the value of the magnitude. -/
theorem exactDecimal_value (x : Magnitude) : x.exactDecimal.value = x.value := by
  obtain ⟨k, hk, hone⟩ := exists_unitsPerOne_eq_pow
  have hexact : x.exactDecimal = ⟨x.units * Nat.pow 5 k, -(k : ℤ)⟩ := by
    have hplace : (-1074 : ℤ) = -(k : ℤ) := by omega
    unfold exactDecimal
    rw [← hk, hplace]
  have hten : (10 : ℚ) ^ k = 2 ^ k * 5 ^ k := by
    rw [← mul_pow]
    norm_num
  rw [hexact, Decimal.value, value, hone, Nat.pow_eq, zpow_neg, zpow_natCast, hten]
  push_cast
  field_simp

/-- A search ends at the first place that has something, or has nothing anywhere. -/
theorem searchFrom_cases (found? : ℕ → Option Decimal) (last : Decimal) (budget start : ℕ) :
    (∃ place, start ≤ place ∧ place < start + budget ∧
        (∀ p, start ≤ p → p < place → found? p = none) ∧
        found? place = some (searchFrom found? last budget start)) ∨
      ((∀ p, start ≤ p → p < start + budget → found? p = none) ∧
        searchFrom found? last budget start = last) := by
  -- The start moves on as the budget goes down.
  induction budget generalizing start with
  | zero => exact Or.inr ⟨fun p hp hlt => by omega, rfl⟩
  | succ budget ih =>
    rcases hstart : found? start with _ | d
    · have hstep : searchFrom found? last (budget + 1) start
          = searchFrom found? last budget (start + 1) := by simp only [searchFrom, hstart]
      have hnone : ∀ p, start ≤ p → ¬ start + 1 ≤ p → found? p = none := by
        intro p hp hp'
        obtain rfl : p = start := by omega
        exact hstart
      rw [hstep]
      rcases ih (start + 1) with ⟨place, hle, hlt, hbefore, hfound⟩ | ⟨hall, hlast⟩
      · refine Or.inl ⟨place, by omega, by omega, fun p hp hlt => ?_, hfound⟩
        by_cases hp' : start + 1 ≤ p
        · exact hbefore p hp' hlt
        · exact hnone p hp hp'
      · refine Or.inr ⟨fun p hp hlt => ?_, hlast⟩
        by_cases hp' : start + 1 ≤ p
        · exact hall p hp' (by omega)
        · exact hnone p hp hp'
    · have hstop : searchFrom found? last (budget + 1) start = d := by
        simp only [searchFrom, hstart]
      exact Or.inl ⟨start, le_rfl, by omega, fun p hp hlt => by omega, by rw [hstop, hstart]⟩

/-- The shortest decimal is the first that is found, if one is found within 17 places. -/
theorem shortest_cases (x : Magnitude) :
    (∃ place, 1 ≤ place ∧ place ≤ 17 ∧ (∀ p, 1 ≤ p → p < place → x.onGrid? p = none) ∧
        x.onGrid? place = some x.shortest) ∨
      ((∀ p, 1 ≤ p → p ≤ 17 → x.onGrid? p = none) ∧ x.shortest = x.exactDecimal) := by
  rw [shortest]
  rcases searchFrom_cases x.onGrid? x.exactDecimal 17 1 with
    ⟨place, hle, hlt, hbefore, hfound⟩ | ⟨hall, hlast⟩
  · exact Or.inl ⟨place, hle, by omega, hbefore, hfound⟩
  · exact Or.inr ⟨fun p hp hle => hall p hp (by omega), hlast⟩

section Found

variable {x : Magnitude} {digits : ℕ} {d : Decimal}

theorem isReadFrom_of_onGrid?_eq_some (h : x.onGrid? digits = some d) : x.isReadFrom d = true :=
  List.find?_some h

theorem mem_neighbours_of_onGrid?_eq_some (h : x.onGrid? digits = some d) :
    d ∈ x.neighbours (x.decimalPoint - digits) := by
  rw [onGrid?] at h
  exact List.mem_of_find?_eq_some h

end Found

/-- The shortest decimal reads as the magnitude. -/
theorem shortest_isReadFrom (x : Magnitude) : x.isReadFrom x.shortest = true := by
  rcases x.shortest_cases with ⟨_, -, -, -, hfound⟩ | ⟨-, hlast⟩
  · exact isReadFrom_of_onGrid?_eq_some hfound
  · rw [hlast]
    exact isReadFrom_of_value_eq x.exactDecimal_value

/-! ### Neighbours on a grid -/

/-- The neighbours are the two multiples of the power of ten between which the magnitude lies, the
nearer one in front. -/
theorem exists_neighbours (x : Magnitude) (e : ℤ) :
    ∃ b : ℕ, (b : ℚ) * 10 ^ e ≤ x.value ∧ x.value < (b + 1) * 10 ^ e ∧
      x.neighbours e =
        if 2 * x.value < (2 * b + 1) * 10 ^ e ∨ 2 * x.value = (2 * b + 1) * 10 ^ e ∧ b % 2 = 0 then
          [⟨b, e⟩, ⟨b + 1, e⟩]
        else [⟨b + 1, e⟩, ⟨b, e⟩] := by
  have hten : (0 : ℚ) < 10 ^ e := zpow_pos (by norm_num) e
  have hunits : x.value * unitsPerOne = x.units := by
    rw [value_mul_unitsPerOne, units_eq_unitsAt]
  -- The ratio of the magnitude to the grid, as the definition works it out on either side of zero.
  obtain ⟨num, den, hden, hvalue, hdef⟩ : ∃ num den : ℕ, 0 < den ∧
      x.value * den = num * 10 ^ e ∧ x.neighbours e =
        if 2 * (num % den) < den ∨ 2 * (num % den) = den ∧ num / den % 2 = 0 then
          [⟨num / den, e⟩, ⟨num / den + 1, e⟩]
        else [⟨num / den + 1, e⟩, ⟨num / den, e⟩] := by
    by_cases he : 0 ≤ e
    · refine ⟨x.units, unitsPerOne * 10 ^ e.toNat, by have := unitsPerOne_pos; positivity, ?_, ?_⟩
      · have hpow : (10 : ℚ) ^ e = 10 ^ e.toNat := by
          rw [← zpow_natCast, Int.toNat_of_nonneg he]
        rw [hpow, ← hunits]
        push_cast
        ring
      · simp only [neighbours, if_pos he, Nat.pow_eq, Bool.or_eq_true, Bool.and_eq_true,
          decide_eq_true_eq]
    · refine ⟨x.units * 10 ^ e.natAbs, unitsPerOne, unitsPerOne_pos, ?_, ?_⟩
      · have hpow : (10 : ℚ) ^ e.natAbs * 10 ^ e = 1 := by
          rw [← zpow_natCast, ← zpow_add₀ (by norm_num)]
          have hzero : (e.natAbs : ℤ) + e = 0 := by omega
          rw [hzero, zpow_zero]
        rw [hunits, Nat.cast_mul, Nat.cast_pow, Nat.cast_ofNat, mul_assoc, hpow, mul_one]
      · simp only [neighbours, if_neg he, Nat.pow_eq, Bool.or_eq_true, Bool.and_eq_true,
          decide_eq_true_eq]
  have hden' : (0 : ℚ) < den := by exact_mod_cast hden
  have hsplit : (num : ℚ) = den * (num / den : ℕ) + (num % den : ℕ) := by
    exact_mod_cast (Nat.div_add_mod num den).symm
  have hrest : ((num % den : ℕ) : ℚ) < den := by exact_mod_cast Nat.mod_lt num hden
  have hrest0 : (0 : ℚ) ≤ (num % den : ℕ) := Nat.cast_nonneg _
  -- everything is compared after multiplying by the denominator
  have hquot : x.value * den = (num / den : ℕ) * 10 ^ e * den + (num % den : ℕ) * 10 ^ e := by
    rw [hvalue, hsplit]
    ring
  have hmul : ((num % den : ℕ) : ℚ) * 10 ^ e < den * 10 ^ e := mul_lt_mul_of_pos_right hrest hten
  have hmul0 : (0 : ℚ) ≤ (num % den : ℕ) * 10 ^ e := mul_nonneg hrest0 hten.le
  have hmiddle : (2 * x.value - (2 * (num / den : ℕ) + 1) * 10 ^ e) * den
      = (2 * (num % den : ℕ) - den) * 10 ^ e := by linarith
  have hlt : 2 * x.value < (2 * (num / den : ℕ) + 1) * 10 ^ e ↔ 2 * (num % den) < den := by
    rw [← sub_neg, ← mul_lt_mul_iff_left₀ hden', zero_mul, hmiddle, ← zero_mul ((10 : ℚ) ^ e),
      mul_lt_mul_iff_left₀ hten, sub_neg]
    exact_mod_cast Iff.rfl
  have htie : 2 * x.value = (2 * (num / den : ℕ) + 1) * 10 ^ e ↔ 2 * (num % den) = den := by
    rw [← sub_eq_zero, ← mul_eq_zero_iff_right hden'.ne', hmiddle, mul_eq_zero_iff_right hten.ne',
      sub_eq_zero]
    exact_mod_cast Iff.rfl
  refine ⟨num / den, ?_, ?_, ?_⟩
  · rw [← mul_le_mul_iff_left₀ hden']
    linarith
  · rw [← mul_lt_mul_iff_left₀ hden']
    linarith
  · simp only [hdef, hlt, htie]

/-- The neighbours are on the grid. -/
theorem exponent_of_mem_neighbours {x : Magnitude} {e : ℤ} {d : Decimal}
    (h : d ∈ x.neighbours e) : d.exponent = e := by
  obtain ⟨b, -, -, hdef⟩ := x.exists_neighbours e
  rw [hdef] at h
  split at h <;> simp only [List.mem_cons, List.not_mem_nil, or_false] at h <;>
    rcases h with rfl | rfl <;> rfl

/-- A magnitude on the grid is the first of its neighbours. -/
theorem head?_neighbours_of_value_eq {x : Magnitude} {m k : ℕ} (hx : x.value = (m * 10 ^ k : ℕ)) :
    (x.neighbours k).head? = some ⟨m, k⟩ := by
  obtain ⟨b, hlow, hhigh, hdef⟩ := x.exists_neighbours k
  have hten : (0 : ℚ) < 10 ^ (k : ℤ) := zpow_pos (by norm_num) _
  have hx' : x.value = m * 10 ^ (k : ℤ) := by
    rw [hx, zpow_natCast]
    push_cast
    rfl
  rw [hx'] at hlow hhigh hdef
  have hlow' : b ≤ m := by exact_mod_cast le_of_mul_le_mul_right hlow hten
  have hhigh' : m < b + 1 := by exact_mod_cast lt_of_mul_lt_mul_right hhigh hten.le
  -- A multiple of the power is not strictly between two that follow each other.
  obtain rfl : m = b := by omega
  rw [hdef, if_pos (Or.inl (by linarith))]
  rfl

/-- A magnitude on the grid is found there, exactly. -/
theorem onGrid?_of_value_eq {x : Magnitude} {m k digits : ℕ} (hx : x.value = (m * 10 ^ k : ℕ))
    (hk : x.decimalPoint - digits = k) : x.onGrid? digits = some ⟨m, k⟩ := by
  have hread : x.isReadFrom ⟨m, k⟩ = true :=
    isReadFrom_of_value_eq (by rw [Decimal.value_natCast, hx])
  obtain ⟨rest, hrest⟩ := List.head?_eq_some_iff.mp (head?_neighbours_of_value_eq hx)
  rw [onGrid?, hk, hrest, List.find?_cons_of_pos hread]

/-! ### Whole numbers -/

/-- The place of the first digit of a positive whole number is the number of its digits. -/
theorem decimalPoint_of_value_eq {x : Magnitude} {n : ℕ} (hn : n ≠ 0) (hx : x.value = n) :
    x.decimalPoint = (digitsIn 10 n).length := by
  rw [value_eq_natCast_iff] at hx
  have hle : unitsPerOne ≤ x.units := by
    rw [hx]
    exact Nat.le_mul_of_pos_left _ (Nat.pos_of_ne_zero hn)
  rw [decimalPoint, if_pos hle, hx, Nat.mul_div_cancel _ unitsPerOne_pos]

/-- Between two powers of ten the decimal point is where the upper one has its last zero. -/
theorem decimalPoint_eq_of_bounds {x : Magnitude} {n k : ℕ} (hx : x.value = n)
    (hlow : 10 ^ k ≤ n) (hhigh : n < 10 ^ (k + 1)) : x.decimalPoint = k + 1 := by
  have hn : n ≠ 0 := by
    have := Nat.pow_pos (n := k) (show 0 < 10 by omega)
    omega
  -- between the powers there is one more digit than the lower one has zeros
  have hle := (length_digitsIn_le_iff (k := k + 1) (show 1 < 10 by omega) hn).mpr hhigh
  have hgt := mt (length_digitsIn_le_iff (k := k) (show 1 < 10 by omega) hn).mp (by omega)
  rw [decimalPoint_of_value_eq hn hx]
  omega

/-- The shortest decimal of a whole number is a whole number. -/
theorem shortest_isWhole {x : Magnitude} {n : ℕ} (hn : n ≠ 0) (hx : x.value = n) :
    ∃ m : ℕ, x.shortest.value = m := by
  have hpoint := decimalPoint_of_value_eq hn hx
  have hlen : 1 ≤ (digitsIn 10 n).length :=
    Nat.pos_of_ne_zero (mt List.length_eq_zero_iff.mp (digitsIn_ne_nil (by omega)))
  -- the grid of all digits has the magnitude, and the grids before it have whole numbers only
  have hgoal : x.onGrid? (digitsIn 10 n).length = some ⟨n, (0 : ℕ)⟩ := by
    refine onGrid?_of_value_eq (by rw [hx, pow_zero, Nat.mul_one]) ?_
    rw [hpoint, sub_self]
    rfl
  rcases x.shortest_cases with ⟨place, -, -, hbefore, hfound⟩ | ⟨-, hlast⟩
  · have hplace : place ≤ (digitsIn 10 n).length := by
      by_contra hlt
      rw [hbefore _ hlen (not_le.mp hlt)] at hgoal
      cases hgoal
    obtain ⟨k, hk⟩ : ∃ k : ℕ, x.decimalPoint - place = k :=
      ⟨(digitsIn 10 n).length - place, by omega⟩
    have hexp : x.shortest.exponent = k := by
      rw [← hk]
      exact exponent_of_mem_neighbours (mem_neighbours_of_onGrid?_eq_some hfound)
    refine ⟨x.shortest.significand * 10 ^ k, ?_⟩
    rw [← Decimal.value_natCast, ← hexp]
  · exact ⟨n, by rw [hlast, exactDecimal_value, hx]⟩

/-- A power of ten is its own shortest decimal. -/
theorem shortest_of_value_eq_pow {x : Magnitude} {k : ℕ} (hx : x.value = (10 ^ k : ℕ)) :
    x.shortest = ⟨1, k⟩ := by
  have hpoint := decimalPoint_eq_of_bounds hx le_rfl (Nat.pow_lt_pow_right (by omega) (by omega))
  have hfirst : x.onGrid? 1 = some ⟨1, k⟩ := by
    refine onGrid?_of_value_eq (by rw [Nat.one_mul, hx]) ?_
    rw [hpoint, Nat.cast_one]
    ring
  -- The search stops at the first place.
  rcases x.shortest_cases with ⟨place, hle, -, hbefore, hfound⟩ | ⟨hall, -⟩
  · obtain rfl : place = 1 := by
      by_contra hne
      rw [hbefore 1 le_rfl (by omega)] at hfirst
      cases hfirst
    rw [hfirst] at hfound
    exact (Option.some.inj hfound).symm
  · rw [hall 1 le_rfl (by omega)] at hfirst
    cases hfirst

/-! ### The bounds -/

/-- What a decimal reads as does not pass a magnitude that the decimal has not passed. -/
theorem value_le_of_isReadFrom {x : Magnitude} {d : Decimal} {n r : ℕ}
    (hr : unitsAt r = n * unitsPerOne) (hd : x.isReadFrom d = true) (h : d.value ≤ n) :
    x.value ≤ n := by
  have hown := IsNearest.unitsAt r
  have hle := (isReadFrom_iff.mp hd).le hown (by
    rw [hr, Nat.cast_mul]
    exact mul_le_mul_of_nonneg_right h unitsPerOne_cast_pos.le)
  rw [value, div_le_iff₀ unitsPerOne_cast_pos, units_eq_unitsAt]
  exact_mod_cast hr ▸ unitsAt_strictMono.monotone hle

/-- What a decimal reads as does not fall behind a magnitude that the decimal has reached. -/
theorem le_value_of_isReadFrom {x : Magnitude} {d : Decimal} {n r : ℕ}
    (hr : unitsAt r = n * unitsPerOne) (hd : x.isReadFrom d = true) (h : n ≤ d.value) :
    n ≤ x.value := by
  have hown := IsNearest.unitsAt r
  have hle := hown.le (isReadFrom_iff.mp hd) (by
    rw [hr, Nat.cast_mul]
    exact mul_le_mul_of_nonneg_right h unitsPerOne_cast_pos.le)
  rw [value, le_div_iff₀ unitsPerOne_cast_pos, units_eq_unitsAt]
  exact_mod_cast hr ▸ unitsAt_strictMono.monotone hle

/-- The shortest decimal is below `10 ^ 21` iff the magnitude is. -/
theorem shortest_value_lt_iff (x : Magnitude) :
    x.shortest.value < (10 ^ 21 : ℕ) ↔ x.value < (10 ^ 21 : ℕ) := by
  have hread := x.shortest_isReadFrom
  constructor
  · intro h
    have hle := value_le_of_isReadFrom unitsAt_ten_pow_twenty_one hread h.le
    refine lt_of_le_of_ne hle ?_
    -- The bound itself is its own shortest decimal, and that is not below it.
    intro heq
    rw [shortest_of_value_eq_pow heq, Decimal.value_natCast, Nat.one_mul] at h
    exact lt_irrefl _ h
  · intro h
    by_contra hge
    have hle := le_value_of_isReadFrom unitsAt_ten_pow_twenty_one hread (not_lt.mp hge)
    exact absurd hle (not_le.mpr h)

/-- Below `2 ^ 53` a shortest decimal that is a whole number is the magnitude. -/
theorem value_eq_of_shortest_value_eq {x : Magnitude} {m : ℕ} (hm : x.shortest.value = m)
    (hx : x.value < (2 ^ 53 : ℕ)) : x.value = m := by
  have hread := x.shortest_isReadFrom
  -- Every whole number below the bound is a magnitude, and none of them is skipped.
  rcases Nat.lt_or_ge m (2 ^ 53) with hlt | hge
  · obtain ⟨r, hr⟩ := exists_unitsAt_eq hlt
    rw [isReadFrom_iff, hm] at hread
    exact rank_eq_of_unitsAt_eq hr hread
  · have hle : ((2 ^ 53 : ℕ) : ℚ) ≤ x.shortest.value := by
      rw [hm]
      exact_mod_cast hge
    exact absurd (le_value_of_isReadFrom unitsAt_two_pow_fifty_three hread hle) (not_le.mpr hx)

end Magnitude

end EcmaTree
