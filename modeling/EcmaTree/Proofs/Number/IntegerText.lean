import EcmaTree.Proofs.Number.ReadBack

/-!
# The texts of integers

Integers below `10 ^ 21` are written with all their digits, without becoming binary64 numbers first.
The text is that of the nearest binary64 number below `2 ^ 53`, and from there up to `10 ^ 21` just
if the shortest decimal of that number is the integer (`numberText_int_eq_float_iff`).
-/

namespace EcmaTree

/-! ### Integers below the bound -/

theorem ofInt_eq_signed (n : ℤ) :
    Text.ofInt n = NumberStyle.signed (n < 0) (Text.ofNat n.natAbs) := by
  cases n with
  | ofNat n => rfl
  | negSucc n =>
    rw [decide_eq_true (Int.negSucc_lt_zero n)]
    rfl

theorem source_int_of_lt {n : ℤ} (hn : n.natAbs < 10 ^ 21) :
    (Number.int n).source = NumberStyle.signed (n < 0) (Text.ofNat n.natAbs) := by
  have hbound : n.natAbs < exactIntegerBound := hn
  rw [Number.source, if_pos hbound, ofInt_eq_signed]

theorem source_int_of_ge {n : ℤ} (hn : 10 ^ 21 ≤ n.natAbs) :
    (Number.int n).source = (Number.float (Binary64.ofInt n)).source := by
  have hbound : ¬ n.natAbs < exactIntegerBound := not_lt.mpr hn
  rw [Number.source, if_neg hbound, Number.source]

theorem sign_natAbs (n : ℤ) : (if decide (n < 0) then -(n.natAbs : ℤ) else n.natAbs) = n := by
  by_cases hn : n < 0
  · rw [if_pos (decide_eq_true hn)]
    omega
  · rw [if_neg (by rw [decide_eq_true_eq]; exact hn)]
    omega

theorem read_source_int_of_lt {n : ℤ} (hn : n.natAbs < 10 ^ 21) :
    LiteralValue.read (Number.int n).source = .ok (.number (.int n)) := by
  rw [source_int_of_lt hn, read_signed_ofNat (length_ofNat_le_wholeDigitLimit hn), sign_natAbs]

/-! ### The nearest number -/

/-- An integer below `10 ^ 21` has a finite nearest number. -/
theorem exists_ofInt_eq_finite {n : ℤ} (hn : n.natAbs < 10 ^ 21) :
    ∃ x : Magnitude, Magnitude.IsNearest ((n.natAbs : ℚ) * unitsPerOne) x.rank ∧
      Binary64.ofInt n = .finite (n < 0) x := by
  have hq : (0 : ℚ) ≤ n.natAbs * unitsPerOne :=
    mul_nonneg (Nat.cast_nonneg _) unitsPerOne_cast_pos.le
  obtain ⟨r, hr⟩ := Magnitude.exists_isNearest hq
  have hle : r ≤ 0x444B1AE4D6E2EF50 := by
    refine hr.le (Magnitude.IsNearest.unitsAt _) ?_
    rw [Magnitude.unitsAt_ten_pow_twenty_one, Nat.cast_mul]
    refine mul_le_mul_of_nonneg_right ?_ unitsPerOne_cast_pos.le
    exact_mod_cast hn.le
  have hlt : r < 0x7FF0000000000000 := by omega
  exact ⟨⟨r, hlt⟩, hr, ofInt_of_isNearest (x := ⟨r, hlt⟩) hr⟩

/-- An integer from `10 ^ 21` on is read back from its text as the nearest number. -/
theorem read_source_int_of_ge {n : ℤ} (hn : 10 ^ 21 ≤ n.natAbs) :
    LiteralValue.read (Number.int n).source = .ok (.number (.float (Binary64.ofInt n))) := by
  rw [source_int_of_ge hn]
  obtain ⟨r, hr⟩ := Magnitude.exists_isNearest
    (mul_nonneg (Nat.cast_nonneg n.natAbs) unitsPerOne_cast_pos.le)
  rcases Nat.lt_or_ge r 0x7FF0000000000000 with hlt | hge
  · obtain ⟨x, rfl⟩ : ∃ x : Magnitude, x.rank = r := ⟨⟨r, hlt⟩, rfl⟩
    have hlarge : (10 ^ 21 : ℕ) ≤ x.value := by
      have hvalue : Decimal.value ⟨n.natAbs, 0⟩ = n.natAbs := by
        rw [Decimal.value, zpow_zero, mul_one]
      have hread : x.isReadFrom ⟨n.natAbs, 0⟩ = true := by
        rw [Magnitude.isReadFrom_iff, hvalue]
        exact hr
      refine Magnitude.le_value_of_isReadFrom Magnitude.unitsAt_ten_pow_twenty_one hread ?_
      rw [hvalue]
      exact_mod_cast hn
    have hrank : x.rank ≠ 0 := by
      intro hzero
      rw [Magnitude.value_of_rank_eq_zero hzero] at hlarge
      norm_num at hlarge
    rw [ofInt_of_isNearest hr]
    apply read_source_of_not_whole hrank
    intro m hm
    -- the shortest decimal is on the same side of the bound as the magnitude
    by_contra hm'
    have hshort : x.shortest.value < (10 ^ 21 : ℕ) := by
      rw [hm]
      exact_mod_cast not_le.mp hm'
    exact absurd ((Magnitude.shortest_value_lt_iff x).mp hshort) (not_lt.mpr hlarge)
  · rw [Binary64.ofInt_eq_ofRank hr, Binary64.ofRank_of_le hge]
    cases decide (n < 0) <;> rfl

/-- A positive integer is not nearest to zero. -/
theorem rank_ne_zero_of_isNearest {x : Magnitude} {m : ℕ} (hm : m ≠ 0)
    (hx : Magnitude.IsNearest ((m : ℚ) * unitsPerOne) x.rank) : x.rank ≠ 0 := by
  intro hzero
  rw [hzero] at hx
  have hle := hx.le_middle Nat.zero_lt_one
  have hone : (1 : ℚ) ≤ m * unitsPerOne := by
    exact_mod_cast Nat.mul_pos (Nat.pos_of_ne_zero hm) unitsPerOne_pos
  have hunits : Magnitude.unitsAt 1 = 1 := rfl
  rw [Magnitude.unitsAt_zero, hunits, Nat.cast_zero, Nat.cast_one] at hle
  linarith

/-- Below `2 ^ 53` the shortest decimal of the nearest number is the integer. -/
theorem shortest_value_of_lt {x : Magnitude} {m : ℕ} (hm0 : m ≠ 0) (hm : m < 2 ^ 53)
    (hx : Magnitude.IsNearest ((m : ℚ) * unitsPerOne) x.rank) : x.shortest.value = m := by
  obtain ⟨r, hr⟩ := Magnitude.exists_unitsAt_eq hm
  have hvalue := Magnitude.rank_eq_of_unitsAt_eq hr hx
  obtain ⟨j, hj⟩ := Magnitude.shortest_isWhole hm0 hvalue
  have hlt : x.value < (2 ^ 53 : ℕ) := by
    rw [hvalue]
    exact_mod_cast hm
  rw [hj, ← Magnitude.value_eq_of_shortest_value_eq hj hlt, hvalue]

/-! ### Equal texts -/

/-- Between zero and `10 ^ 21` the texts are equal iff the shortest decimal is the integer. -/
theorem source_int_eq_source_finite_iff {n : ℤ} {x : Magnitude} (hn : n.natAbs < 10 ^ 21)
    (hx : x.rank ≠ 0) : (Number.int n).source = (Number.float (.finite (n < 0) x)).source ↔
      x.shortest.value = n.natAbs := by
  constructor
  · intro h
    -- reading the common text gives the integer, and what the number's own text reads as
    have hread := read_source_int_of_lt hn
    rw [h] at hread
    by_cases hwhole : ∀ m : ℕ, x.shortest.value = m → 10 ^ 21 ≤ m
    · rw [read_source_of_not_whole hx hwhole] at hread
      have hnumber := LiteralValue.number.inj (Except.ok.inj hread)
      cases hnumber
    · obtain ⟨m, hm⟩ := not_forall.mp hwhole
      obtain ⟨hm, hlt⟩ := Classical.not_imp.mp hm
      rw [source_of_shortest_whole hx hm (not_le.mp hlt),
        read_signed_ofNat (length_ofNat_le_wholeDigitLimit (not_le.mp hlt))] at hread
      have hint := Number.int.inj (LiteralValue.number.inj (Except.ok.inj hread))
      have habs : m = n.natAbs := by
        rw [← hint]
        split <;> omega
      rw [hm, habs]
  · intro h
    rw [source_int_of_lt hn, source_of_shortest_whole hx h hn]

theorem numberText_build_eq_iff {y z : Number} :
    Builder.numberText.build [.number y] = Builder.numberText.build [.number z] ↔
      y.source = z.source := by
  show (Except.ok (.text y.source) : Built) = .ok (.text z.source) ↔ _
  rw [Except.ok.injEq, Value.text.injEq]

/-- **Texts of integers.**  An integer is written like the binary64 number nearest to it below
`2 ^ 53`, from `10 ^ 21` on, and in between iff it is the shortest decimal of that number. -/
theorem numberText_int_eq_float_iff (n : ℤ) :
    Builder.numberText.build [.number (.int n)]
        = Builder.numberText.build [.number (.float (Binary64.ofInt n))] ↔
      n.natAbs < 2 ^ 53 ∨ 10 ^ 21 ≤ n.natAbs ∨
        ∃ x, Binary64.ofInt n = .finite (n < 0) x ∧ x.shortest.value = n.natAbs := by
  rw [numberText_build_eq_iff]
  -- From `10 ^ 21` on both are written with an exponent.
  rcases Nat.lt_or_ge n.natAbs (10 ^ 21) with hlt | hge
  · obtain ⟨x, hx, hofInt⟩ := exists_ofInt_eq_finite hlt
    -- Zero has no shortest decimal to speak of.
    rcases eq_or_ne n 0 with rfl | hn
    · have hrank : x.rank = 0 := by
        rw [Int.natAbs_zero, Nat.cast_zero, zero_mul] at hx
        exact hx.eq (Magnitude.IsNearest.unitsAt 0)
      refine iff_of_true ?_ (Or.inl (by norm_num))
      rw [hofInt, source_zero hrank]
      rfl
    · have hn' : n.natAbs ≠ 0 := Int.natAbs_ne_zero.mpr hn
      rw [hofInt, source_int_eq_source_finite_iff hlt (rank_ne_zero_of_isNearest hn' hx)]
      constructor
      · exact fun h => Or.inr (Or.inr ⟨x, rfl, h⟩)
      · rintro (hsmall | hlarge | ⟨y, hy, hshortest⟩)
        · exact shortest_value_of_lt hn' hsmall hx
        · omega
        · obtain rfl : x = y := (Binary64.finite.inj hy).2
          exact hshortest
  · exact iff_of_true (source_int_of_ge hge) (Or.inr (Or.inl hge))

/-- The text of `2 ^ 53 + 1` is not that of the binary64 number nearest to it, which is `2 ^ 53`. -/
theorem numberText_two_pow_fifty_three_add_one :
    Builder.numberText.build [.number (.int 9007199254740993)]
      ≠ Builder.numberText.build [.number (.float (Binary64.ofInt 9007199254740993))] := by
  have hne : (Number.int 9007199254740993).source
      ≠ (Number.float (Binary64.ofInt 9007199254740993)).source := by decide +kernel
  exact mt numberText_build_eq_iff.mp hne

end EcmaTree
