import EcmaTree.Proofs.Number.IntegerText
import EcmaTree.Proofs.Number.SignificantDigits

/-!
# The texts of finite numbers

The text of a finite number other than zero is a numeral that denotes its shortest decimal,
`s * 10 ^ q` with no zero at the end of `s`, and among the numerals that do so it is the canonical
one: plain from `10 ^ -6` up to `10 ^ 21` and scientific elsewhere, without needless zeros in front
or at the end (`numberText_canonical`).

Which notation is taken is a question about the place of the decimal point, and that is a question
about the size of the decimal (`Decimal.ten_zpow_le_value_iff`).  The rest is read off from the four
notations, for any digits that neither start nor end with a zero.
-/

namespace EcmaTree

/-! ### The size of a decimal -/

/-- The first digit of `s * 10 ^ q` stands for a power of ten that is not above it, and the next
power of ten is. -/
theorem Decimal.ten_zpow_le_value_iff {s : ℕ} (hs : s ≠ 0) {q j : ℤ} :
    (10 : ℚ) ^ j ≤ Decimal.value ⟨s, q⟩ ↔ j < (Text.ofNat s).length + q := by
  obtain ⟨k, hk, hlow, hhigh⟩ := exists_length_digitsIn hs
  have hlen : (Text.ofNat s).length = k + 1 := by rw [Text.ofNat, List.length_map, hk]
  have hten : (0 : ℚ) < 10 ^ q := zpow_pos (by norm_num) q
  -- The decimal lies between two powers of ten that follow each other.
  have hlow' : (10 : ℚ) ^ (k + q) ≤ Decimal.value ⟨s, q⟩ := by
    unfold value
    rw [zpow_add₀ (by norm_num), zpow_natCast]
    exact mul_le_mul_of_nonneg_right (by exact_mod_cast hlow) hten.le
  have hhigh' : Decimal.value ⟨s, q⟩ < 10 ^ (((k + 1 : ℕ) : ℤ) + q) := by
    unfold value
    rw [zpow_add₀ (by norm_num), zpow_natCast]
    exact mul_lt_mul_of_pos_right (by exact_mod_cast hhigh) hten
  rw [hlen]
  constructor
  · intro h
    exact (zpow_lt_zpow_iff_right₀ (by norm_num)).mp (lt_of_le_of_lt h hhigh')
  · intro h
    have hexp : j ≤ k + q := by omega
    calc (10 : ℚ) ^ j ≤ 10 ^ (k + q) := zpow_le_zpow_right₀ (by norm_num) hexp
      _ ≤ Decimal.value ⟨s, q⟩ := hlow'

/-! ### Canonical numerals -/

/-- Digits that neither start nor end with a zero. -/
structure Text.IsSignificant (digits : Text) : Prop where
  /-- There is a digit. -/
  ne_nil : digits ≠ []
  /-- Only digits from `0` to `9`. -/
  exists_ofDigit : ∀ c ∈ digits, ∃ d < 10, c = CodePoint.ofDigit d
  /-- The first digit is not zero. -/
  head?_ne : digits.head? ≠ some CodePoint.digitZero
  /-- The last digit is not zero. -/
  getLast?_ne : digits.getLast? ≠ some CodePoint.digitZero

/-- The digits of a number that is no multiple of ten are significant. -/
theorem Text.isSignificant_ofNat {s : ℕ} (hs : s % 10 ≠ 0) : (ofNat s).IsSignificant where
  ne_nil := ofNat_ne_nil s
  exists_ofDigit _ := exists_ofDigit_of_mem_ofNat
  head?_ne := head?_ofNat_ne_digitZero (by omega)
  getLast?_ne := by
    rw [getLast?_ofNat, ne_eq, Option.some.injEq]
    exact CodePoint.ofDigit_ne_digitZero (Nat.mod_lt s (by omega)) hs

section Take

variable {digits : Text} {k : ℕ}

theorem Text.IsSignificant.take_ne_nil (h : digits.IsSignificant) (hk : k ≠ 0) :
    digits.take k ≠ [] := by
  rw [ne_eq, List.take_eq_nil_iff, not_or]
  exact ⟨hk, h.ne_nil⟩

theorem Text.IsSignificant.head?_take_ne (h : digits.IsSignificant) (hk : k ≠ 0) :
    (digits.take k).head? ≠ some CodePoint.digitZero := by
  rw [List.head?_take, if_neg hk]
  exact h.head?_ne

end Take

namespace DecimalNumeral

/-- A numeral without needless zeros and without a needless point. -/
structure IsReduced (n : DecimalNumeral) : Prop where
  /-- Only digits from `0` to `9`. -/
  exists_ofDigit : ∀ c ∈ n.whole ++ n.fraction, ∃ d < 10, c = CodePoint.ofDigit d
  /-- There is a digit in front of the point. -/
  whole_ne_nil : n.whole ≠ []
  /-- A zero in front stands alone. -/
  leading : n.whole.head? = some CodePoint.digitZero → n.whole = [CodePoint.digitZero]
  /-- There is a point iff there are digits behind it. -/
  hasPoint_iff : n.hasPoint = true ↔ n.fraction ≠ []
  /-- The digits behind the point do not end with a zero. -/
  trailing : n.fraction.getLast? ≠ some CodePoint.digitZero

/-- The scientific notation of `s * 10 ^ q`. -/
structure IsScientific (n : DecimalNumeral) (s : ℕ) (q : ℤ) : Prop where
  /-- One digit in front of the point, and not zero. -/
  whole : ∃ c, n.whole = [c] ∧ c ≠ CodePoint.digitZero
  /-- The others are behind it. -/
  digits : n.whole ++ n.fraction = Text.ofNat s
  /-- The power of ten of the first digit, with a sign. -/
  exponent : n.exponent = some (NumberStyle.exponentPart ((Text.ofNat s).length + q - 1))
  /-- Its digits do not start with a zero. -/
  exponent_leading : ∀ e ∈ n.exponent, e.digits.head? ≠ some CodePoint.digitZero

/-- The canonical numeral of `s * 10 ^ q`, where `s` has no zero at the end. -/
structure IsCanonical (n : DecimalNumeral) (s : ℕ) (q : ℤ) : Prop where
  /-- It denotes exactly the decimal. -/
  decimal_value : n.decimal.value = Decimal.value ⟨s, q⟩
  /-- Plain notation is for sizes from `10 ^ -6` up to `10 ^ 21`. -/
  plain_iff : n.exponent = none ↔
    (10 : ℚ) ^ (-6 : ℤ) ≤ Decimal.value ⟨s, q⟩ ∧ Decimal.value ⟨s, q⟩ < 10 ^ (21 : ℤ)
  /-- Elsewhere the notation is scientific. -/
  scientific : n.exponent ≠ none → n.IsScientific s q
  /-- No needless zeros in either. -/
  reduced : n.IsReduced

end DecimalNumeral

namespace NumberStyle

section Notations

variable {digits : Text} {point : ℤ}

/-- Zeros in front of the digits stand behind a zero and a point. -/
theorem smallNumeral_isReduced (h : digits.IsSignificant) :
    (smallNumeral digits point).IsReduced where
  exists_ofDigit := by
    intro c hc
    rcases List.mem_append.mp hc with hzero | hc
    -- a zero in front of the point, zeros behind it, and the digits
    · exact ⟨0, by omega, List.eq_of_mem_singleton hzero⟩
    · rcases List.mem_append.mp hc with hzero | hc
      · exact ⟨0, by omega, List.eq_of_mem_replicate hzero⟩
      · exact h.exists_ofDigit c hc
  whole_ne_nil := List.cons_ne_nil _ _
  leading _ := rfl
  hasPoint_iff := iff_of_true rfl (List.append_ne_nil_of_right_ne_nil _ h.ne_nil)
  trailing := by
    show (Text.zeros point.natAbs ++ digits).getLast? ≠ _
    rw [List.getLast?_append_of_ne_nil _ h.ne_nil]
    exact h.getLast?_ne

/-- Zeros behind the digits need no point. -/
theorem wholeNumeral_isReduced (h : digits.IsSignificant) (k : ℕ) :
    (wholeNumeral (digits ++ Text.zeros k)).IsReduced where
  exists_ofDigit := by
    intro c hc
    rw [wholeNumeral, List.append_nil] at hc
    rcases List.mem_append.mp hc with hc | hzero
    · exact h.exists_ofDigit c hc
    · exact ⟨0, by omega, List.eq_of_mem_replicate hzero⟩
  whole_ne_nil := List.append_ne_nil_of_left_ne_nil h.ne_nil _
  leading hhead := by
    rw [wholeNumeral, List.head?_append_of_ne_nil _ h.ne_nil] at hhead
    exact absurd hhead h.head?_ne
  hasPoint_iff := iff_of_false Bool.false_ne_true (not_not.mpr rfl)
  trailing := (Option.some_ne_none _).symm

/-- A point among the digits has some on either side. -/
theorem insideNumeral_isReduced (h : digits.IsSignificant) (hpoint : 0 < point)
    (hlen : point < digits.length) : (insideNumeral digits point).IsReduced where
  exists_ofDigit := by
    intro c hc
    rw [insideNumeral, List.take_append_drop] at hc
    exact h.exists_ofDigit c hc
  whole_ne_nil := h.take_ne_nil (by omega)
  leading hhead := absurd hhead (h.head?_take_ne (by omega))
  hasPoint_iff := iff_of_true rfl (mt List.drop_eq_nil_iff.mp (by omega))
  trailing := by
    rw [insideNumeral, List.getLast?_drop, if_neg (by omega)]
    exact h.getLast?_ne

/-- With an exponent there is a point iff there is a second digit. -/
theorem scientificNumeral_isReduced (h : digits.IsSignificant) :
    (scientificNumeral digits point).IsReduced where
  exists_ofDigit := by
    intro c hc
    rw [scientificNumeral, List.take_append_drop] at hc
    exact h.exists_ofDigit c hc
  whole_ne_nil := h.take_ne_nil one_ne_zero
  leading hhead := absurd hhead (h.head?_take_ne one_ne_zero)
  hasPoint_iff := by
    show decide (1 < digits.length) = true ↔ digits.drop 1 ≠ []
    rw [decide_eq_true_eq, ne_eq, List.drop_eq_nil_iff, not_le]
  trailing := by
    show (digits.drop 1).getLast? ≠ _
    rw [List.getLast?_drop]
    split
    · exact (Option.some_ne_none _).symm
    · exact h.getLast?_ne

/-- No notation has a needless zero or point. -/
theorem sourceNumeral_isReduced (h : digits.IsSignificant) :
    (sourceNumeral digits point).IsReduced := by
  apply sourceNumeral_cases (P := DecimalNumeral.IsReduced)
  case small => exact fun _ _ => smallNumeral_isReduced h
  case whole => exact fun k _ _ => wholeNumeral_isReduced h k
  case inside => exact fun hpoint hlen _ => insideNumeral_isReduced h hpoint hlen
  case scientific => exact fun _ => scientificNumeral_isReduced h

/-- The notation is plain where the first digit is from `10 ^ -6` to `10 ^ 20`. -/
theorem sourceNumeral_exponent_eq_none_iff (hne : digits ≠ []) :
    (sourceNumeral digits point).exponent = none ↔ -6 < point ∧ point ≤ 21 := by
  have hlen : 0 < digits.length := List.length_pos_iff.mpr hne
  apply sourceNumeral_cases (P := fun n => n.exponent = none ↔ -6 < point ∧ point ≤ 21)
  case small => exact fun hleast hpoint => iff_of_true rfl ⟨hleast, by omega⟩
  case whole => exact fun k hpoint hle => iff_of_true rfl ⟨by omega, hle⟩
  case inside => exact fun hpoint _ hle => iff_of_true rfl ⟨by omega, hle⟩
  case scientific => exact fun hout => iff_of_false (Option.some_ne_none _) (by omega)

/-- Any other notation than the plain ones is scientific. -/
theorem sourceNumeral_eq_scientificNumeral (h : (sourceNumeral digits point).exponent ≠ none) :
    (point ≤ -6 ∨ 21 < point) ∧ sourceNumeral digits point = scientificNumeral digits point := by
  revert h
  apply sourceNumeral_cases (P := fun n => n.exponent ≠ none →
    (point ≤ -6 ∨ 21 < point) ∧ n = scientificNumeral digits point)
  case small => exact fun _ _ h => absurd rfl h
  case whole => exact fun _ _ _ h => absurd rfl h
  case inside => exact fun _ _ _ h => absurd rfl h
  case scientific => exact fun hout _ => ⟨hout, rfl⟩

end Notations

/-- Outside the range of plain notation, the numeral is scientific. -/
theorem scientificNumeral_isScientific {s : ℕ} (hs : s ≠ 0) {q : ℤ}
    (hout : (Text.ofNat s).length + q ≤ -6 ∨ 21 < (Text.ofNat s).length + q) :
    (scientificNumeral (Text.ofNat s) ((Text.ofNat s).length + q)).IsScientific s q where
  whole := by
    obtain ⟨c, rest, hcons⟩ := List.exists_cons_of_ne_nil (Text.ofNat_ne_nil s)
    have hhead := Text.head?_ofNat_ne_digitZero hs
    rw [hcons, List.head?_cons, ne_eq, Option.some.injEq] at hhead
    refine ⟨c, ?_, hhead⟩
    rw [scientificNumeral, hcons]
    rfl
  digits := List.take_append_drop 1 _
  exponent := rfl
  exponent_leading e he := by
    obtain rfl := Option.some.inj he
    apply Text.head?_ofNat_ne_digitZero
    omega

/-- The numeral of a decimal is canonical. -/
theorem decimalNumeral_isCanonical {s : ℕ} (hs : s % 10 ≠ 0) (q : ℤ) :
    (decimalNumeral s q).IsCanonical s q where
  decimal_value := decimalNumeral_decimal_value s q
  plain_iff := by
    have hs0 : s ≠ 0 := by omega
    -- Both bounds are powers of ten, so the place of the first digit decides.
    have hleast : (10 : ℚ) ^ (-6 : ℤ) ≤ Decimal.value ⟨s, q⟩ ↔ -6 < (Text.ofNat s).length + q :=
      Decimal.ten_zpow_le_value_iff hs0
    have hgreatest : Decimal.value ⟨s, q⟩ < 10 ^ (21 : ℤ) ↔ (Text.ofNat s).length + q ≤ 21 := by
      rw [← not_le, Decimal.ten_zpow_le_value_iff hs0, not_lt]
    unfold decimalNumeral
    rw [sourceNumeral_exponent_eq_none_iff (Text.ofNat_ne_nil s), hleast, hgreatest]
  scientific hexp := by
    obtain ⟨hout, hscientific⟩ := sourceNumeral_eq_scientificNumeral hexp
    unfold decimalNumeral
    rw [hscientific]
    exact scientificNumeral_isScientific (by omega) hout
  reduced := sourceNumeral_isReduced (Text.isSignificant_ofNat hs)

end NumberStyle

/-! ### Texts of finite numbers -/

/-- The shortest decimal of a positive magnitude has at most 17 digits, zeros at the end aside. -/
theorem exists_shortest_significand_eq {x : Magnitude} (hx : x.rank ≠ 0) :
    ∃ s k : ℕ, x.shortest.significand = s * 10 ^ k ∧ s % 10 ≠ 0 ∧ s < 10 ^ 17 := by
  obtain ⟨place, hplace, hle, -, hfound⟩ := Magnitude.exists_onGrid?_eq_some_shortest hx
  have hdigits := Magnitude.hasDigits_of_onGrid?_eq_some hx (by omega) hfound
  obtain ⟨t, j, hsignificand, ht⟩ := hdigits.mono hle
  have ht0 : t ≠ 0 := by
    rintro rfl
    rw [Nat.zero_mul] at hsignificand
    exact shortest_significand_ne_zero hx hsignificand
  -- what is left of `t` without its zeros is not longer
  obtain ⟨s, k, rfl, hs⟩ := NumberStyle.exists_eq_mul_ten_pow ht0
  refine ⟨s, k + j, ?_, hs, ?_⟩
  · rw [hsignificand, Nat.mul_assoc, ← pow_add]
  · calc s ≤ s * 10 ^ k := Nat.le_mul_of_pos_right s (by positivity)
      _ < 10 ^ 17 := ht

/-- A number is equal to another one that is not NaN if it is the same or both are zero. -/
theorem Binary64.equal_iff {u v : Binary64} :
    u.equal v = true ↔ u ≠ .nan ∧ (u = v ∨ u.isZero = true ∧ v.isZero = true) := by
  cases u <;> simp [equal]

/-- Numbers that are equal to one number are equal. -/
theorem Binary64.equal_of_equal_left {u v w : Binary64} (hv : u.equal v = true)
    (hw : u.equal w = true) : v.equal w = true := by
  rw [equal_iff] at hv hw ⊢
  obtain ⟨hu, rfl | ⟨huzero, hvzero⟩⟩ := hv
  · exact hw
  · have hvnan : v ≠ .nan := by
      rintro rfl
      cases hvzero
    rcases hw.2 with rfl | ⟨-, hwzero⟩
    · exact ⟨hvnan, Or.inr ⟨hvzero, huzero⟩⟩
    · exact ⟨hvnan, Or.inr ⟨hvzero, hwzero⟩⟩

/-- The text of a finite number tells which number it is, except for the sign of a zero. -/
theorem source_finite_eq_iff (a b : Bool) (x y : Magnitude) :
    (Number.float (.finite a x)).source = (Number.float (.finite b y)).source ↔
      (Binary64.finite a x).equal (.finite b y) = true := by
  constructor
  · intro h
    -- both numbers are equal to what the text reads as, rounded
    obtain ⟨v, hv⟩ := exists_readsBack a x
    obtain ⟨w, hw⟩ := exists_readsBack b y
    have hread := hv.read
    rw [h, hw.read] at hread
    obtain rfl : w = v := LiteralValue.number.inj (Except.ok.inj hread)
    exact Binary64.equal_of_equal_left hv.rounded hw.rounded
  · intro h
    rcases (Binary64.equal_iff.mp h).2 with heq | ⟨hx, hy⟩
    · rw [heq]
    · rw [source_zero (of_decide_eq_true hx), source_zero (of_decide_eq_true hy)]

/-- **Number texts are faithful and canonical.**  The text of a finite number other than zero is the
canonical numeral of its shortest decimal, behind a minus sign if the number is negative, and two
finite numbers have one text iff they are equal. -/
theorem numberText_canonical (x : Magnitude) :
    (x.rank ≠ 0 → ∃ (s : ℕ) (q : ℤ) (n : DecimalNumeral) (t : Text),
      x.shortest.value = Decimal.value ⟨s, q⟩ ∧ s % 10 ≠ 0 ∧ s < 10 ^ 17 ∧ n.IsCanonical s q ∧
      Builder.numberText.build [.number (.float (.finite false x))] = .ok (.text t) ∧
      Builder.numberText.build [.number (.float (.finite true x))]
        = .ok (.text (Text.ofString "-" ++ t)) ∧
      LiteralForm.parse t = .ok (.number false (.decimal n)) ∧
      LiteralForm.parse (Text.ofString "-" ++ t) = .ok (.number true (.decimal n))) ∧
    ∀ (y : Magnitude) (a b : Bool),
      Builder.numberText.build [.number (.float (.finite a x))]
          = Builder.numberText.build [.number (.float (.finite b y))] ↔
        (Binary64.finite a x).equal (.finite b y) = true := by
  constructor
  · intro hx
    obtain ⟨s, k, hsignificand, hs, hlt⟩ := exists_shortest_significand_eq hx
    have hshortest : x.shortest = ⟨s * 10 ^ k, x.shortest.exponent⟩ := by rw [← hsignificand]
    have hwell := (NumberStyle.decimalNumeral_denotes s (k + x.shortest.exponent)).wellFormed
    -- The sign aside, either number is written as the numeral of the shortest decimal.
    have hsource : ∀ negative, (Number.float (.finite negative x)).source = NumberStyle.signed
        negative (NumberStyle.decimalNumeral s (k + x.shortest.exponent)).spelling := by
      intro negative
      rw [source_finite hx, NumberStyle.decimalNumeral_spelling hs, ← hshortest]
    refine ⟨s, k + x.shortest.exponent, _, _, ?_, hs, hlt,
      NumberStyle.decimalNumeral_isCanonical hs _, ?_, ?_, parse_signed_numeral hwell false,
      parse_signed_numeral hwell true⟩
    · rw [← Decimal.value_mul_pow, ← hshortest]
    · exact congrArg (fun t => Except.ok (Value.text t)) (hsource false)
    · exact congrArg (fun t => Except.ok (Value.text t)) (hsource true)
  · intro y a b
    exact numberText_build_eq_iff.trans (source_finite_eq_iff a b x y)

/-- Fifteen hundred-millionths are written with an exponent. -/
theorem numberText_canonical_fifteen :
    let x : Magnitude := ⟨0x3E8421F5F40D8376, by decide⟩
    x.rank ≠ 0 ∧ x.shortest.value = Decimal.value ⟨15, -8⟩ ∧
      ∃ n : DecimalNumeral, n.decimal.value = Decimal.value ⟨15, -8⟩ ∧ n.exponent ≠ none ∧
        Builder.numberText.build [.number (.float (.finite true x))]
          = .ok (.text (Text.ofString "-1.5e-7")) ∧
        LiteralForm.parse (Text.ofString "-1.5e-7") = .ok (.number true (.decimal n)) := by
  intro x
  have hx : x.rank ≠ 0 := by decide
  have hshortest : x.shortest = ⟨15, -8⟩ := by decide +kernel
  have hsource : (Number.float (.finite true x)).source = Text.ofString "-1.5e-7" := by
    decide +kernel
  obtain ⟨s, q, n, t, hvalue, -, -, hn, -, hbuild, -, hparse⟩ := (numberText_canonical x).1 hx
  have htext : Text.ofString "-" ++ t = Text.ofString "-1.5e-7" := by
    rw [← hsource]
    exact (Value.text.inj (Except.ok.inj hbuild)).symm
  rw [htext] at hbuild hparse
  rw [hshortest] at hvalue
  refine ⟨hx, by rw [hshortest], n, ?_, ?_, hbuild, hparse⟩
  · rw [hn.decimal_value, hvalue]
  · intro hplain
    -- it is below the millionth from which on plain notation is used
    have hle := (hn.plain_iff.mp hplain).1
    rw [← hvalue] at hle
    norm_num [Decimal.value] at hle

end EcmaTree
