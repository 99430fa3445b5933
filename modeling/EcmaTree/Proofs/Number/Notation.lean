import EcmaTree.Literal.Value
import EcmaTree.Proofs.Literal.Grammar
import EcmaTree.Proofs.Number.Decimal
import EcmaTree.Proofs.Text.Digits
import Mathlib.Data.Nat.Factorization.Basic

/-!
# The notation of decimals in source code

What `NumberStyle.source` makes of a decimal is the text of a natural number if the decimal is one
below `10 ^ 21` (`NumberStyle.source_formatDecimal_of_whole`), and otherwise a numeral with a point
or an exponent, which stands for what the decimal reads as
(`NumberStyle.exists_numeral_source_formatDecimal`).

Both are cases of one numeral, `NumberStyle.sourceNumeral`, which chooses between four notations.
It is spelled as the digits are laid out (`NumberStyle.sourceNumeral_spelling`) and denotes the same
decimal as the digits (`NumberStyle.sourceNumeral_denotes`).
-/

namespace EcmaTree

/-! ### The decimals that numerals spell -/

/-- The decimal that a numeral spells, digit by digit. -/
def DecimalNumeral.decimal (n : DecimalNumeral) : Decimal where
  significand := Text.valueOf 10 CodePoint.decimalDigit? (n.whole ++ n.fraction)
  exponent := n.lastPlace

/-- Without point and exponent the digits are an integer, if they are not too many. -/
theorem DecimalNumeral.value_of_whole {n : DecimalNumeral} (h : n.isWhole = true)
    (hlen : n.whole.length ≤ wholeDigitLimit) :
    n.value = .ok (.int n.decimal.significand) := by
  unfold value
  rw [h, if_pos rfl, if_neg (not_lt.mpr hlen)]
  rfl

/-- Where there is a point or an exponent, the decimal is rounded. -/
theorem DecimalNumeral.value_of_not_whole {n : DecimalNumeral} (h : n.isWhole = false) :
    n.value = .ok (.float (Binary64.ofDecimal n.decimal.significand n.decimal.exponent)) := by
  unfold value
  rw [h]
  rfl

/-- The numeral without point and exponent. -/
def wholeNumeral (digits : Text) : DecimalNumeral := ⟨digits, false, [], none⟩

theorem wholeNumeral_wellFormed {digits : Text} (hne : digits ≠ [])
    (hdigits : ∀ c ∈ digits, c.isDecimalDigit = true) : (wholeNumeral digits).WellFormed :=
  ⟨hdigits, fun c hc => absurd hc List.not_mem_nil, fun _ => rfl, Or.inl hne,
    fun e he => by cases he⟩

theorem wholeNumeral_spelling (digits : Text) : (wholeNumeral digits).spelling = digits := by
  simp [wholeNumeral, DecimalNumeral.spelling]

namespace NumberStyle

/-! ### Decimals without zeros at the end -/

/-- Zeros at the end of the significand do not show. -/
theorem formatDecimal_mul_ten_pow (style : NumberStyle) {t : ℕ} (ht : t % 10 ≠ 0) (k : ℕ) (e : ℤ) :
    style.formatDecimal ⟨t * 10 ^ k, e⟩
      = style.layout (Text.ofNat t) ((Text.ofNat t).length + (k + e)) := by
  have hpoint : ((Text.ofNat (t * 10 ^ k)).length : ℤ) + e = (Text.ofNat t).length + (k + e) := by
    rw [Text.ofNat_mul_ten_pow (by omega), List.length_append, Text.length_zeros]
    push_cast
    ring
  simp only [formatDecimal, Text.trimZeros_ofNat_mul_ten_pow ht, hpoint]

/-- A positive number is one without a zero at the end times a power of ten. -/
theorem exists_eq_mul_ten_pow {s : ℕ} (hs : s ≠ 0) : ∃ t k, s = t * 10 ^ k ∧ t % 10 ≠ 0 := by
  obtain ⟨k, t, ht, hst⟩ := Nat.exists_eq_pow_mul_and_not_dvd hs 10 (by omega)
  exact ⟨t, k, by rw [hst, Nat.mul_comm], fun h => ht (Nat.dvd_of_mod_eq_zero h)⟩

/-- Without a zero at the end a decimal is a whole number iff its exponent is not negative. -/
theorem exponent_nonneg_of_value_eq {t m : ℕ} {e : ℤ} (ht : t % 10 ≠ 0)
    (h : Decimal.value ⟨t, e⟩ = m) : ∃ k : ℕ, e = k ∧ m = t * 10 ^ k := by
  rcases Int.eq_nat_or_neg e with ⟨k, rfl | rfl⟩
  · refine ⟨k, rfl, ?_⟩
    rw [Decimal.value_natCast] at h
    exact_mod_cast h.symm
  · rcases Nat.eq_zero_or_pos k with rfl | hk
    · refine ⟨0, rfl, ?_⟩
      rw [Decimal.value, Nat.cast_zero, neg_zero, zpow_zero, mul_one] at h
      rw [pow_zero, Nat.mul_one]
      exact_mod_cast h.symm
    · -- ten would divide the significand
      exfalso
      rw [Decimal.value, zpow_neg, zpow_natCast, ← div_eq_mul_inv,
        div_eq_iff (by positivity)] at h
      have hnat : t = m * 10 ^ k := by exact_mod_cast h
      obtain ⟨j, rfl⟩ : ∃ j, k = j + 1 := ⟨k - 1, by omega⟩
      rw [pow_succ, ← Nat.mul_assoc] at hnat
      omega

/-! ### Whole numbers -/

theorem source_layout_of_le {digits : Text} {point : ℤ} (hne : digits ≠ [])
    (hpoint : digits.length ≤ point) (hle : point ≤ 21) :
    source.layout digits point = digits ++ Text.zeros (point.toNat - digits.length) := by
  have hlen : 0 < digits.length := List.length_pos_iff.mpr hne
  have hpos : (decide (source.leastPositional ≤ point - 1) &&
      decide (point - 1 ≤ source.greatestPositional)) = true := by
    rw [Bool.and_eq_true, decide_eq_true_eq, decide_eq_true_eq]
    show -6 ≤ point - 1 ∧ point - 1 ≤ 20
    omega
  have hfits : digits.length ≤ point.toNat := by omega
  rw [layout, if_pos hpos, positional, if_neg (by omega), if_pos hfits]
  exact List.append_nil _

/-- A decimal that is a whole number below `10 ^ 21` is written as that number. -/
theorem source_formatDecimal_of_whole {d : Decimal} {m : ℕ} (hm0 : m ≠ 0) (hm : d.value = m)
    (hlt : m < 10 ^ 21) : source.formatDecimal d = Text.ofNat m := by
  obtain ⟨s, e⟩ := d
  have hs : s ≠ 0 := by
    rintro rfl
    rw [Decimal.value, Nat.cast_zero, zero_mul, eq_comm] at hm
    exact hm0 (by exact_mod_cast hm)
  obtain ⟨t, k, rfl, ht⟩ := exists_eq_mul_ten_pow hs
  rw [Decimal.value_mul_pow] at hm
  obtain ⟨j, hj, rfl⟩ := exponent_nonneg_of_value_eq ht hm
  have hlen : (Text.ofNat t).length + j ≤ 21 := by
    have hle := (Text.length_ofNat_le_iff hm0).mpr hlt
    rwa [Text.ofNat_mul_ten_pow (by omega), List.length_append, Text.length_zeros] at hle
  rw [formatDecimal_mul_ten_pow source ht, hj, source_layout_of_le (Text.ofNat_ne_nil t) (by omega)
    (by omega), Text.ofNat_mul_ten_pow (by omega)]
  congr 2
  omega

/-! ### Digits and exponents of numerals -/

theorem isDecimalDigit_of_mem_ofNat {n : ℕ} {c : CodePoint} (h : c ∈ Text.ofNat n) :
    c.isDecimalDigit = true := by
  obtain ⟨d, hd, rfl⟩ := Text.exists_ofDigit_of_mem_ofNat h
  rw [CodePoint.isDecimalDigit, CodePoint.decimalDigit?_ofDigit hd]
  rfl

theorem isDecimalDigit_of_mem_zeros {k : ℕ} {c : CodePoint} (h : c ∈ Text.zeros k) :
    c.isDecimalDigit = true := by
  rw [List.eq_of_mem_replicate h]
  rfl

/-- The exponent part that stands for `e`. -/
def exponentPart (e : ℤ) : ExponentPart where
  marker := CodePoint.ofChar 'e'
  sign := some (if e < 0 then CodePoint.ofChar '-' else CodePoint.ofChar '+')
  digits := Text.ofNat e.natAbs

theorem exponentPart_wellFormed (e : ℤ) : (exponentPart e).WellFormed where
  marker := Or.inl rfl
  sign c hc := by
    obtain rfl : _ = c := Option.some.inj hc
    split
    · exact Or.inr rfl
    · exact Or.inl rfl
  digits_ne_nil := Text.ofNat_ne_nil _
  digits _ := isDecimalDigit_of_mem_ofNat

theorem exponentPart_spelling (e : ℤ) : (exponentPart e).spelling = source.exponent e := by
  have hlen : 0 < (Text.ofNat e.natAbs).length := List.length_pos_iff.mpr (Text.ofNat_ne_nil _)
  have hplaces : source.exponentPlaces - (Text.ofNat e.natAbs).length = 0 := by
    show 1 - _ = 0
    omega
  unfold ExponentPart.spelling exponentPart exponent
  simp only [hplaces]
  split <;> rfl

theorem exponentPart_value (e : ℤ) : (exponentPart e).value = e := by
  unfold ExponentPart.value exponentPart
  simp only [Text.valueOf_ofNat]
  by_cases he : e < 0
  · rw [if_pos he, if_pos rfl]
    omega
  · have hne : some (CodePoint.ofChar '+') ≠ some (CodePoint.ofChar '-') := by decide
    rw [if_neg he, if_neg hne]
    omega

/-! ### The numerals of digits with a point -/

/-- A numeral for digits with the decimal point after the first `point` of them. -/
structure Denotes (n : DecimalNumeral) (digits : Text) (point : ℤ) : Prop where
  /-- Only what may stand in a numeral. -/
  wellFormed : n.WellFormed
  /-- The number that the digits make up. -/
  decimal_value : n.decimal.value
    = Decimal.value ⟨Text.valueOf 10 CodePoint.decimalDigit? digits, point - digits.length⟩

/-- Zero in front of the point, and zeros between the point and the digits. -/
def smallNumeral (digits : Text) (point : ℤ) : DecimalNumeral :=
  ⟨[CodePoint.digitZero], true, Text.zeros point.natAbs ++ digits, none⟩

/-- The point between two of the digits. -/
def insideNumeral (digits : Text) (point : ℤ) : DecimalNumeral :=
  ⟨digits.take point.toNat, true, digits.drop point.toNat, none⟩

/-- One digit in front of the point, the others behind it if there are any, and an exponent. -/
def scientificNumeral (digits : Text) (point : ℤ) : DecimalNumeral :=
  ⟨digits.take 1, decide (1 < digits.length), digits.drop 1, some (exponentPart (point - 1))⟩

/-- The numeral that is written for digits with a point. -/
def sourceNumeral (digits : Text) (point : ℤ) : DecimalNumeral :=
  if source.leastPositional ≤ point - 1 && point - 1 ≤ source.greatestPositional then
    if point ≤ 0 then smallNumeral digits point
    else if digits.length ≤ point.toNat then
      wholeNumeral (digits ++ Text.zeros (point.toNat - digits.length))
    else insideNumeral digits point
  else scientificNumeral digits point

section Layout

variable {digits : Text} {point : ℤ}

theorem Denotes.of_significand {n : DecimalNumeral} (hn : n.WellFormed)
    (hsignificand : Text.valueOf 10 CodePoint.decimalDigit? (n.whole ++ n.fraction)
      = Text.valueOf 10 CodePoint.decimalDigit? digits)
    (hplace : n.lastPlace = point - digits.length) : Denotes n digits point where
  wellFormed := hn
  decimal_value := by rw [DecimalNumeral.decimal, hsignificand, hplace]

/-- What holds of the numeral in each of the four notations holds of it. -/
theorem sourceNumeral_cases {P : DecimalNumeral → Prop}
    (small : -6 < point → point ≤ 0 → P (smallNumeral digits point))
    (whole : ∀ k : ℕ, point = digits.length + k → point ≤ 21 →
      P (wholeNumeral (digits ++ Text.zeros k)))
    (inside : 0 < point → point < digits.length → point ≤ 21 → P (insideNumeral digits point))
    (scientific : point ≤ -6 ∨ 21 < point → P (scientificNumeral digits point)) :
    P (sourceNumeral digits point) := by
  have hleast : source.leastPositional = -6 := rfl
  have hgreatest : source.greatestPositional = 20 := rfl
  -- The definition tries plain notation first, and there the place of the point decides.
  unfold sourceNumeral
  rw [hleast, hgreatest]
  split
  · next hplain =>
    rw [Bool.and_eq_true, decide_eq_true_eq, decide_eq_true_eq] at hplain
    split
    · next hsmall => exact small (by omega) hsmall
    · next hlarge =>
      split
      · next hfits => exact whole _ (by omega) (by omega)
      · next hshort => exact inside (by omega) (by omega) (by omega)
  · next hscientific =>
    rw [Bool.and_eq_true, decide_eq_true_eq, decide_eq_true_eq] at hscientific
    exact scientific (by omega)

/-- Zeros behind a point denote the digits behind them. -/
theorem smallNumeral_denotes (hdigits : ∀ c ∈ digits, c.isDecimalDigit = true)
    (hpoint : point ≤ 0) : Denotes (smallNumeral digits point) digits point := by
  refine Denotes.of_significand ⟨?_, ?_, ?_, ?_, ?_⟩ ?_ ?_
  · intro c hc
    rw [List.eq_of_mem_singleton hc]
    rfl
  · intro c hc
    rcases List.mem_append.mp hc with hc | hc
    · exact isDecimalDigit_of_mem_zeros hc
    · exact hdigits c hc
  · intro h; cases h
  · exact Or.inl (List.cons_ne_nil _ _)
  · intro e he; cases he
  -- zeros in front add nothing to the significand
  · show Text.valueOf 10 CodePoint.decimalDigit? (Text.zeros 1 ++ (Text.zeros _ ++ digits)) = _
    rw [Text.valueOf_append, Text.valueOf_append, Text.valueOf_zeros, Text.valueOf_zeros,
      Nat.zero_mul, Nat.zero_mul, Nat.zero_add, Nat.zero_add]
  · show (0 : ℤ) - (Text.zeros point.natAbs ++ digits).length = _
    rw [List.length_append, Text.length_zeros]
    omega

/-- Zeros behind the digits denote a power of ten. -/
theorem wholeNumeral_denotes (hdigits : ∀ c ∈ digits, c.isDecimalDigit = true) (hne : digits ≠ [])
    {k : ℕ} (hpoint : point = digits.length + k) :
    Denotes (wholeNumeral (digits ++ Text.zeros k)) digits point where
  wellFormed := by
    refine wholeNumeral_wellFormed (List.append_ne_nil_of_left_ne_nil hne _) fun c hc => ?_
    rcases List.mem_append.mp hc with hc | hc
    · exact hdigits c hc
    · exact isDecimalDigit_of_mem_zeros hc
  decimal_value := by
    -- the zeros are in the significand here, and in the exponent of the digits
    have hsignificand : (wholeNumeral (digits ++ Text.zeros k)).decimal
        = ⟨Text.valueOf 10 CodePoint.decimalDigit? digits * 10 ^ k, 0⟩ := by
      unfold DecimalNumeral.decimal wholeNumeral
      rw [List.append_nil, Text.valueOf_append, Text.valueOf_zeros, Text.length_zeros, Nat.add_zero]
      rfl
    have hplace : point - digits.length = (k : ℤ) + 0 := by omega
    rw [hsignificand, Decimal.value_mul_pow, hplace]

/-- A point among the digits denotes them at that place. -/
theorem insideNumeral_denotes (hdigits : ∀ c ∈ digits, c.isDecimalDigit = true)
    (hpoint : 0 < point) (hlen : point < digits.length) :
    Denotes (insideNumeral digits point) digits point := by
  refine Denotes.of_significand ⟨?_, ?_, ?_, ?_, ?_⟩ ?_ ?_
  · exact fun c hc => hdigits c (List.mem_of_mem_take hc)
  · exact fun c hc => hdigits c (List.mem_of_mem_drop hc)
  · intro h; cases h
  · right
    exact mt List.drop_eq_nil_iff.mp (by omega)
  · intro e he; cases he
  · show Text.valueOf 10 CodePoint.decimalDigit? (digits.take _ ++ digits.drop _) = _
    rw [List.take_append_drop]
  · show (0 : ℤ) - (digits.drop point.toNat).length = _
    rw [List.length_drop]
    omega

/-- With an exponent the digits denote the same at any place. -/
theorem scientificNumeral_denotes (hdigits : ∀ c ∈ digits, c.isDecimalDigit = true)
    (hne : digits ≠ []) : Denotes (scientificNumeral digits point) digits point := by
  have hlen : 0 < digits.length := List.length_pos_iff.mpr hne
  refine Denotes.of_significand ⟨?_, ?_, ?_, ?_, ?_⟩ ?_ ?_
  · exact fun c hc => hdigits c (List.mem_of_mem_take hc)
  · exact fun c hc => hdigits c (List.mem_of_mem_drop hc)
  · intro h
    have hone : ¬ 1 < digits.length := of_decide_eq_false h
    exact List.drop_eq_nil_iff.mpr (by omega)
  · left
    exact mt List.take_eq_nil_iff.mp (by simp [hne])
  · intro e he
    obtain rfl : exponentPart (point - 1) = e := Option.some.inj he
    exact exponentPart_wellFormed _
  · show Text.valueOf 10 CodePoint.decimalDigit? (digits.take 1 ++ digits.drop 1) = _
    rw [List.take_append_drop]
  -- the exponent gives back the places that the point takes away
  · show (exponentPart (point - 1)).value - (digits.drop 1).length = _
    rw [exponentPart_value, List.length_drop]
    omega

/-- Padding, point and exponent lose nothing. -/
theorem sourceNumeral_denotes (hdigits : ∀ c ∈ digits, c.isDecimalDigit = true)
    (hne : digits ≠ []) : Denotes (sourceNumeral digits point) digits point := by
  apply sourceNumeral_cases (P := fun n => Denotes n digits point)
  case small => exact fun _ hpoint => smallNumeral_denotes hdigits hpoint
  case whole => exact fun k hpoint _ => wholeNumeral_denotes hdigits hne hpoint
  case inside => exact fun hpoint hlen _ => insideNumeral_denotes hdigits hpoint hlen
  case scientific => exact fun _ => scientificNumeral_denotes hdigits hne

theorem scientificNumeral_spelling (hne : digits ≠ []) :
    (scientificNumeral digits point).spelling = source.scientific digits (point - 1) := by
  have hlen : 0 < digits.length := List.length_pos_iff.mpr hne
  simp only [scientificNumeral, DecimalNumeral.spelling, scientific, exponentPart_spelling,
    decide_eq_true_eq]
  by_cases hone : 1 < digits.length
  · rw [if_pos hone, if_neg (by omega)]
  · rw [if_neg hone, if_pos (by omega)]

/-- The numeral is spelled as the digits are laid out. -/
theorem sourceNumeral_spelling (hne : digits ≠ []) :
    (sourceNumeral digits point).spelling = source.layout digits point := by
  unfold sourceNumeral layout positional
  split_ifs
  · simp only [smallNumeral, DecimalNumeral.spelling, if_true, List.append_nil, List.append_assoc]
    rfl
  · rw [wholeNumeral_spelling]
    exact (List.append_nil _).symm
  · simp only [insideNumeral, DecimalNumeral.spelling, if_true, List.append_nil, List.append_assoc]
  · exact scientificNumeral_spelling hne

/-- A numeral without point and exponent is written for whole numbers below `10 ^ 21` only. -/
theorem isWhole_sourceNumeral (hpoint : digits.length ≤ point → 21 < point) :
    (sourceNumeral digits point).isWhole = false := by
  apply sourceNumeral_cases (P := fun n => n.isWhole = false)
  case small => exact fun _ _ => rfl
  case whole => intro k hk hle; omega
  case inside => exact fun _ _ _ => rfl
  case scientific => exact fun _ => Bool.and_false _

end Layout

/-! ### The numerals of decimals -/

/-- The numeral that is written for `s * 10 ^ q`, where `s` has no zero at the end. -/
def decimalNumeral (s : ℕ) (q : ℤ) : DecimalNumeral :=
  sourceNumeral (Text.ofNat s) ((Text.ofNat s).length + q)

theorem decimalNumeral_denotes (s : ℕ) (q : ℤ) :
    Denotes (decimalNumeral s q) (Text.ofNat s) ((Text.ofNat s).length + q) :=
  sourceNumeral_denotes (fun _ => isDecimalDigit_of_mem_ofNat) (Text.ofNat_ne_nil s)

theorem decimalNumeral_decimal_value (s : ℕ) (q : ℤ) :
    (decimalNumeral s q).decimal.value = Decimal.value ⟨s, q⟩ := by
  rw [(decimalNumeral_denotes s q).decimal_value, Text.valueOf_ofNat, add_sub_cancel_left]

theorem decimalNumeral_spelling {s : ℕ} (hs : s % 10 ≠ 0) (k : ℕ) (e : ℤ) :
    (decimalNumeral s (k + e)).spelling = source.formatDecimal ⟨s * 10 ^ k, e⟩ := by
  rw [formatDecimal_mul_ten_pow source hs]
  exact sourceNumeral_spelling (Text.ofNat_ne_nil s)

/-- A positive decimal that is no whole number below `10 ^ 21` is written as a numeral that stands
for the number it reads as. -/
theorem exists_numeral_source_formatDecimal {d : Decimal} (hs : d.significand ≠ 0)
    (hd : ∀ m : ℕ, d.value = m → 10 ^ 21 ≤ m) :
    ∃ n : DecimalNumeral, n.WellFormed ∧ n.spelling = source.formatDecimal d ∧
      n.value = .ok (.float (Binary64.ofDecimal d.significand d.exponent)) := by
  obtain ⟨s, e⟩ := d
  obtain ⟨t, k, rfl, ht⟩ := exists_eq_mul_ten_pow hs
  -- with all its zeros a whole number has more than 21 digits
  have hlarge : ∀ j : ℕ, (k + e : ℤ) = j → 21 < (Text.ofNat t).length + j := by
    intro j hj
    have hge := hd (t * 10 ^ j) (by rw [Decimal.value_mul_pow, hj, Decimal.value_natCast])
    have hne : t * 10 ^ j ≠ 0 := by omega
    have hlen := mt (Text.length_ofNat_le_iff (k := 21) hne).mp (by omega)
    rw [Text.ofNat_mul_ten_pow (by omega), List.length_append, Text.length_zeros] at hlen
    omega
  have hpoint : ((Text.ofNat t).length : ℤ) ≤ (Text.ofNat t).length + (k + e) →
      21 < ((Text.ofNat t).length : ℤ) + (k + e) := by
    intro hle
    obtain ⟨j, hj⟩ : ∃ j : ℕ, (k + e : ℤ) = j := ⟨(k + e).toNat, by omega⟩
    have := hlarge j hj
    omega
  refine ⟨decimalNumeral t (k + e), (decimalNumeral_denotes t _).wellFormed,
    decimalNumeral_spelling ht k e, ?_⟩
  have hvalue : (decimalNumeral t (k + e)).decimal.value = Decimal.value ⟨t * 10 ^ k, e⟩ := by
    rw [decimalNumeral_decimal_value, Decimal.value_mul_pow]
  have hnot : (decimalNumeral t (k + e)).isWhole = false := isWhole_sourceNumeral hpoint
  rw [DecimalNumeral.value_of_not_whole hnot]
  exact congrArg (fun y => Except.ok (Number.float y)) (Binary64.ofDecimal_congr hvalue)

end NumberStyle

end EcmaTree
