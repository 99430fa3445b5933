import EcmaTree.Build.Builder
import EcmaTree.Build.Property
import EcmaTree.Proofs.Number.Notation
import EcmaTree.Proofs.Number.Shortest

/-!
# Number tokens read back

The token made for a finite binary64 number can be read, and what is read rounds to the number.  It
is the number itself unless a padded integer stands in the token: from `2 ^ 53` up to `10 ^ 21` the
digits behind the shortest ones are written as zeros, and reading takes all of them at their word
(`numberToken_read_back`).
-/

namespace EcmaTree

/-! ### Exact values -/

/-- The value of a finite number. -/
def Binary64.value? : Binary64 → Option ℚ
  | .finite negative x => some (if negative then -x.value else x.value)
  | _ => none

/-- The value of a number. -/
def Number.value? : Number → Option ℚ
  | .int n => some n
  | .float x => x.value?

/-- The binary64 number that is nearest. -/
def Number.rounded : Number → Binary64
  | .int n => Binary64.ofInt n
  | .float x => x

theorem value?_int_eq_iff (negative : Bool) (m : ℕ) (x : Magnitude) :
    (Number.int (if negative then -m else m)).value? = (Binary64.finite negative x).value? ↔
      (m : ℚ) = x.value := by
  cases negative
  · simp [Number.value?, Binary64.value?]
  · simp [Number.value?, Binary64.value?]

theorem equal_finite_self (negative : Bool) (x : Magnitude) :
    (Binary64.finite negative x).equal (.finite negative x) = true := by
  simp only [Binary64.equal, decide_true, Bool.true_or]

theorem natAbs_signed {m : ℕ} (hm : m ≠ 0) (negative : Bool) :
    (if negative then -(m : ℤ) else m).natAbs = m ∧
      decide ((if negative then -(m : ℤ) else m) < 0) = negative := by
  cases negative
  · exact ⟨Int.natAbs_natCast m, decide_eq_false (by show ¬ (m : ℤ) < 0; omega)⟩
  · exact ⟨(Int.natAbs_neg m).trans (Int.natAbs_natCast m),
      decide_eq_true (by show -(m : ℤ) < 0; omega)⟩

/-! ### Reading signed numerals -/

theorem parse_signed_numeral {n : DecimalNumeral} (hn : n.WellFormed) (negative : Bool) :
    LiteralForm.parse (NumberStyle.signed negative n.spelling)
      = .ok (.number negative (.decimal n)) := by
  refine LiteralForm.parse_eq_ok_iff.mpr ⟨hn, ?_⟩
  cases negative <;> rfl

theorem read_signed_numeral {n : DecimalNumeral} {v : Number} (hn : n.WellFormed)
    (hv : n.value = .ok v) (negative : Bool) :
    LiteralValue.read (NumberStyle.signed negative n.spelling)
      = .ok (.number (if negative then v.neg else v)) := by
  rw [LiteralValue.read, parse_signed_numeral hn]
  simp only [LiteralForm.value, Numeral.value, hv]

theorem read_signed_ofNat {m : ℕ} (hlen : (Text.ofNat m).length ≤ wholeDigitLimit)
    (negative : Bool) :
    LiteralValue.read (NumberStyle.signed negative (Text.ofNat m))
      = .ok (.number (.int (if negative then -m else m))) := by
  have hvalue : (wholeNumeral (Text.ofNat m)).value = .ok (.int m) := by
    have hdigits : (wholeNumeral (Text.ofNat m)).decimal.significand = m := by
      rw [DecimalNumeral.decimal, wholeNumeral, List.append_nil, Text.valueOf_ofNat]
    rw [DecimalNumeral.value_of_whole rfl hlen, hdigits]
  have hwell := wholeNumeral_wellFormed (Text.ofNat_ne_nil m)
    fun c => NumberStyle.isDecimalDigit_of_mem_ofNat
  have hread := read_signed_numeral hwell hvalue negative
  rw [wholeNumeral_spelling] at hread
  rw [hread]
  cases negative <;> rfl

/-! ### Source texts of finite numbers -/

section Source

variable {negative : Bool} {x : Magnitude} {m : ℕ}

theorem source_finite (hx : x.rank ≠ 0) :
    (Number.float (.finite negative x)).source
      = NumberStyle.signed negative (NumberStyle.source.formatDecimal x.shortest) := by
  have hsign : (negative && (decide (x.rank ≠ 0) || NumberStyle.source.signsZero)) = negative := by
    rw [decide_eq_true hx, Bool.true_or, Bool.and_true]
  rw [Number.source, NumberStyle.format, hsign, NumberStyle.formatMagnitude, if_neg hx]

theorem source_zero (hx : x.rank = 0) :
    (Number.float (.finite negative x)).source = Text.ofNat 0 := by
  have hsign : (negative && (decide (x.rank ≠ 0) || NumberStyle.source.signsZero)) = false := by
    rw [decide_eq_false (not_not.mpr hx)]
    exact Bool.and_false _
  rw [Number.source, NumberStyle.format, hsign, NumberStyle.formatMagnitude, if_pos hx]
  rfl

/-- A positive magnitude does not read from zero. -/
theorem ne_zero_of_isReadFrom {d : Decimal} (hx : x.rank ≠ 0) (hd : x.isReadFrom d = true) :
    d.value ≠ 0 := by
  intro hzero
  rw [Magnitude.isReadFrom_iff, hzero, zero_mul] at hd
  exact hx (hd.eq (Magnitude.IsNearest.unitsAt 0))

theorem shortest_significand_ne_zero (hx : x.rank ≠ 0) : x.shortest.significand ≠ 0 := by
  intro hzero
  refine ne_zero_of_isReadFrom hx x.shortest_isReadFrom ?_
  rw [Decimal.value, hzero, Nat.cast_zero, zero_mul]

theorem ne_zero_of_shortest_value_eq (hx : x.rank ≠ 0) (hm : x.shortest.value = m) : m ≠ 0 := by
  rintro rfl
  exact ne_zero_of_isReadFrom hx x.shortest_isReadFrom (by rw [hm, Nat.cast_zero])

/-- A whole number below `10 ^ 21` is written as it is. -/
theorem source_of_shortest_whole (hx : x.rank ≠ 0) (hm : x.shortest.value = m)
    (hlt : m < 10 ^ 21) : (Number.float (.finite negative x)).source
      = NumberStyle.signed negative (Text.ofNat m) := by
  have hm0 := ne_zero_of_shortest_value_eq hx hm
  rw [source_finite hx, NumberStyle.source_formatDecimal_of_whole hm0 hm hlt]

theorem length_ofNat_le_wholeDigitLimit (hlt : m < 10 ^ 21) :
    (Text.ofNat m).length ≤ wholeDigitLimit := by
  rcases eq_or_ne m 0 with rfl | hm0
  · rw [Text.ofNat_zero]
    decide
  · have hle := (Text.length_ofNat_le_iff hm0).mpr hlt
    have hlimit : 21 ≤ wholeDigitLimit := by decide
    omega

/-- A magnitude with any other shortest decimal is read back as it is. -/
theorem read_source_of_not_whole (hx : x.rank ≠ 0)
    (h : ∀ m : ℕ, x.shortest.value = m → 10 ^ 21 ≤ m) :
    LiteralValue.read (Number.float (.finite negative x)).source
      = .ok (.number (.float (.finite negative x))) := by
  obtain ⟨n, hwell, hspelling, hvalue⟩ :=
    NumberStyle.exists_numeral_source_formatDecimal (shortest_significand_ne_zero hx) h
  have hread : Binary64.ofDecimal x.shortest.significand x.shortest.exponent = .finite false x :=
    of_decide_eq_true x.shortest_isReadFrom
  rw [hread] at hvalue
  rw [source_finite hx, ← hspelling, read_signed_numeral hwell hvalue]
  cases negative <;> rfl

/-- An integer to which a magnitude is nearest rounds to that magnitude. -/
theorem ofInt_of_isNearest {n : ℤ} (h : Magnitude.IsNearest (n.natAbs * unitsPerOne) x.rank) :
    Binary64.ofInt n = .finite (n < 0) x := by
  rw [Binary64.ofInt_eq_ofRank h, Binary64.ofRank_rank]

end Source

/-! ### The round trip -/

/-- The source text of a finite number reads as `v`. -/
structure ReadsBack (negative : Bool) (x : Magnitude) (v : Number) : Prop where
  /-- The text can be read. -/
  read : LiteralValue.read (Number.float (.finite negative x)).source = .ok (.number v)
  /-- The value rounds to the number; a zero loses its sign. -/
  rounded : v.rounded.equal (.finite negative x) = true
  /-- When it is the number. -/
  exact_iff : v.value? = (Number.float (.finite negative x)).value? ↔
    x.value < (2 ^ 53 : ℕ) ∨ (10 ^ 21 : ℕ) ≤ x.value ∨ x.shortest.value = x.value

theorem readsBack_zero {x : Magnitude} (hx : x.rank = 0) (negative : Bool) :
    ReadsBack negative x (.int 0) where
  read := by
    rw [source_zero hx]
    exact read_signed_ofNat (length_ofNat_le_wholeDigitLimit (m := 0) (by norm_num)) false
  rounded := by
    have hnearest : Magnitude.IsNearest (((0 : ℤ).natAbs : ℚ) * unitsPerOne) x.rank := by
      rw [Int.natAbs_zero, Nat.cast_zero, zero_mul, hx]
      exact Magnitude.IsNearest.unitsAt 0
    rw [Number.rounded, ofInt_of_isNearest hnearest]
    simp [Binary64.equal, Binary64.isZero, hx]
  exact_iff := by
    have hzero := Magnitude.value_of_rank_eq_zero hx
    refine iff_of_true ?_ (Or.inl ?_)
    · cases negative <;> simp [Number.value?, Binary64.value?, hzero]
    · rw [hzero]
      norm_num

theorem readsBack_of_whole {x : Magnitude} {m : ℕ} (hx : x.rank ≠ 0) (hm : x.shortest.value = m)
    (hlt : m < 10 ^ 21) (negative : Bool) :
    ReadsBack negative x (.int (if negative then -m else m)) where
  read := by
    rw [source_of_shortest_whole hx hm hlt]
    exact read_signed_ofNat (length_ofNat_le_wholeDigitLimit hlt) negative
  rounded := by
    have hread := Magnitude.isReadFrom_iff.mp x.shortest_isReadFrom
    have hm0 := ne_zero_of_shortest_value_eq hx hm
    obtain ⟨habs, hsign⟩ := natAbs_signed hm0 negative
    rw [hm, ← habs] at hread
    rw [Number.rounded, ofInt_of_isNearest hread, hsign]
    exact equal_finite_self negative x
  exact_iff := by
    -- of the three conditions only the last one says something here
    have hbelow : x.value < (10 ^ 21 : ℕ) := by
      rw [← Magnitude.shortest_value_lt_iff, hm]
      exact_mod_cast hlt
    have hvalue := value?_int_eq_iff negative m x
    rw [← hm] at hvalue
    refine hvalue.trans ⟨fun h => Or.inr (Or.inr h), ?_⟩
    rintro (hsmall | hlarge | hexact)
    · rw [hm, Magnitude.value_eq_of_shortest_value_eq hm hsmall]
    · exact absurd hbelow (not_lt.mpr hlarge)
    · exact hexact

theorem readsBack_of_not_whole {x : Magnitude} (hx : x.rank ≠ 0)
    (h : ∀ m : ℕ, x.shortest.value = m → 10 ^ 21 ≤ m) (negative : Bool) :
    ReadsBack negative x (.float (.finite negative x)) where
  read := read_source_of_not_whole hx h
  rounded := equal_finite_self negative x
  exact_iff := by
    refine iff_of_true rfl ?_
    rcases lt_or_ge x.value (2 ^ 53 : ℕ) with hsmall | hlarge
    · exact Or.inl hsmall
    · -- whole magnitudes have whole shortest decimals, which are large here
      obtain ⟨n, hn⟩ := Magnitude.exists_value_eq_natCast hlarge
      have hn0 : n ≠ 0 := by
        rintro rfl
        rw [hn] at hlarge
        norm_num at hlarge
      obtain ⟨m, hm⟩ := Magnitude.shortest_isWhole hn0 hn
      have hge : ¬ x.shortest.value < (10 ^ 21 : ℕ) := by
        rw [hm, not_lt]
        exact_mod_cast h m hm
      rw [Magnitude.shortest_value_lt_iff, not_lt] at hge
      exact Or.inr (Or.inl hge)

/-- Every source text of a finite number is read back. -/
theorem exists_readsBack (negative : Bool) (x : Magnitude) : ∃ v, ReadsBack negative x v := by
  by_cases hx : x.rank = 0
  · exact ⟨_, readsBack_zero hx negative⟩
  by_cases h : ∀ m : ℕ, x.shortest.value = m → 10 ^ 21 ≤ m
  · exact ⟨_, readsBack_of_not_whole hx h negative⟩
  · obtain ⟨m, hm⟩ := not_forall.mp h
    obtain ⟨hm, hlt⟩ := Classical.not_imp.mp hm
    exact ⟨_, readsBack_of_whole hx hm (not_le.mp hlt) negative⟩

section Token

variable {y v w : Number} {t : Text}

theorem numberToken_build (y : Number) :
    Builder.numberToken.build [.number y] = .ok (Token.literal .number y.source) := rfl

theorem eq_source_of_build
    (h : Builder.numberToken.build [.number y] = .ok (Token.literal .number t)) : t = y.source := by
  rw [numberToken_build] at h
  have htoken := Except.ok.inj h
  injection htoken with _ htext
  injection htext with htext
  exact htext.symm

theorem property_literalValue (h : LiteralValue.read t = .ok (.number v)) :
    (Token.literal .number t).property .literalValue = .ok (.number v) := by
  show Built.literalValue t = _
  rw [Built.literalValue, h]
  rfl

theorem eq_of_property_literalValue (hv : LiteralValue.read t = .ok (.number v))
    (hw : (Token.literal .number t).property .literalValue = .ok (.number w)) : w = v := by
  rw [property_literalValue hv] at hw
  have hnumber := Except.ok.inj hw
  injection hnumber with hnumber
  exact hnumber.symm

end Token

/-- **Number tokens read back.**  The token of a finite binary64 number can be read.  What it stands
for rounds to the number, and is exactly the number below `2 ^ 53` and from `10 ^ 21` on, while in
between it is the shortest decimal, as an integer. -/
theorem numberToken_read_back (negative : Bool) (x : Magnitude) :
    ∃ (t : Text) (v : Number),
      Builder.numberToken.build [.number (.float (.finite negative x))]
        = .ok (Token.literal .number t) ∧
      (Token.literal .number t).property .literalValue = .ok (.number v) ∧
      v.rounded.equal (.finite negative x) = true ∧
      (v.value? = (Number.float (.finite negative x)).value? ↔
        x.value < (2 ^ 53 : ℕ) ∨ (10 ^ 21 : ℕ) ≤ x.value ∨ x.shortest.value = x.value) := by
  obtain ⟨v, hv⟩ := exists_readsBack negative x
  exact ⟨_, v, numberToken_build _, property_literalValue hv.read, hv.rounded, hv.exact_iff⟩

/-- The token of `2 ^ 60` is `1152921504606847000`, and that is what it reads as. -/
theorem numberToken_two_pow_sixty :
    ¬ ∃ (t : Text) (v : Number),
      Builder.numberToken.build [.number (.float (.ofBits 0x43B0000000000000))]
        = .ok (Token.literal .number t) ∧
      (Token.literal .number t).property .literalValue = .ok (.number v) ∧
      v.value? = (Number.float (.ofBits 0x43B0000000000000)).value? := by
  rintro ⟨t, v, hbuild, hread, hvalue⟩
  have hsource : (Number.float (.ofBits 0x43B0000000000000)).source
      = NumberStyle.signed false (Text.ofNat 1152921504606847000) := by decide +kernel
  have hint := read_signed_ofNat (m := 1152921504606847000)
    (length_ofNat_le_wholeDigitLimit (by norm_num)) false
  rw [eq_source_of_build hbuild, hsource] at hread
  rw [eq_of_property_literalValue hint hread] at hvalue
  have hexact := (value?_int_eq_iff false 1152921504606847000 _).mp hvalue
  rw [eq_comm, Magnitude.value_eq_natCast_iff] at hexact
  revert hexact
  decide +kernel

end EcmaTree
