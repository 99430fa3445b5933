import EcmaTree.Proofs.Literal.Outcome
import EcmaTree.Proofs.Number.IntegerReadBack

/-!
# The value of a number

What a numeral stands for is told here from its digits (`Numeral.StandsFor`).  With the marker of a
base, or without point and exponent, it is the integer that they denote, of any size; any other
decimal denotes a rational number and stands for the nearest binary64 number.  Reading a number
gives just what its numeral stands for (`read_number_value`), unless the digits of a decimal integer
are too many to be read at all.

A numeral has one value, because digits denote one number (`Text.Spells.valueOf`), and one rank is
nearest to it.  The sign comes last: a negative number is its opposite, rounded and negated.
-/

namespace EcmaTree

/-! ### Digits -/

namespace Text

/-- The text is a run of digits that denote `n` in the base, the most significant one first. -/
def Spells (base : ℕ) (digit? : CodePoint → Option ℕ) (t : Text) (n : ℕ) : Prop :=
  ∃ ds : List ℕ, List.Forall₂ (fun c d => digit? c = some d) t ds ∧ n = Nat.ofDigits base ds.reverse

variable {base n : ℕ} {digit? : CodePoint → Option ℕ} {t : Text}

/-- Every reading of code points as digits that knows those of the text finds the number. -/
theorem Spells.valueOf {reading? : CodePoint → Option ℕ} (h : Spells base digit? t n)
    (hreading : ∀ {c : CodePoint} {d : ℕ}, digit? c = some d → reading? c = some d) :
    Text.valueOf base reading? t = n := by
  obtain ⟨ds, hdigits, rfl⟩ := h
  have hmap : (t.map fun c => (reading? c).getD 0) = ds := by
    induction hdigits with
    | nil => rfl
    | cons hc _ ih => rw [List.map_cons, ih, hreading hc, Option.getD_some]
  rw [valueOf_eq_ofDigits, hmap]

theorem exists_spells (base : ℕ) (h : ∀ c ∈ t, (digit? c).isSome = true) :
    ∃ n, Spells base digit? t n := by
  refine ⟨_, t.map fun c => (digit? c).getD 0, ?_, rfl⟩
  rw [List.forall₂_map_right_iff, List.forall₂_same]
  intro c hc
  obtain ⟨d, hd⟩ := Option.isSome_iff_exists.mp (h c hc)
  rw [hd, Option.getD_some]

end Text

/-- A digit of a base has the value that it has as a hexadecimal digit. -/
theorem CodePoint.hexDigit?_of_digitIn? {base d : ℕ} {c : CodePoint}
    (h : c.digitIn? base = some d) : c.hexDigit? = some d := by
  unfold digitIn? at h
  split at h
  · next d' hd =>
    split at h
    · rwa [hd]
    · cases h
  · cases h

/-! ### What numerals stand for -/

/-- The exponent part denotes `k`. -/
def ExponentPart.Denotes (e : ExponentPart) (k : ℤ) : Prop :=
  ∃ n : ℕ, Text.Spells 10 CodePoint.decimalDigit? e.digits n ∧
    k = if e.sign = some (CodePoint.ofChar '-') then -(n : ℤ) else n

/-- The decimal numeral denotes `q`.  The digits in front of the point are those of an integer, the
digits behind it those of a fraction, and the sum of the two is scaled by a power of ten if there is
an exponent. -/
def DecimalNumeral.Denotes (d : DecimalNumeral) (q : ℚ) : Prop :=
  ∃ (w f : ℕ) (k : ℤ), Text.Spells 10 CodePoint.decimalDigit? d.whole w ∧
    Text.Spells 10 CodePoint.decimalDigit? d.fraction f ∧
    (∀ e ∈ d.exponent, e.Denotes k) ∧ (d.exponent = none → k = 0) ∧
    q = (w + f / 10 ^ d.fraction.length) * 10 ^ k

/-- The number that a numeral stands for, behind a minus sign if `negative`. -/
inductive Numeral.StandsFor (negative : Bool) : Numeral → Number → Prop
  /-- What is no number has no sign. -/
  | nan : StandsFor negative .nan (.float .nan)
  /-- Both infinities. -/
  | infinity : StandsFor negative .infinity (.float (.infinity negative))
  /-- An integer in the digits of its base. -/
  | inRadix {radix : Radix} {marker : CodePoint} {digits : Text} {n : ℕ}
      (hn : Text.Spells radix.base (CodePoint.digitIn? radix.base) digits n) :
      StandsFor negative (.inRadix radix marker digits) (.int (if negative then -n else n))
  /-- An integer in decimal digits of any script. -/
  | whole {d : DecimalNumeral} {n : ℕ} (hpoint : d.hasPoint = false) (hexponent : d.exponent = none)
      (hn : Text.Spells 10 CodePoint.decimalDigit? d.whole n) :
      StandsFor negative (.decimal d) (.int (if negative then -n else n))
  /-- A decimal with a point or an exponent, rounded. -/
  | finite {d : DecimalNumeral} {q : ℚ} {x : Magnitude}
      (hmark : ¬(d.hasPoint = false ∧ d.exponent = none)) (hq : d.Denotes q)
      (hx : Magnitude.IsNearest (q * unitsPerOne) x.rank) :
      StandsFor negative (.decimal d) (.float (.finite negative x))
  /-- A decimal with a point or an exponent from the middle behind the largest magnitude on. -/
  | overflow {d : DecimalNumeral} {q : ℚ}
      (hmark : ¬(d.hasPoint = false ∧ d.exponent = none)) (hq : d.Denotes q)
      (hbound : ((2 ^ 1024 - 2 ^ 970 : ℕ) : ℚ) ≤ q) :
      StandsFor negative (.decimal d) (.float (.infinity negative))

/-! ### Decimals -/

theorem ExponentPart.exists_denotes {e : ExponentPart} (h : e.WellFormed) : ∃ k, e.Denotes k := by
  obtain ⟨n, hn⟩ := Text.exists_spells 10 h.digits
  exact ⟨_, n, hn, rfl⟩

theorem ExponentPart.value_of_denotes {e : ExponentPart} {k : ℤ} (h : e.Denotes k) :
    e.value = k := by
  obtain ⟨n, hn, rfl⟩ := h
  rw [value, hn.valueOf id]

namespace DecimalNumeral

variable {d : DecimalNumeral} {q : ℚ}

theorem exists_denotes (h : d.WellFormed) : ∃ q, d.Denotes q := by
  obtain ⟨w, hw⟩ := Text.exists_spells 10 h.whole
  obtain ⟨f, hf⟩ := Text.exists_spells 10 h.fraction
  cases hexponent : d.exponent with
  | none =>
    have hsome : ∀ e ∈ d.exponent, e.Denotes 0 := by simp [hexponent]
    exact ⟨_, w, f, 0, hw, hf, hsome, fun _ => rfl, rfl⟩
  | some e =>
    obtain ⟨k, hk⟩ := ExponentPart.exists_denotes (h.exponent e hexponent)
    have hsome : ∀ e ∈ d.exponent, e.Denotes k := by simpa [hexponent] using hk
    exact ⟨_, w, f, k, hw, hf, hsome, fun hnone => by simp [hnone] at hexponent, rfl⟩

theorem lastPlace_eq {k : ℤ} (hsome : ∀ e ∈ d.exponent, e.Denotes k)
    (hnone : d.exponent = none → k = 0) : d.lastPlace = k - d.fraction.length := by
  unfold lastPlace
  cases hexponent : d.exponent with
  | none => rw [hnone hexponent]
  | some e =>
    show e.value - _ = _
    rw [ExponentPart.value_of_denotes (hsome e hexponent)]

/-- The digits on both sides of the point, read in one go, have the value at the place of the last
one of them. -/
theorem Denotes.decimal_value (h : d.Denotes q) : d.decimal.value = q := by
  obtain ⟨w, f, k, hw, hf, hsome, hnone, rfl⟩ := h
  have hten : (10 : ℚ) ^ d.fraction.length ≠ 0 := by positivity
  -- the digits in front of the point have moved up by the number of those behind it
  rw [decimal, Decimal.value, lastPlace_eq hsome hnone, Text.valueOf_append, hw.valueOf id,
    hf.valueOf id, zpow_sub₀ (by norm_num), zpow_natCast]
  push_cast
  field_simp

theorem Denotes.nonneg (h : d.Denotes q) : 0 ≤ q := by
  rw [← h.decimal_value]
  exact d.decimal.value_nonneg

/-- A decimal with a point or an exponent has the nearest number for its value. -/
theorem Denotes.value_eq_ofRank {r : ℕ} (h : d.Denotes q)
    (hmark : ¬(d.hasPoint = false ∧ d.exponent = none))
    (hr : Magnitude.IsNearest (q * unitsPerOne) r) :
    d.value = .ok (.float (Binary64.ofRank false r)) := by
  have hwhole : d.isWhole = false := by
    rwa [← Bool.not_eq_true, isWhole_eq_true_iff]
  rw [← h.decimal_value] at hr
  have hread : Binary64.ofDecimal d.decimal.significand d.decimal.exponent
      = Binary64.ofRank false r := Binary64.ofDecimal_eq_ofRank hr
  rw [value_of_not_whole hwhole, hread]

end DecimalNumeral

/-! ### Reading numbers -/

namespace Numeral

variable {negative : Bool} {n : Numeral}

/-- Every numeral stands for some number. -/
theorem exists_standsFor (h : n.WellFormed) (negative : Bool) : ∃ v, n.StandsFor negative v := by
  cases n with
  | nan => exact ⟨_, .nan⟩
  | infinity => exact ⟨_, .infinity⟩
  | inRadix radix marker digits =>
    obtain ⟨m, hm⟩ := Text.exists_spells radix.base h.2.2
    exact ⟨_, .inRadix hm⟩
  | decimal d =>
    by_cases hmark : d.hasPoint = false ∧ d.exponent = none
    · obtain ⟨m, hm⟩ := Text.exists_spells 10 h.whole
      exact ⟨_, .whole hmark.1 hmark.2 hm⟩
    · obtain ⟨q, hq⟩ := DecimalNumeral.exists_denotes h
      obtain ⟨r, hr⟩ := Magnitude.exists_isNearest
        (mul_nonneg hq.nonneg unitsPerOne_cast_pos.le)
      -- ranks go on past the largest magnitude, and what is there overflows
      by_cases hlt : r < 0x7FF0000000000000
      · exact ⟨_, .finite (x := ⟨r, hlt⟩) hmark hq hr⟩
      · exact ⟨_, .overflow hmark hq (hr.overflow_iff.mp (not_lt.mp hlt))⟩

/-- The number that a numeral stands for is the value of the form, with the sign put to the value
without one. -/
theorem StandsFor.form_value {v : Number} (h : n.StandsFor negative v) (hn : n.WellFormed)
    (hshort : ¬(LiteralForm.number negative n).IsOverlong) :
    (LiteralForm.number negative n).value = .ok (.number v) := by
  cases h with
  | nan => cases negative <;> rfl
  | infinity => cases negative <;> rfl
  | @inRadix radix marker digits m hm =>
    have hvalue : (Numeral.inRadix radix marker digits).value = .ok (.int m) := by
      rw [value, hm.valueOf CodePoint.hexDigit?_of_digitIn?]
    rw [LiteralForm.value, hvalue]
    cases negative <;> rfl
  | @whole d m hpoint hexponent hm =>
    have hwhole : d.isWhole = true := DecimalNumeral.isWhole_eq_true_iff.mpr ⟨hpoint, hexponent⟩
    have hlen : d.whole.length ≤ wholeDigitLimit :=
      not_lt.mp fun hlong => hshort ⟨hpoint, hexponent, hlong⟩
    -- without a point there are no digits behind it
    have hdigits : d.decimal.significand = m := by
      rw [DecimalNumeral.decimal, hn.fraction_eq_nil hpoint, List.append_nil, hm.valueOf id]
    have hvalue : (Numeral.decimal d).value = .ok (.int m) := by
      rw [value, DecimalNumeral.value_of_whole hwhole hlen, hdigits]
    rw [LiteralForm.value, hvalue]
    cases negative <;> rfl
  | @finite d q x hmark hq hx =>
    have hvalue : (Numeral.decimal d).value = .ok (.float (.finite false x)) := by
      rw [value, hq.value_eq_ofRank hmark hx, Binary64.ofRank_rank]
    rw [LiteralForm.value, hvalue]
    cases negative <;> rfl
  | @overflow d q hmark hq hbound =>
    obtain ⟨r, hr⟩ := Magnitude.exists_isNearest
      (mul_nonneg hq.nonneg unitsPerOne_cast_pos.le)
    have hvalue : (Numeral.decimal d).value = .ok (.float (.infinity false)) := by
      rw [value, hq.value_eq_ofRank hmark hr, Binary64.ofRank_of_le (hr.overflow_iff.mpr hbound)]
    rw [LiteralForm.value, hvalue]
    cases negative <;> rfl

end Numeral

/-- **The value of a number.**  Every number of the grammar is read, but for decimal integers of
more than `4300` digits, and what is read is the one number that its numeral stands for. -/
theorem read_number_value {negative : Bool} {n : Numeral}
    (h : (LiteralForm.number negative n).WellFormed)
    (hshort : ¬(LiteralForm.number negative n).spelling.IsOverlongWhole) :
    ∃ v, LiteralValue.read (LiteralForm.number negative n).spelling = .ok (.number v) ∧
      ∀ w, n.StandsFor negative w ↔ w = v := by
  rw [isOverlongWhole_spelling_iff h] at hshort
  obtain ⟨v, hv⟩ := n.exists_standsFor h negative
  have hvalue := hv.form_value h hshort
  refine ⟨v, ?_, fun w => ⟨fun hw => ?_, ?_⟩⟩
  · rw [LiteralValue.read, LiteralForm.parse_eq_ok_iff.mpr ⟨h, rfl⟩]
    exact hvalue
  · have hboth := (hw.form_value h hshort).symm.trans hvalue
    exact LiteralValue.number.inj (Except.ok.inj hboth)
  · rintro rfl
    exact hv

/-- The `e` of `-0x1e5` is a digit, and the number an integer. -/
theorem read_number_value_hexadecimal :
    (LiteralForm.number true (.inRadix .hexadecimal 'x' (Text.ofString "1e5"))).WellFormed ∧
    ¬(Text.ofString "-0x1e5").IsOverlongWhole ∧
    LiteralValue.read (Text.ofString "-0x1e5") = .ok (.number (.int (-0x1e5))) := by
  have hwell : (LiteralForm.number true
      (.inRadix .hexadecimal 'x' (Text.ofString "1e5"))).WellFormed := by
    refine ⟨rfl, by decide, ?_⟩
    decide
  have hshort : ¬(Text.ofString "-0x1e5").IsOverlongWhole :=
    mt (isOverlongWhole_spelling_iff hwell).mp id
  obtain ⟨v, hread, hv⟩ := read_number_value hwell hshort
  have hdigits : Text.Spells 16 (CodePoint.digitIn? 16) (Text.ofString "1e5") 0x1e5 :=
    ⟨[1, 0xe, 5], .cons rfl (.cons rfl (.cons rfl .nil)), by decide⟩
  obtain rfl := (hv _).mp (.inRadix hdigits)
  exact ⟨hwell, hshort, hread⟩

/-- The sign of a zero with a point is kept. -/
example : LiteralValue.read (Text.ofString "-0.0")
    = .ok (.number (.float (.finite true Magnitude.zero))) := by rfl

end EcmaTree
