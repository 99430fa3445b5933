import EcmaTree.Proofs.Literal.StringRoundTrip
import EcmaTree.Proofs.Number.IntegerText

/-!
# The keys of property names

The token of a property name stands for a key at run time: an identifier for its name, a string for
the text that it spells, and a number for the text that the runtime writes for it.  That key is the
name the token was made from, unless the name has a surrogate pair or is the decimal text of a
number from `10 ^ 21` on (`propertyNameToken_key_iff`).

A name with a surrogate pair becomes a string, and reading a string joins the pair.  A decimal text
becomes a number token however long it is.  The runtime writes `10 ^ 21` and everything above in
another notation, and a text of more than `4300` digits cannot be read at all.
-/

namespace EcmaTree

/-- The key that the token of a property name stands for. -/
def Value.propertyKey : Value → Except BuildError Text
  | .identifier name _ => name.toText
  | .literal .string spelling location => do
    (← (Value.literal .string spelling location).property .literalValue).toText
  | .literal .number spelling location => do
    let x ← (Value.literal .number spelling location).property .literalValue
    (← Builder.numberText.build [x]).toText
  | _ => .error .unsuitable

/-! ### Decimal texts -/

/-- Digits are the text of a number unless the first of several is zero. -/
theorem Text.map_ofDigit_eq_ofNat {ds : List ℕ} (hds : ∀ d ∈ ds, d < 10) {d : ℕ}
    (hhead : ds.head? = some d) (hd : d ≠ 0) :
    ds.map CodePoint.ofDigit = ofNat (Nat.ofDigits 10 ds.reverse) := by
  have hdigits : Nat.digits 10 (Nat.ofDigits 10 ds.reverse) = ds.reverse := by
    apply Nat.digits_ofDigits 10 (by omega)
    · intro e he
      exact hds e (List.mem_reverse.mp he)
    · intro hne
      rw [List.getLast_reverse]
      rw [List.head?_eq_some_head (by simpa using hne)] at hhead
      rw [Option.some.inj hhead]
      exact hd
  have hne : Nat.ofDigits 10 ds.reverse ≠ 0 := by
    intro hzero
    rw [hzero, Nat.digits_zero, eq_comm, List.reverse_eq_nil_iff] at hdigits
    simp [hdigits] at hhead
  rw [ofNat, digitsIn_eq_reverse_digits (by omega) hne, hdigits, List.reverse_reverse]

theorem CodePoint.isSome_digitIn?_ten_iff {c : CodePoint} :
    (c.digitIn? 10).isSome = true ↔ ∃ d < 10, c = ofDigit d := by
  constructor
  · intro h
    -- of the three runs of hexadecimal digits only the first is below ten
    unfold digitIn? hexDigit? at h
    split_ifs at h with hten hupper hlower
    · rw [Bool.and_eq_true, decide_eq_true_eq, decide_eq_true_eq] at hten
      refine ⟨c.toNat - 0x30, by omega, ?_⟩
      apply CodePoint.ext
      rw [toNat_ofDigit (by omega)]
      omega
    · rw [Bool.and_eq_true, decide_eq_true_eq, decide_eq_true_eq] at hupper
      simp [show ¬c.toNat - 0x37 < 10 by omega] at h
    · rw [Bool.and_eq_true, decide_eq_true_eq, decide_eq_true_eq] at hlower
      simp [show ¬c.toNat - 0x57 < 10 by omega] at h
    · simp at h
  · rintro ⟨d, hd, rfl⟩
    rw [digitIn?, hexDigit?_ofDigit (by omega)]
    simp [hd]

/-- Decimal digits of which the first of several is not zero spell a number. -/
theorem Text.eq_ofNat_of_digits {c : CodePoint} {rest : Text}
    (h : ∀ e ∈ c :: rest, (e.digitIn? 10).isSome = true) (hc : c ≠ CodePoint.digitZero) :
    ∃ n, c :: rest = ofNat n := by
  have hvalue : ∀ e ∈ c :: rest, e.toNat - 0x30 < 10 ∧ CodePoint.ofDigit (e.toNat - 0x30) = e := by
    intro e he
    obtain ⟨d, hd, rfl⟩ := CodePoint.isSome_digitIn?_ten_iff.mp (h e he)
    rw [CodePoint.toNat_ofDigit hd, Nat.add_sub_cancel_left]
    exact ⟨hd, rfl⟩
  have hspelling : ((c :: rest).map fun e => e.toNat - 0x30).map CodePoint.ofDigit = c :: rest := by
    rw [List.map_map]
    exact (List.map_congr_left fun e he => (hvalue e he).2).trans (List.map_id _)
  refine ⟨_, hspelling.symm.trans (map_ofDigit_eq_ofNat (d := c.toNat - 0x30) ?_ rfl ?_)⟩
  · intro d hd
    obtain ⟨e, he, rfl⟩ := List.mem_map.mp hd
    exact (hvalue e he).1
  · intro hzero
    apply hc
    rw [← (hvalue c List.mem_cons_self).2, hzero]
    rfl

theorem Text.digits_of_mem_ofNat {n : ℕ} {c : CodePoint} (h : c ∈ ofNat n) :
    (c.digitIn? 10).isSome = true :=
  CodePoint.isSome_digitIn?_ten_iff.mpr (exists_ofDigit_of_mem_ofNat h)

/-- The canonical indices are the decimal texts of natural numbers. -/
theorem Text.isArrayIndex_iff {t : Text} : t.isArrayIndex = true ↔ ∃ n, t = ofNat n := by
  constructor
  · intro h
    cases t with
    | nil => cases h
    | cons c rest =>
      rw [isArrayIndex] at h
      split_ifs at h with hzero
      · refine ⟨0, ?_⟩
        rw [hzero, List.isEmpty_iff.mp h, ofNat_zero]
      · exact eq_ofNat_of_digits (List.all_eq_true.mp h) hzero
  · rintro ⟨n, rfl⟩
    -- Zero is the one index that may start with a zero.
    rcases eq_or_ne n 0 with rfl | hn
    · rw [ofNat_zero]
      rfl
    · have hhead := head?_ofNat_ne_digitZero hn
      have hdigits := fun c => digits_of_mem_ofNat (n := n) (c := c)
      cases ht : ofNat n with
      | nil => exact absurd ht (ofNat_ne_nil n)
      | cons c rest =>
        rw [ht] at hhead hdigits
        rw [isArrayIndex, if_neg (by simpa using hhead)]
        exact List.all_eq_true.mpr hdigits

/-! ### Identifiers -/

/-- No range of identifier characters reaches into the surrogates. -/
theorem not_surrogate_of_inRanges {ranges : List (ℕ × ℕ)} {n : ℕ}
    (hranges : ∀ r ∈ ranges, r.2 < 0xD800 ∨ 0xDFFF < r.1) (h : inRanges ranges n = true) :
    n < 0xD800 ∨ 0xDFFF < n := by
  obtain ⟨r, hr, hn⟩ := List.any_eq_true.mp h
  rw [Bool.and_eq_true, decide_eq_true_eq, decide_eq_true_eq] at hn
  have := hranges r hr
  omega

/-- What is outside the surrogates is no high one. -/
theorem CodePoint.not_isHighSurrogate {c : CodePoint} (h : c.toNat < 0xD800 ∨ 0xDFFF < c.toNat) :
    c.isHighSurrogate = false := by
  rw [isHighSurrogate, Bool.and_eq_false_iff, decide_eq_false_iff_not, decide_eq_false_iff_not]
  omega

theorem identifierStartRanges_not_surrogate :
    ∀ r ∈ identifierStartRanges, r.2 < 0xD800 ∨ 0xDFFF < r.1 := by
  decide +kernel

theorem identifierPartRanges_not_surrogate :
    ∀ r ∈ identifierPartRanges, r.2 < 0xD800 ∨ 0xDFFF < r.1 := by
  decide +kernel

theorem CodePoint.not_isHighSurrogate_of_isIdentifierStart {c : CodePoint}
    (h : c.isIdentifierStart = true) : c.isHighSurrogate = false := by
  unfold isIdentifierStart at h
  rw [Bool.or_eq_true, Bool.or_eq_true, decide_eq_true_eq, decide_eq_true_eq] at h
  -- the two signs that are no letters, and the ranges
  rcases h with (rfl | rfl) | h
  · rfl
  · rfl
  · exact not_isHighSurrogate (not_surrogate_of_inRanges identifierStartRanges_not_surrogate h)

theorem CodePoint.not_isHighSurrogate_of_isIdentifierPart {c : CodePoint}
    (h : c.isIdentifierPart = true) : c.isHighSurrogate = false := by
  unfold isIdentifierPart at h
  rw [Bool.or_eq_true, Bool.or_eq_true, decide_eq_true_eq] at h
  rcases h with (rfl | h) | h
  · rfl
  · exact not_isHighSurrogate (not_surrogate_of_inRanges identifierStartRanges_not_surrogate h)
  · exact not_isHighSurrogate (not_surrogate_of_inRanges identifierPartRanges_not_surrogate h)

namespace Text

variable {t : Text}

/-- Without a high surrogate there is no pair. -/
theorem not_hasSurrogatePair_of_forall (h : ∀ c ∈ t, c.isHighSurrogate = false) :
    ¬t.HasSurrogatePair := by
  rintro ⟨before, high, low, after, rfl, hhigh, -⟩
  have hfalse := h high (by simp)
  rw [hhigh] at hfalse
  cases hfalse

theorem not_hasSurrogatePair_of_isIdentifierName (h : t.isIdentifierName = true) :
    ¬t.HasSurrogatePair := by
  cases t with
  | nil => cases h
  | cons c rest =>
    rw [isIdentifierName, Bool.and_eq_true] at h
    apply not_hasSurrogatePair_of_forall
    intro d hd
    rcases List.mem_cons.mp hd with rfl | hd
    · exact CodePoint.not_isHighSurrogate_of_isIdentifierStart h.1
    · exact CodePoint.not_isHighSurrogate_of_isIdentifierPart (List.all_eq_true.mp h.2 d hd)

theorem not_hasSurrogatePair_ofNat (n : ℕ) : ¬(ofNat n).HasSurrogatePair := by
  apply not_hasSurrogatePair_of_forall
  intro c hc
  obtain ⟨d, hd, rfl⟩ := exists_ofDigit_of_mem_ofNat hc
  apply CodePoint.not_isHighSurrogate
  rw [CodePoint.toNat_ofDigit hd]
  omega

/-- No name starts with a digit. -/
theorem isIdentifierName_ofNat (n : ℕ) : (ofNat n).isIdentifierName = false := by
  have hdigit : ∀ d < 10, (CodePoint.ofDigit d).isIdentifierStart = false := by
    decide +kernel
  cases ht : ofNat n with
  | nil => rfl
  | cons c rest =>
    obtain ⟨d, hd, rfl⟩ := exists_ofDigit_of_mem_ofNat (n := n) (c := c) (by simp [ht])
    rw [isIdentifierName, hdigit d hd, Bool.false_and]

end Text

/-! ### What the three kinds of tokens stand for -/

theorem propertyKey_string (t : Text) : (Token.string t).propertyKey = .ok t.pairsJoined := by
  show (do (← Built.literalValue t.stringLiteral).toText) = _
  rw [Built.literalValue, read_stringLiteral]
  rfl

theorem propertyKey_number_of_read {t : Text} {x : Number}
    (h : LiteralValue.read t = .ok (.number x)) :
    (Token.literal .number t).propertyKey = .ok x.source := by
  show (do (← Builder.numberText.build [← Built.literalValue t]).toText) = _
  rw [Built.literalValue, h]
  rfl

/-- A decimal text that can be read stands for what the runtime writes for its number. -/
theorem propertyKey_ofNat {n : ℕ} (hlen : (Text.ofNat n).length ≤ wholeDigitLimit) :
    (Token.literal .number (Text.ofNat n)).propertyKey = .ok (Number.int n).source :=
  propertyKey_number_of_read (read_signed_ofNat hlen false)

/-- Past the limit there is no key. -/
theorem propertyKey_ofNat_of_long {n : ℕ} (hlen : wholeDigitLimit < (Text.ofNat n).length) :
    (Token.literal .number (Text.ofNat n)).propertyKey
      = .error (.literal (.tooManyDigits (Text.ofNat n).length)) := by
  have hparse : LiteralForm.parse (Text.ofNat n)
      = .ok (.number false (.decimal (wholeNumeral (Text.ofNat n)))) :=
    LiteralForm.parse_eq_ok_iff.mpr ⟨wholeNumeral_wellFormed (Text.ofNat_ne_nil n)
      fun c => NumberStyle.isDecimalDigit_of_mem_ofNat, wholeNumeral_spelling _⟩
  have hvalue : (wholeNumeral (Text.ofNat n)).value
      = .error (.tooManyDigits (Text.ofNat n).length) := by
    unfold DecimalNumeral.value wholeNumeral DecimalNumeral.isWhole
    simp [hlen]
  show (do (← Builder.numberText.build [← Built.literalValue (Text.ofNat n)]).toText) = _
  rw [Built.literalValue, LiteralValue.read, hparse]
  simp only [LiteralForm.value, Numeral.value, hvalue]
  rfl

/-- The runtime writes a decimal text for its own number iff it has at most 21 digits. -/
theorem source_eq_ofNat_iff {n : ℕ} (hlen : (Text.ofNat n).length ≤ wholeDigitLimit) :
    (Number.int n).source = Text.ofNat n ↔ n < 10 ^ 21 := by
  constructor
  · intro h
    by_contra hge
    -- the same text would read as an integer and as a binary64 number
    have hfloat := read_source_int_of_ge (n := n) (by rw [Int.natAbs_natCast]; omega)
    have hint : LiteralValue.read (Text.ofNat n) = .ok (.number (.int n)) :=
      read_signed_ofNat hlen false
    rw [h, hint] at hfloat
    cases LiteralValue.number.inj (Except.ok.inj hfloat)
  · intro h
    rw [source_int_of_lt (by rwa [Int.natAbs_natCast])]
    rfl

/-! ### The key of a name -/

theorem propertyNameToken_build (name : Text) :
    Builder.propertyNameToken.build [.text name] = .ok (Token.propertyName name) := rfl

theorem propertyName_of_isIdentifierName {name : Text} (h : name.isIdentifierName = true) :
    Token.propertyName name = Token.identifier name := by
  rw [Token.propertyName, if_pos h]

theorem propertyName_ofNat (n : ℕ) :
    Token.propertyName (Text.ofNat n) = Token.literal .number (Text.ofNat n) := by
  have hno : ¬(Text.ofNat n).isIdentifierName = true := by
    rw [Text.isIdentifierName_ofNat]
    exact Bool.false_ne_true
  rw [Token.propertyName, if_neg hno, if_pos (Text.isArrayIndex_iff.mpr ⟨n, rfl⟩)]

theorem propertyName_of_not {name : Text} (hname : ¬name.isIdentifierName = true)
    (hindex : ¬∃ n, name = Text.ofNat n) : Token.propertyName name = Token.string name := by
  rw [Token.propertyName, if_neg hname, if_neg (mt Text.isArrayIndex_iff.mp hindex)]

/-- The key of a decimal text. -/
theorem propertyKey_propertyName_ofNat (n : ℕ) :
    ((Token.propertyName (Text.ofNat n)).propertyKey = .ok (Text.ofNat n) ↔ n < 10 ^ 21) ∧
      ((∃ key, (Token.propertyName (Text.ofNat n)).propertyKey = .ok key) ↔
        (Text.ofNat n).length ≤ wholeDigitLimit) := by
  rw [propertyName_ofNat]
  rcases Nat.lt_or_ge wholeDigitLimit (Text.ofNat n).length with hlong | hshort
  · -- a text that cannot be read is that of a large number too
    have hlarge : ¬n < 10 ^ 21 := fun h =>
      absurd (length_ofNat_le_wholeDigitLimit h) (not_le.mpr hlong)
    rw [propertyKey_ofNat_of_long hlong]
    exact ⟨iff_of_false (by simp) hlarge, iff_of_false (by simp) (not_le.mpr hlong)⟩
  · rw [propertyKey_ofNat hshort, Except.ok.injEq, source_eq_ofNat_iff hshort]
    exact ⟨Iff.rfl, iff_of_true ⟨_, rfl⟩ hshort⟩

theorem forall_eq_ofNat_iff {n : ℕ} {p : ℕ → Prop} :
    (∀ m, Text.ofNat n = Text.ofNat m → p m) ↔ p n := by
  constructor
  · intro h
    exact h n rfl
  · intro h m hm
    have hvalue := congrArg (Text.valueOf 10 CodePoint.decimalDigit?) hm
    rw [Text.valueOf_ofNat, Text.valueOf_ofNat] at hvalue
    rwa [← hvalue]

/-- **Keys of property names.**  The token of a name stands for the name unless this has a surrogate
pair or is the decimal text of a number from `10 ^ 21` on, and it stands for some key unless the
name is a decimal text of more than `4300` digits. -/
theorem propertyNameToken_key_iff (name : Text) :
    ∃ token, Builder.propertyNameToken.build [.text name] = .ok token ∧
      (token.propertyKey = .ok name ↔
        ¬name.HasSurrogatePair ∧ ∀ n, name = Text.ofNat n → n < 10 ^ 21) ∧
      ((∃ key, token.propertyKey = .ok key) ↔
        ∀ n, name = Text.ofNat n → (Text.ofNat n).length ≤ 4300) := by
  refine ⟨Token.propertyName name, propertyNameToken_build name, ?_⟩
  by_cases hindex : ∃ n, name = Text.ofNat n
  · obtain ⟨n, rfl⟩ := hindex
    obtain ⟨hkey, hsome⟩ := propertyKey_propertyName_ofNat n
    rw [forall_eq_ofNat_iff, forall_eq_ofNat_iff, hkey, hsome]
    exact ⟨(and_iff_right (Text.not_hasSurrogatePair_ofNat n)).symm, Iff.rfl⟩
  · -- both conditions on numbers are void
    have hvoid : ∀ {p : ℕ → Prop}, ∀ n, name = Text.ofNat n → p n :=
      fun n hn => absurd ⟨n, hn⟩ hindex
    by_cases hname : name.isIdentifierName = true
    · have hkey : (Token.propertyName name).propertyKey = .ok name := by
        rw [propertyName_of_isIdentifierName hname]
        rfl
      have hpair := Text.not_hasSurrogatePair_of_isIdentifierName hname
      exact ⟨iff_of_true hkey ⟨hpair, hvoid⟩, iff_of_true ⟨name, hkey⟩ hvoid⟩
    · rw [propertyName_of_not hname hindex, propertyKey_string, Except.ok.injEq,
        Text.pairsJoined_eq_self_iff]
      exact ⟨(and_iff_left hvoid).symm, iff_of_true ⟨_, rfl⟩ hvoid⟩

/-- The token of `1000000000000000000000` stands for the key `1e+21`. -/
theorem propertyNameToken_ten_pow_twenty_one :
    ¬(Text.ofString "1000000000000000000000").HasSurrogatePair ∧
      ∃ token, Builder.propertyNameToken.build
          [.text (Text.ofString "1000000000000000000000")] = .ok token ∧
        token.propertyKey = .ok (Text.ofString "1e+21") ∧
        token.propertyKey ≠ .ok (Text.ofString "1000000000000000000000") := by
  have hname : Text.ofString "1000000000000000000000" = Text.ofNat (10 ^ 21) := by
    decide +kernel
  have hlen : (Text.ofNat (10 ^ 21)).length ≤ wholeDigitLimit := by
    rw [← hname]
    decide
  have hsource : (Number.int ((10 ^ 21 : ℕ) : ℤ)).source = Text.ofString "1e+21" := by
    decide +kernel
  have hkey : (Token.propertyName (Text.ofNat (10 ^ 21))).propertyKey
      = .ok (Text.ofString "1e+21") := by
    rw [propertyName_ofNat, propertyKey_ofNat hlen, hsource]
  rw [hname]
  refine ⟨Text.not_hasSurrogatePair_ofNat _, _, propertyNameToken_build _, hkey, ?_⟩
  rw [hkey, ← hname, ne_eq, Except.ok.injEq]
  decide

end EcmaTree
