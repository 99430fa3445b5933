import EcmaTree.Literal.Escape
import EcmaTree.Proofs.Literal.Grammar
import EcmaTree.Proofs.Text.Digits

/-!
# Escapes at the front of a text

What `Escape.scanFrom` recognises behind a backslash, said without the scanner: `LeadingHex` and
`LeadingBraced` are the two ways in which hexadecimal digits can stand at the front of a text, and
`FaultyEscape` are the escapes that stand for nothing.  An escape is refused exactly if it is
faulty (`Escape.exists_decode_scanFrom_eq_error_iff`); octal escapes never are, because three octal
digits stay below `512`.

An escape takes up its first code point and a run without backslashes
(`Escape.exists_spelling_scanFrom`), which is why cutting a body into escapes and cutting it into
the items of the grammar never get out of step.
-/

namespace EcmaTree

/-! ### Digits at the front of a text -/

/-- The text starts with these hexadecimal digits, `n` in number. -/
structure Text.LeadingHex (t : Text) (n : ℕ) (digits : Text) : Prop where
  /-- There are `n` of them. -/
  length : digits.length = n
  /-- All are digits. -/
  isHexDigit : ∀ c ∈ digits, Escape.isHexDigit c = true
  /-- They stand at the front. -/
  isPrefix : digits <+: t

/-- The text starts with these hexadecimal digits between braces. -/
structure Text.LeadingBraced (t digits : Text) : Prop where
  /-- There is a digit. -/
  ne_nil : digits ≠ []
  /-- All are digits. -/
  isHexDigit : ∀ c ∈ digits, Escape.isHexDigit c = true
  /-- The braces and what is between them stand at the front. -/
  isPrefix : CodePoint.ofChar '\x7b' :: (digits ++ [CodePoint.ofChar '\x7d']) <+: t

/-- The escape that starts with a letter, with `rest` behind it, stands for nothing: `\x` without
two digits, `\u` without four and without a number in braces, or a number in braces behind the
code space. -/
def FaultyEscape (c : CodePoint) (rest : Text) : Prop :=
  (c = 'x' ∧ ∀ digits, ¬rest.LeadingHex 2 digits) ∨
  (c = 'u' ∧ (∀ digits, ¬rest.LeadingHex 4 digits) ∧ ∀ digits, ¬rest.LeadingBraced digits) ∨
  (c = 'u' ∧ ∃ digits, rest.LeadingBraced digits ∧
    0x10FFFF < Text.valueOf 16 CodePoint.hexDigit? digits)

namespace Escape

/-- The digits are read iff they stand at the front. -/
theorem hexDigits?_eq_some_iff {n : ℕ} {t digits : Text} :
    hexDigits? n t = some digits ↔ t.LeadingHex n digits := by
  rw [hexDigits?]
  constructor
  · intro h
    split at h
    · next hcond =>
      obtain rfl := Option.some.inj h
      rw [Bool.and_eq_true, decide_eq_true_eq, List.all_eq_true] at hcond
      exact ⟨hcond.1, hcond.2, List.take_prefix n t⟩
    · exact absurd h (by simp)
  · rintro ⟨hlength, hdigits, hprefix⟩
    -- a prefix of that length is what is taken
    obtain rfl : digits = t.take n := by
      rw [← hlength]; exact List.prefix_iff_eq_take.mp hprefix
    rw [if_pos]
    rw [Bool.and_eq_true, decide_eq_true_eq, List.all_eq_true]
    exact ⟨hlength, hdigits⟩

/-- The digits in braces are read iff they stand at the front. -/
theorem bracedDigits?_eq_some_iff {t digits : Text} :
    bracedDigits? t = some digits ↔ t.LeadingBraced digits := by
  constructor
  · intro h
    cases t with
    | nil => simp [bracedDigits?] at h
    | cons c rest =>
      rw [bracedDigits?] at h
      split at h
      · exact absurd h (by simp)
      · next d behind hdrop =>
        split at h
        · next hcond =>
          obtain rfl := Option.some.inj h
          simp only [Bool.and_eq_true, decide_eq_true_eq, Bool.not_eq_true',
            List.isEmpty_eq_false_iff] at hcond
          obtain ⟨⟨rfl, rfl⟩, hne⟩ := hcond
          refine ⟨hne, fun c hc => List.mem_takeWhile_imp hc, behind, ?_⟩
          conv_rhs => rw [← List.takeWhile_append_dropWhile (p := isHexDigit) (l := rest), hdrop]
          simp
        · exact absurd h (by simp)
  -- The closing brace is no digit, so the run of digits ends in front of it.
  · rintro ⟨hne, hdigits, behind, rfl⟩
    have hclose : ∀ c ∈ (CodePoint.ofChar '\x7d' :: behind).head?, isHexDigit c = false := by
      intro c hc
      obtain rfl := Option.some.inj hc
      rfl
    have htake : (digits ++ CodePoint.ofChar '\x7d' :: behind).takeWhile isHexDigit = digits :=
      takeWhile_run_append hdigits hclose
    have hdrop : (digits ++ CodePoint.ofChar '\x7d' :: behind).dropWhile isHexDigit
        = CodePoint.ofChar '\x7d' :: behind := dropWhile_run_append hdigits hclose
    rw [List.cons_append, List.append_assoc, List.singleton_append, bracedDigits?]
    simp only [hdrop, htake]
    simp [hne]

/-! ### Which escape is recognised -/

/-- Digits in braces make a numbered escape. -/
theorem scanFrom_of_leadingBraced {digits rest : Text} (h : rest.LeadingBraced digits) :
    scanFrom 'u' rest = braced digits := by
  rw [scanFrom, if_pos rfl, bracedDigits?_eq_some_iff.mpr h]

/-- An opening brace is no hexadecimal digit, so the two forms of `\u` exclude each other. -/
theorem not_leadingBraced_of_leadingHex {n : ℕ} {digits inner t : Text}
    (h : t.LeadingHex (n + 1) digits) : ¬t.LeadingBraced inner := by
  rintro ⟨-, -, behind, rfl⟩
  obtain ⟨hlength, hdigits, hprefix⟩ := h
  cases digits with
  | nil => simp at hlength
  | cons c digits =>
    obtain rfl : c = '\x7b' := (List.cons_prefix_cons.mp hprefix).1
    exact absurd (hdigits _ List.mem_cons_self) (by decide)

/-- Four digits behind `u` make a code unit. -/
theorem scanFrom_of_leadingHex_four {digits rest : Text} (h : rest.LeadingHex 4 digits) :
    scanFrom 'u' rest = unit digits := by
  -- Braces are tried first.
  have hbraced : bracedDigits? rest = none :=
    Option.eq_none_iff_forall_ne_some.mpr fun inner hinner =>
      not_leadingBraced_of_leadingHex h (bracedDigits?_eq_some_iff.mp hinner)
  rw [scanFrom, if_pos rfl, hexDigits?_eq_some_iff.mpr h, hbraced]

/-- Two digits behind `x` make a byte. -/
theorem scanFrom_of_leadingHex_two {digits rest : Text} (h : rest.LeadingHex 2 digits) :
    scanFrom 'x' rest = byte digits := by
  rw [scanFrom, if_neg (by decide), if_pos rfl, hexDigits?_eq_some_iff.mpr h]

theorem scanFrom_x_of_not_leadingHex {rest : Text} (h : ∀ digits, ¬rest.LeadingHex 2 digits) :
    scanFrom 'x' rest = single 'x' := by
  have hbyte : hexDigits? 2 rest = none :=
    Option.eq_none_iff_forall_ne_some.mpr fun d hd => h d (hexDigits?_eq_some_iff.mp hd)
  rw [scanFrom, if_neg (by decide), if_pos rfl, hbyte]

theorem scanFrom_u_of_not_leading {rest : Text} (hunit : ∀ digits, ¬rest.LeadingHex 4 digits)
    (hbraced : ∀ digits, ¬rest.LeadingBraced digits) : scanFrom 'u' rest = single 'u' := by
  have hunit' : hexDigits? 4 rest = none :=
    Option.eq_none_iff_forall_ne_some.mpr fun d hd => hunit d (hexDigits?_eq_some_iff.mp hd)
  have hbraced' : bracedDigits? rest = none :=
    Option.eq_none_iff_forall_ne_some.mpr fun d hd => hbraced d (bracedDigits?_eq_some_iff.mp hd)
  rw [scanFrom, if_pos rfl, hunit', hbraced']

/-- An escape is its first code point and a run behind it, in which there is no backslash. -/
theorem exists_spelling_scanFrom (c : CodePoint) (rest : Text) :
    ∃ run, (scanFrom c rest).spelling = c :: run ∧ run <+: rest ∧
      CodePoint.ofChar '\\' ∉ run := by
  have hhex : ∀ digits : Text, (∀ d ∈ digits, isHexDigit d = true) →
      CodePoint.ofChar '\\' ∉ digits := by
    intro digits hdigits hmem
    exact absurd (hdigits _ hmem) (by decide)
  have hsingle : ∃ run, (single c).spelling = c :: run ∧ run <+: rest ∧
      CodePoint.ofChar '\\' ∉ run := ⟨[], rfl, List.nil_prefix, List.not_mem_nil⟩
  rw [scanFrom]
  split_ifs with hu hx hoctal hcrlf hend
  · subst hu
    split
    · next digits hbraced =>
      obtain ⟨-, hdigits, hprefix⟩ := bracedDigits?_eq_some_iff.mp hbraced
      refine ⟨'\x7b' :: (digits ++ [CodePoint.ofChar '\x7d']), rfl, hprefix, ?_⟩
      rw [List.mem_cons, List.mem_append, List.mem_singleton, not_or, not_or]
      exact ⟨by decide, hhex digits hdigits, by decide⟩
    · next digits _ hunit =>
      obtain ⟨-, hdigits, hprefix⟩ := hexDigits?_eq_some_iff.mp hunit
      exact ⟨digits, rfl, hprefix, hhex digits hdigits⟩
    · exact hsingle
  · subst hx
    split
    · next digits hbyte =>
      obtain ⟨-, hdigits, hprefix⟩ := hexDigits?_eq_some_iff.mp hbyte
      exact ⟨digits, rfl, hprefix, hhex digits hdigits⟩
    · exact hsingle
  · -- the octal digits behind the first one
    refine ⟨_, rfl, (List.takeWhile_prefix _).trans (List.take_prefix _ _), fun hmem => ?_⟩
    exact absurd (List.mem_takeWhile_imp hmem) (by decide)
  · rw [Bool.and_eq_true, decide_eq_true_eq, decide_eq_true_eq] at hcrlf
    refine ⟨[CodePoint.lineFeed], rfl, ?_, by decide⟩
    rw [← hcrlf.2]
    exact List.take_prefix 1 rest
  · exact ⟨[], rfl, List.nil_prefix, List.not_mem_nil⟩
  · exact hsingle

/-! ### Which escapes are refused -/

theorem exists_numbered_eq_error_iff {escape : Escape} {column n : ℕ} :
    (∃ e, escape.numbered column n = .error e) ↔ 0x10FFFF < n := by
  rw [numbered, CodePoint.ofNat?]
  split_ifs with h
  · simp only [exists_false, false_iff]
    omega
  · simp only [Except.error.injEq, exists_eq', true_iff]
    omega

theorem getD_hexDigit?_lt {c : CodePoint} : c.hexDigit?.getD 0 < 16 := by
  rw [CodePoint.hexDigit?]
  split_ifs with h1 h2 h3
  all_goals
    simp only [Bool.and_eq_true, decide_eq_true_eq] at *
    simp only [Option.getD_some, Option.getD_none]
    omega

theorem getD_hexDigit?_lt_of_isOctalDigit {c : CodePoint} (h : isOctalDigit c = true) :
    c.hexDigit?.getD 0 < 8 := by
  rw [isOctalDigit, CodePoint.digitIn?] at h
  cases hd : c.hexDigit? with
  | none => decide
  | some d =>
    simp only [hd] at h
    by_contra hle
    rw [Option.getD_some] at hle
    rw [if_neg hle] at h
    exact Bool.noConfusion h

theorem length_octalDigits_le (c : CodePoint) (rest : Text) :
    (octalDigits c rest).length ≤ 3 := by
  have h := (List.takeWhile_prefix isOctalDigit
    (l := rest.take (if c.toNat ≤ 0x33 then 2 else 1))).length_le
  rw [List.length_take] at h
  rw [octalDigits, List.length_cons]
  split_ifs at h ⊢ <;> omega

/-- Three octal digits spell a number below `512`. -/
theorem valueOf_octalDigits_lt {c : CodePoint} (hc : isOctalDigit c = true) (rest : Text) :
    Text.valueOf 8 CodePoint.hexDigit? (octalDigits c rest) < 512 := by
  refine lt_of_lt_of_le (Text.valueOf_lt (by omega) fun d hd => ?_)
    (Nat.pow_le_pow_right (by omega) (length_octalDigits_le c rest))
  rw [octalDigits, List.mem_cons] at hd
  rcases hd with rfl | hd
  · exact getD_hexDigit?_lt_of_isOctalDigit hc
  · exact getD_hexDigit?_lt_of_isOctalDigit (List.mem_takeWhile_imp hd)

theorem valueOf_hexDigits_lt {n : ℕ} {digits t : Text} (h : t.LeadingHex n digits) :
    Text.valueOf 16 CodePoint.hexDigit? digits < 16 ^ n := by
  rw [← h.length]
  exact Text.valueOf_lt (by omega) fun _ _ => getD_hexDigit?_lt

theorem leadingBraced_unique {t digits other : Text} (h : t.LeadingBraced digits)
    (h' : t.LeadingBraced other) : digits = other :=
  Option.some.inj ((bracedDigits?_eq_some_iff.mpr h).symm.trans (bracedDigits?_eq_some_iff.mpr h'))

theorem exists_decode_scanFrom_u_eq_error_iff {rest : Text} {column : ℕ} :
    (∃ e, (scanFrom 'u' rest).decode column = .error e) ↔ FaultyEscape 'u' rest := by
  have hux : CodePoint.ofChar 'u' ≠ CodePoint.ofChar 'x' := by decide
  simp only [FaultyEscape, hux, false_and, true_and, false_or]
  by_cases hbraced : ∃ digits, rest.LeadingBraced digits
  · obtain ⟨digits, h⟩ := hbraced
    rw [scanFrom_of_leadingBraced h]
    refine exists_numbered_eq_error_iff.trans ⟨fun hrange => Or.inr ⟨digits, h, hrange⟩, ?_⟩
    rintro (⟨-, hno⟩ | ⟨other, hother, hrange⟩)
    · exact absurd h (hno digits)
    · rwa [leadingBraced_unique h hother]
  · by_cases hunit : ∃ digits, rest.LeadingHex 4 digits
    · obtain ⟨digits, h⟩ := hunit
      rw [scanFrom_of_leadingHex_four h]
      -- four digits stay below the end of the code space
      refine exists_numbered_eq_error_iff.trans (iff_of_false ?_ ?_)
      · have := valueOf_hexDigits_lt h
        omega
      · rintro (⟨hno, -⟩ | ⟨other, hother, -⟩)
        · exact hno digits h
        · exact hbraced ⟨other, hother⟩
    · rw [not_exists] at hbraced hunit
      rw [scanFrom_u_of_not_leading hunit hbraced]
      exact iff_of_true ⟨_, rfl⟩ (Or.inl ⟨hunit, hbraced⟩)

theorem exists_decode_scanFrom_x_eq_error_iff {rest : Text} {column : ℕ} :
    (∃ e, (scanFrom 'x' rest).decode column = .error e) ↔ FaultyEscape 'x' rest := by
  have hxu : CodePoint.ofChar 'x' ≠ CodePoint.ofChar 'u' := by decide
  simp only [FaultyEscape, hxu, false_and, true_and, or_false]
  by_cases hbyte : ∃ digits, rest.LeadingHex 2 digits
  · obtain ⟨digits, h⟩ := hbyte
    rw [scanFrom_of_leadingHex_two h]
    refine exists_numbered_eq_error_iff.trans (iff_of_false ?_ fun hno => hno digits h)
    have := valueOf_hexDigits_lt h
    omega
  · rw [not_exists] at hbyte
    rw [scanFrom_x_of_not_leadingHex hbyte]
    exact iff_of_true ⟨_, rfl⟩ hbyte

/-- What follows a backslash is refused exactly if it is faulty. -/
theorem exists_decode_scanFrom_eq_error_iff {c : CodePoint} {rest : Text} {column : ℕ} :
    (∃ e, (scanFrom c rest).decode column = .error e) ↔ FaultyEscape c rest := by
  by_cases hu : c = 'u'
  · subst hu
    exact exists_decode_scanFrom_u_eq_error_iff
  by_cases hx : c = 'x'
  · subst hx
    exact exists_decode_scanFrom_x_eq_error_iff
  -- No other letter asks for digits, and octal digits never lead out of the code space.
  refine iff_of_false ?_ (by simp [FaultyEscape, hu, hx])
  rw [scanFrom, if_neg hu, if_neg hx]
  split_ifs with hoctal hcrlf hend
  · refine fun h => absurd (exists_numbered_eq_error_iff.mp h) ?_
    have := valueOf_octalDigits_lt hoctal rest
    omega
  · simp [decode]
  · simp [decode]
  · simp [decode, hu, hx]

theorem exists_decode_scanFrom_eq_ok {c : CodePoint} {rest : Text} (h : ¬FaultyEscape c rest)
    (column : ℕ) : ∃ here, (scanFrom c rest).decode column = .ok here := by
  cases hdecode : (scanFrom c rest).decode column with
  | error e => exact absurd (exists_decode_scanFrom_eq_error_iff.mp ⟨e, hdecode⟩) h
  | ok here => exact ⟨here, rfl⟩

end Escape

end EcmaTree
