import EcmaTree.Number.Style
import EcmaTree.Unicode.DecimalDigit
import Mathlib.Data.List.TakeWhile
import Mathlib.Data.Nat.Digits.Lemmas
import Mathlib.Tactic.IntervalCases

/-!
# Writing numbers in digits and reading them

`digitsIn` and `Text.valueOf` are brought down to `Nat.digits` and `Nat.ofDigits`, which list the
least significant digit first (`digitsIn_eq_reverse_digits`, `Text.valueOf_eq_ofDigits`).  What is
written is then read back (`Text.valueOf_ofNat`, `Text.valueOf_hex`), a factor that is a power of
ten is a run of zeros behind the digits (`Text.ofNat_mul_ten_pow`), and `Text.trimZeros` takes such
a run off again (`Text.trimZeros_ofNat_mul_ten_pow`).
-/

namespace EcmaTree

/-! ### Single digits -/

theorem CodePoint.toNat_ofDigit {d : ℕ} (h : d < 10) : (ofDigit d).toNat = 0x30 + d := by
  rw [ofDigit, dif_pos h]

theorem CodePoint.hexDigit?_ofDigit {d : ℕ} (h : d < 16) : (ofDigit d).hexDigit? = some d := by
  interval_cases d <;> rfl

theorem CodePoint.decimalDigit?_ofDigit {d : ℕ} (h : d < 10) :
    (ofDigit d).decimalDigit? = some d := by
  interval_cases d <;> rfl

theorem CodePoint.ofDigit_ne_digitZero {d : ℕ} (h : d < 10) (h0 : d ≠ 0) :
    ofDigit d ≠ digitZero := by
  intro heq
  have hn := congrArg CodePoint.toNat heq
  rw [digitZero, toNat_ofDigit h, toNat_ofDigit (by omega)] at hn
  omega

/-! ### The digits of a number -/

/-- As many steps as the number has binary places are enough. -/
theorem digitsWithin_eq {base : ℕ} (hb : 1 < base) :
    ∀ {fuel n : ℕ}, n ≠ 0 → n < 2 ^ fuel →
      digitsWithin base fuel n = (Nat.digits base n).reverse := by
  intro fuel
  induction fuel with
  | zero => intro n h0 hn; omega
  | succ fuel ih =>
    intro n h0 hn
    rw [digitsWithin]
    split
    · next hlt => rw [Nat.digits_of_lt base n h0 hlt, List.reverse_singleton]
    · next hle =>
      have hdiv : n / base ≠ 0 := Nat.div_ne_zero_iff.mpr ⟨by omega, by omega⟩
      have hhalf : n / base ≤ n / 2 := Nat.div_le_div_left hb (by omega)
      rw [ih hdiv (by omega), Nat.digits_eq_cons_digits_div hb h0, List.reverse_cons]

theorem digitsIn_eq_reverse_digits {base n : ℕ} (hb : 1 < base) (h0 : n ≠ 0) :
    digitsIn base n = (Nat.digits base n).reverse :=
  digitsWithin_eq hb h0 Nat.lt_log2_self

theorem digitsIn_zero {base : ℕ} (hb : 1 < base) : digitsIn base 0 = [0] := by
  show digitsWithin base 1 0 = [0]
  rw [digitsWithin, if_pos (by omega)]

theorem digitsIn_ne_nil {base n : ℕ} (hb : 1 < base) : digitsIn base n ≠ [] := by
  rcases eq_or_ne n 0 with rfl | h0
  · rw [digitsIn_zero hb]; exact List.cons_ne_nil 0 []
  · rw [digitsIn_eq_reverse_digits hb h0]
    exact List.reverse_ne_nil_iff.mpr (Nat.digits_ne_nil_iff_ne_zero.mpr h0)

theorem lt_of_mem_digitsIn {base n d : ℕ} (hb : 1 < base) (h : d ∈ digitsIn base n) : d < base := by
  rcases eq_or_ne n 0 with rfl | h0
  · rw [digitsIn_zero hb, List.mem_singleton] at h
    omega
  · rw [digitsIn_eq_reverse_digits hb h0, List.mem_reverse] at h
    exact Nat.digits_lt_base hb h

/-- `n` has at most `k` digits iff it is below `base ^ k`. -/
theorem length_digitsIn_le_iff {base n k : ℕ} (hb : 1 < base) (h0 : n ≠ 0) :
    (digitsIn base n).length ≤ k ↔ n < base ^ k := by
  rw [digitsIn_eq_reverse_digits hb h0, List.length_reverse, Nat.digits_length_le_iff hb]

/-- The first digit of a number stands for a power of ten that is not above the number. -/
theorem exists_length_digitsIn {n : ℕ} (h0 : n ≠ 0) :
    ∃ k, (digitsIn 10 n).length = k + 1 ∧ 10 ^ k ≤ n ∧ n < 10 ^ (k + 1) := by
  have hlen : (digitsIn 10 n).length ≠ 0 :=
    mt List.length_eq_zero_iff.mp (digitsIn_ne_nil (by omega))
  obtain ⟨k, hk⟩ := Nat.exists_eq_succ_of_ne_zero hlen
  refine ⟨k, hk, ?_, ?_⟩
  · by_contra hlt
    have := (length_digitsIn_le_iff (by omega) h0).mpr (not_le.mp hlt)
    omega
  · exact (length_digitsIn_le_iff (by omega) h0).mp hk.le

namespace Text

/-! ### Reading digits -/

theorem valueFrom_eq_ofDigits (base : ℕ) (digit? : CodePoint → Option ℕ) :
    ∀ (t : Text) (start : ℕ), valueFrom base digit? start t
      = start * base ^ t.length
        + Nat.ofDigits base (t.map fun c => (digit? c).getD 0).reverse := by
  intro t
  induction t with
  | nil => intro start; simp [valueFrom]
  | cons c t ih =>
    intro start
    rw [valueFrom, ih, List.map_cons, Nat.ofDigits_reverse_cons, List.length_cons, List.length_map,
      pow_succ]
    ring

theorem valueOf_eq_ofDigits (base : ℕ) (digit? : CodePoint → Option ℕ) (t : Text) :
    valueOf base digit? t
      = Nat.ofDigits base (t.map fun c => (digit? c).getD 0).reverse := by
  rw [valueOf, valueFrom_eq_ofDigits, Nat.zero_mul, Nat.zero_add]

theorem valueOf_append (base : ℕ) (digit? : CodePoint → Option ℕ) (s t : Text) :
    valueOf base digit? (s ++ t)
      = valueOf base digit? s * base ^ t.length + valueOf base digit? t := by
  rw [valueOf_eq_ofDigits, valueOf_eq_ofDigits, valueOf_eq_ofDigits, List.map_append,
    List.reverse_append, Nat.ofDigits_append, List.length_reverse, List.length_map]
  ring

/-- Digits of a base spell a number below that power of the base. -/
theorem valueOf_lt {base : ℕ} (hb : 1 < base) {digit? : CodePoint → Option ℕ} {t : Text}
    (h : ∀ c ∈ t, (digit? c).getD 0 < base) : valueOf base digit? t < base ^ t.length := by
  rw [valueOf_eq_ofDigits]
  refine lt_of_lt_of_eq (Nat.ofDigits_lt_base_pow_length hb ?_) ?_
  · intro d hd
    rw [List.mem_reverse, List.mem_map] at hd
    obtain ⟨c, hc, rfl⟩ := hd
    exact h c hc
  · rw [List.length_reverse, List.length_map]

/-! ### Hexadecimal places -/

theorem length_hex (width n : ℕ) : (hex width n).length = width := by
  induction width generalizing n with
  | zero => rfl
  | succ width ih => rw [hex, List.length_append, ih, List.length_singleton]

/-- Every place is the digit of a number below sixteen. -/
theorem exists_ofDigit_of_mem_hex {width n : ℕ} {c : CodePoint} (h : c ∈ hex width n) :
    ∃ d < 16, c = CodePoint.ofDigit d := by
  induction width generalizing n with
  | zero => simp [hex] at h
  | succ width ih =>
    rw [hex, List.mem_append, List.mem_singleton] at h
    rcases h with h | rfl
    · exact ih h
    · exact ⟨n % 16, Nat.mod_lt n (by omega), rfl⟩

theorem valueOf_hex (width n : ℕ) :
    valueOf 16 CodePoint.hexDigit? (hex width n) = n % 16 ^ width := by
  induction width generalizing n with
  | zero => rw [pow_zero, Nat.mod_one]; rfl
  | succ width ih =>
    have hlast : valueOf 16 CodePoint.hexDigit? [CodePoint.ofDigit (n % 16)] = n % 16 := by
      rw [valueOf, valueFrom, CodePoint.hexDigit?_ofDigit (Nat.mod_lt n (by omega))]
      simp [valueFrom]
    rw [hex, valueOf_append, ih, hlast, List.length_singleton, pow_one, pow_succ,
      Nat.mul_comm (16 ^ width) 16, Nat.mod_mul, Nat.mul_comm, Nat.add_comm]

/-! ### Decimal texts -/

/-- Every code point is the digit of a number below ten. -/
theorem exists_ofDigit_of_mem_ofNat {n : ℕ} {c : CodePoint} (h : c ∈ ofNat n) :
    ∃ d < 10, c = CodePoint.ofDigit d := by
  rw [ofNat, List.mem_map] at h
  obtain ⟨d, hd, rfl⟩ := h
  exact ⟨d, lt_of_mem_digitsIn (by omega) hd, rfl⟩

theorem ofNat_ne_nil (n : ℕ) : ofNat n ≠ [] := by
  rw [ofNat, ne_eq, List.map_eq_nil_iff]
  exact digitsIn_ne_nil (by omega)

theorem length_ofNat_le_iff {n k : ℕ} (h0 : n ≠ 0) : (ofNat n).length ≤ k ↔ n < 10 ^ k := by
  rw [ofNat, List.length_map, length_digitsIn_le_iff (by omega) h0]

/-- A number is read back from its decimal text. -/
theorem valueOf_ofNat (n : ℕ) : valueOf 10 CodePoint.decimalDigit? (ofNat n) = n := by
  have hmap : (ofNat n).map (fun c => (CodePoint.decimalDigit? c).getD 0) = digitsIn 10 n := by
    rw [ofNat, List.map_map]
    refine (List.map_congr_left fun d hd => ?_).trans (List.map_id _)
    rw [Function.comp_apply, CodePoint.decimalDigit?_ofDigit (lt_of_mem_digitsIn (by omega) hd)]
    rfl
  rw [valueOf_eq_ofDigits, hmap]
  rcases eq_or_ne n 0 with rfl | h0
  · rw [digitsIn_zero (by omega)]; rfl
  · rw [digitsIn_eq_reverse_digits (by omega) h0, List.reverse_reverse, Nat.ofDigits_digits]

theorem ofNat_zero : ofNat 0 = [CodePoint.digitZero] := by
  rw [ofNat, digitsIn_zero (by omega)]; rfl

/-- Only the text of zero starts with a zero. -/
theorem head?_ofNat_ne_digitZero {n : ℕ} (hn : n ≠ 0) :
    (ofNat n).head? ≠ some CodePoint.digitZero := by
  have hne : Nat.digits 10 n ≠ [] := Nat.digits_ne_nil_iff_ne_zero.mpr hn
  rw [ofNat, digitsIn_eq_reverse_digits (by omega) hn, List.head?_map, List.head?_reverse,
    List.getLast?_eq_some_getLast hne, Option.map_some, ne_eq, Option.some.injEq]
  exact CodePoint.ofDigit_ne_digitZero (Nat.digits_lt_base (by omega) (List.getLast_mem hne))
    (Nat.getLast_digit_ne_zero 10 hn)

/-! ### Zeros at the end -/

theorem valueOf_zeros (k : ℕ) : valueOf 10 CodePoint.decimalDigit? (zeros k) = 0 := by
  have hmap : (zeros k).map (fun c => (CodePoint.decimalDigit? c).getD 0) = List.replicate k 0 := by
    rw [zeros, List.map_replicate]; rfl
  rw [valueOf_eq_ofDigits, hmap, List.reverse_replicate, Nat.ofDigits_replicate_zero]

theorem length_zeros (k : ℕ) : (zeros k).length = k := List.length_replicate

/-- A power of ten puts zeros behind the digits. -/
theorem ofNat_mul_ten_pow {n : ℕ} (h0 : n ≠ 0) (k : ℕ) :
    ofNat (n * 10 ^ k) = ofNat n ++ zeros k := by
  have hmul : n * 10 ^ k ≠ 0 := Nat.mul_ne_zero h0 (by positivity)
  rw [ofNat, ofNat, digitsIn_eq_reverse_digits (by omega) h0,
    digitsIn_eq_reverse_digits (by omega) hmul, Nat.mul_comm n,
    Nat.digits_base_pow_mul (by omega) (Nat.pos_of_ne_zero h0), List.reverse_append,
    List.reverse_replicate, List.map_append, List.map_replicate]
  rfl

/-- The last digit is the rest of the division by ten. -/
theorem getLast?_ofNat (n : ℕ) : (ofNat n).getLast? = some (CodePoint.ofDigit (n % 10)) := by
  rcases eq_or_ne n 0 with rfl | h0
  · rw [ofNat_zero]; rfl
  · rw [ofNat, digitsIn_eq_reverse_digits (by omega) h0, List.getLast?_map, List.getLast?_reverse,
      Nat.digits_eq_cons_digits_div (by omega) h0]
    rfl

/-- Trimming takes off all zeros at the end and nothing else. -/
theorem trimZeros_append_zeros {t : Text} (ht : t.getLast? ≠ some CodePoint.digitZero) (k : ℕ) :
    (t ++ zeros k).trimZeros = t := by
  have hzeros : ∀ c ∈ zeros k, (decide (c = CodePoint.digitZero)) = true := by
    intro c hc
    rw [decide_eq_true_eq]
    exact List.eq_of_mem_replicate hc
  have hstop : t.reverse.dropWhile (· = CodePoint.digitZero) = t.reverse := by
    rw [List.dropWhile_eq_self_iff]
    intro hlen heq
    rw [decide_eq_true_eq] at heq
    rw [← List.head?_reverse, List.head?_eq_getElem?, List.getElem?_eq_getElem hlen, heq] at ht
    exact ht rfl
  have hrun : (zeros k).reverse = zeros k := List.reverse_replicate
  rw [trimZeros, List.reverse_append, hrun, List.dropWhile_append_of_pos hzeros, hstop,
    List.reverse_reverse]

theorem trimZeros_ofNat_mul_ten_pow {n : ℕ} (hn : n % 10 ≠ 0) (k : ℕ) :
    (ofNat (n * 10 ^ k)).trimZeros = ofNat n := by
  rw [ofNat_mul_ten_pow (by omega)]
  refine trimZeros_append_zeros ?_ k
  rw [getLast?_ofNat, ne_eq, Option.some.injEq]
  exact CodePoint.ofDigit_ne_digitZero (Nat.mod_lt n (by omega)) hn

end Text

end EcmaTree
