import EcmaTree.Proofs.Text.Digits
import EcmaTree.Tree.Display

/-!
# What is written of whole numbers

A whole number is written just if its digits are no more than `wholeDigitLimit`, and so if it is
less than the power of ten with that exponent, whatever its sign (`Value.display_int`,
`Value.display_int_of_le`).  What is written then are its decimal digits, in every style.
-/

namespace EcmaTree

theorem length_digitsIn_le_limit_iff {n : ℕ} :
    (digitsIn 10 n).length ≤ wholeDigitLimit ↔ n < 10 ^ wholeDigitLimit := by
  rcases eq_or_ne n 0 with rfl | h0
  · rw [digitsIn_zero (by omega)]
    exact iff_of_true (by decide) (Nat.pow_pos (by omega))
  · exact length_digitsIn_le_iff (by omega) h0

namespace Number

variable {n : ℤ}

theorem written_int (style : NumberStyle) (h : n.natAbs < 10 ^ wholeDigitLimit) :
    (int n).written style = .ok (Text.ofInt n) :=
  if_pos (length_digitsIn_le_limit_iff.mpr h)

theorem written_int_of_le (style : NumberStyle) (h : 10 ^ wholeDigitLimit ≤ n.natAbs) :
    (int n).written style = .error .tooManyDigits :=
  if_neg (mt length_digitsIn_le_limit_iff.mp (not_lt.mpr h))

end Number

namespace Value

variable {n : ℤ}

/-- A whole number with digits up to the limit is written with all of them. -/
theorem display_int (h : n.natAbs < 10 ^ wholeDigitLimit) : (int n).display = .ok (Text.ofInt n) :=
  (display_number (.int n)).trans (Number.written_int _ h)

/-- No other whole number is written. -/
theorem display_int_of_le (h : 10 ^ wholeDigitLimit ≤ n.natAbs) :
    (int n).display = .error .tooManyDigits :=
  (display_number (.int n)).trans (Number.written_int_of_le _ h)

/-- The least number with more digits than are written. -/
def unwritten : Value := int (10 ^ wholeDigitLimit)

theorem display_unwritten : unwritten.display = .error .tooManyDigits := by
  apply display_int_of_le
  rw [Int.natAbs_pow, show (10 : ℤ).natAbs = 10 from rfl]

end Value

end EcmaTree
