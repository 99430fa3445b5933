import EcmaTree.Build.Parameters
import EcmaTree.Build.Predefined
import EcmaTree.Proofs.Fallible
import EcmaTree.Proofs.Tree.Writing
import Mathlib.Data.List.Nodup

/-!
# The names of synthetic parameters

A function that needs a number of parameters gets the names `$0`, `$1` and so on (`nameAt`).  The
names are identifiers, no two of them are the same because a number can be read back from its digits
(`nameAt_injective`), and none is the reserved name `$state`, which has no digit behind the dollar
sign.

A name is written with the digits of its number, and a number with too many digits is not written
(`nameOf_int`, `nameOf_int_of_le`).  Lists of synthetic parameters are therefore made up to a length
of `10 ^ wholeDigitLimit` and not beyond (`positional_eq`, `positional_eq_error`).
-/

namespace EcmaTree

theorem Text.ofNat_injective : Function.Injective ofNat :=
  Function.LeftInverse.injective valueOf_ofNat

namespace Parameters

/-! ### The names -/

/-- The name of the synthetic parameter at a position. -/
def nameAt (i : ℕ) : Text := CodePoint.ofChar '$' :: Text.ofNat i

/-- A number that can be written makes a name. -/
theorem nameOf_int {n : ℤ} (h : n.natAbs < 10 ^ wholeDigitLimit) :
    nameOf (.int n) = .ok (CodePoint.ofChar '$' :: Text.ofInt n) := by
  rw [nameOf, Value.display_int h]
  rfl

/-- No other number makes one. -/
theorem nameOf_int_of_le {n : ℤ} (h : 10 ^ wholeDigitLimit ≤ n.natAbs) :
    nameOf (.int n) = .error (.writing .tooManyDigits) := by
  rw [nameOf, Value.display_int_of_le h]
  rfl

theorem nameOf_natCast {i : ℕ} (h : i < 10 ^ wholeDigitLimit) :
    nameOf (.int i) = .ok (nameAt i) := nameOf_int h

theorem nameAt_injective : Function.Injective nameAt := by
  intro i j h
  exact Text.ofNat_injective (List.cons.inj h).2

/-- A dollar sign and digits make an identifier. -/
theorem isIdentifierName_nameAt (i : ℕ) : (nameAt i).isIdentifierName = true := by
  have hdigit : ∀ d < 10, (CodePoint.ofDigit d).isIdentifierPart = true := by
    decide +kernel
  have hrest : (Text.ofNat i).all CodePoint.isIdentifierPart = true := by
    rw [List.all_eq_true]
    intro c hc
    obtain ⟨d, hd, rfl⟩ := Text.exists_ofDigit_of_mem_ofNat hc
    exact hdigit d hd
  exact Bool.and_eq_true_iff.mpr ⟨rfl, hrest⟩

/-- The letter `s` behind the dollar sign is no digit. -/
theorem nameAt_ne_state (i : ℕ) : nameAt i ≠ Predefined.state := by
  intro h
  have hdigits : Text.ofNat i = Text.ofString "state" := (List.cons.inj h).2
  have hs : CodePoint.ofChar 's' ∈ Text.ofNat i := by
    rw [hdigits]
    exact List.mem_cons_self
  obtain ⟨d, hd, heq⟩ := Text.exists_ofDigit_of_mem_ofNat hs
  have hnumber := congrArg CodePoint.toNat heq
  rw [CodePoint.toNat_ofDigit hd] at hnumber
  change 0x73 = 0x30 + d at hnumber
  omega

/-- The names of the first few synthetic parameters. -/
def names (count : ℕ) : List Text := (List.range count).map nameAt

theorem length_names (count : ℕ) : (names count).length = count := by
  rw [names, List.length_map, List.length_range]

theorem getElem_names {count i : ℕ} (h : i < (names count).length) :
    (names count)[i] = nameAt i := by
  simp only [names, List.getElem_map, List.getElem_range]

theorem nodup_names (count : ℕ) : (names count).Nodup := List.nodup_range.map nameAt_injective

/-! ### The parameters -/

/-- The synthetic parameter at a position among `count`, once its name is written. -/
def parameterAt (withRest : Bool) (count i : ℕ) : Value :=
  if withRest && i + 1 = count then restElement (nameAt i) else element (nameAt i)

theorem elementAt_eq (withRest : Bool) (count : ℕ) {i : ℕ} (h : i < 10 ^ wholeDigitLimit) :
    elementAt withRest count i = .ok (parameterAt withRest count i) := by
  rw [elementAt, nameOf_natCast h]
  rfl

/-- A list is made if each position in it can be written, and it has a parameter for each. -/
theorem positional_eq (withRest : Bool) {n : ℤ} (h : n ≤ 10 ^ wholeDigitLimit) :
    positional withRest n
      = .ok (listOf ((List.range n.toNat).map (parameterAt withRest n.toNat))) := by
  have helements : (List.range n.toNat).mapM (elementAt withRest n.toNat)
      = .ok ((List.range n.toNat).map (parameterAt withRest n.toNat)) := by
    apply mapM_eq_ok
    intro i hi
    have hcount : n.toNat ≤ 10 ^ wholeDigitLimit := by
      rw [Int.toNat_le, Nat.cast_pow]
      exact h
    exact elementAt_eq _ _ ((List.mem_range.mp hi).trans_le hcount)
  rw [positional, helements]
  rfl

/-- A longer list breaks off at the first position that cannot be written. -/
theorem positional_eq_error (withRest : Bool) {n : ℤ} (h : 10 ^ wholeDigitLimit < n) :
    positional withRest n = .error (.writing .tooManyDigits) := by
  have hposition : ∀ i : ℕ, 10 ^ wholeDigitLimit ≤ i →
      elementAt withRest n.toNat i = .error (.writing .tooManyDigits) := by
    intro i hi
    rw [elementAt, nameOf_int_of_le (n := i) hi]
    rfl
  have helements : (List.range n.toNat).mapM (elementAt withRest n.toNat)
      = .error (.writing .tooManyDigits) := by
    refine mapM_eq_error (fun i _ => ?_) (a := 10 ^ wholeDigitLimit) (List.mem_range.mpr ?_)
      (hposition _ (le_refl _))
    · rcases lt_or_ge i (10 ^ wholeDigitLimit) with hi | hi
      · exact .inr ⟨_, elementAt_eq _ _ hi⟩
      · exact .inl (hposition i hi)
    · rw [Int.lt_toNat, Nat.cast_pow]
      exact h
  rw [positional, helements]
  rfl

end Parameters

end EcmaTree
