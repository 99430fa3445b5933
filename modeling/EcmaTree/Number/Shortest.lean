import EcmaTree.Number.Rounding
import EcmaTree.Text.Digits

/-!
# The shortest decimal that reads back

A binary64 number is written with the fewest significant digits from which `Binary64.ofDecimal`
gives the number back, and among the decimals of that length with the nearest one; of two equally
near ones the even is taken. Whether a decimal reads back is tested by reading it, so every
result of `Magnitude.shortest` does. Seventeen digits are always enough; the exact value stands
behind them to make the search total.
-/

namespace EcmaTree

/-- The decimal number `significand * 10 ^ exponent`. -/
structure Decimal where
  /-- The digits, read as one natural number. -/
  significand : Nat
  /-- The power of ten of the last digit. -/
  exponent : Int
deriving DecidableEq

namespace Magnitude

/-- Whether a decimal reads as the magnitude. -/
def isReadFrom (x : Magnitude) (d : Decimal) : Bool :=
  Binary64.ofDecimal d.significand d.exponent = .finite false x

/-- The position of the first digit: the least `k` such that a positive magnitude is below
`10 ^ k`. -/
def decimalPoint (x : Magnitude) : Int :=
  if unitsPerOne ≤ x.units then (digitsIn 10 (x.units / unitsPerOne)).length
  else 1 - ((digitsIn 10 ((unitsPerOne - 1) / x.units)).length : Int)

/-- The multiples of `10 ^ exponent` next to the magnitude, the nearer one first; of two equally
near ones the even one is first. -/
def neighbours (x : Magnitude) (exponent : Int) : List Decimal :=
  let num := if 0 ≤ exponent then x.units else x.units * Nat.pow 10 exponent.natAbs
  let den := if 0 ≤ exponent then unitsPerOne * Nat.pow 10 exponent.toNat else unitsPerOne
  let below := num / den
  let rest := num % den
  if 2 * rest < den || 2 * rest = den && below % 2 = 0 then
    [⟨below, exponent⟩, ⟨below + 1, exponent⟩]
  else [⟨below + 1, exponent⟩, ⟨below, exponent⟩]

/-- The exact value as a decimal. -/
def exactDecimal (x : Magnitude) : Decimal := ⟨x.units * Nat.pow 5 1074, -1074⟩

/-- The decimal next to the magnitude that reads as it, on the grid with the given number of
places. -/
def onGrid? (x : Magnitude) (digits : Nat) : Option Decimal :=
  (x.neighbours (x.decimalPoint - digits)).find? x.isReadFrom

/-- What is found at the first place from `start` on that has something, within `budget` places;
`last` if none of them has. -/
def searchFrom (found? : Nat → Option Decimal) (last : Decimal) : Nat → Nat → Decimal
  | 0, _ => last
  | budget + 1, start =>
    match found? start with
    | some d => d
    | none => searchFrom found? last budget (start + 1)

/-- The shortest decimal that reads as the magnitude. -/
def shortest (x : Magnitude) : Decimal := searchFrom x.onGrid? x.exactDecimal 17 1

end Magnitude

end EcmaTree
