import EcmaTree.Number.Binary64

/-!
# Rounding to the nearest magnitude

`Magnitude.ofRatio? num den` is the magnitude nearest to `num / den`, the one of even rank when
two are equally near, and nothing when the ratio is so large that it rounds to infinity. The
other conversions are instances of it: `Binary64.ofInt` for integers and `Binary64.ofDecimal` for
`significand * 10 ^ exponent`.
-/

namespace EcmaTree

namespace Magnitude

/-- The rank nearest to `num / den` units, where ranks go on past the largest magnitude. The
quotient is cut to 53 binary places, which leaves a rank and a rest; the rest decides whether to
go to the next rank, which carries into the exponent by itself. -/
def nearestRank (num den : Nat) : Nat :=
  let dropped := (num / den).log2 - 52
  let step := Nat.pow 2 dropped * den
  let rank := dropped * 0x10000000000000 + num / step
  let rest := num % step
  if 2 * rest < step || 2 * rest = step && rank % 2 = 0 then rank else rank + 1

/-- The magnitude nearest to `num / den`, if that is not infinity. -/
def ofRatio? (num den : Nat) : Option Magnitude :=
  let rank := nearestRank (num * unitsPerOne) den
  if h : rank < 0x7FF0000000000000 then some ⟨rank, h⟩ else none

end Magnitude

namespace Binary64

/-- The number of the given sign nearest to `num / den`. -/
def ofRatio (negative : Bool) (num den : Nat) : Binary64 :=
  match Magnitude.ofRatio? num den with
  | some x => finite negative x
  | none => infinity negative

/-- The number nearest to an integer. -/
def ofInt (n : Int) : Binary64 := ofRatio (n < 0) n.natAbs 1

/-- The positive number nearest to `significand * 10 ^ exponent`. From `10 ^ 309` on everything is
infinite, and from `2 ^ -1075` down everything is zero; a negative power of ten is below the same
power of eight, so what the test for the latter catches is small enough. Both tests come first
because the exponent can be too large to take the power. -/
def ofDecimal (significand : Nat) (exponent : Int) : Binary64 :=
  if significand = 0 then finite false Magnitude.zero
  else if 309 ≤ exponent then infinity false
  else if significand.log2 + 1 + 3 * exponent < -1075 then finite false Magnitude.zero
  else if 0 ≤ exponent then ofRatio false (significand * Nat.pow 10 exponent.toNat) 1
  else ofRatio false significand (Nat.pow 10 exponent.natAbs)

end Binary64

end EcmaTree
