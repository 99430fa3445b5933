/-!
# Binary64 floating-point numbers

`Binary64` is the set of IEEE 754 binary64 data with one NaN. A finite number is a sign and a
`Magnitude`. Magnitudes are numbered in increasing order, zero first; the rank of a magnitude is
its exponent and fraction fields read as one number. Every magnitude is a whole number of
*units* of `2 ^ -1074`, the smallest positive one, so that `Magnitude.units` gives values exactly
in natural numbers and no rational arithmetic is needed to compare them.

`Binary64.ofBits` and `Binary64.toBits` convert from and to the interchange format.
-/

namespace EcmaTree

/-- The number of units in one. -/
def unitsPerOne : Nat := Nat.pow 2 1074

/-- The size of a finite binary64 number. -/
structure Magnitude where
  /-- How many magnitudes are smaller. -/
  rank : Nat
  /-- The rank after the last belongs to infinity. -/
  isLt : rank < 0x7FF0000000000000
deriving DecidableEq

namespace Magnitude

/-- A magnitude is determined by its rank. -/
@[ext] theorem ext {x y : Magnitude} (h : x.rank = y.rank) : x = y := by
  cases x; cases y; simp_all

/-- The size zero. -/
def zero : Magnitude := ⟨0, by decide⟩

/-- The value in units. The first `2 ^ 53` magnitudes are one unit apart; after that the distance
doubles with every `2 ^ 52` magnitudes. -/
def units (x : Magnitude) : Nat :=
  if x.rank < 0x10000000000000 then x.rank
  else
    (0x10000000000000 + x.rank % 0x10000000000000)
      * Nat.pow 2 (x.rank / 0x10000000000000 - 1)

end Magnitude

/-- A binary64 datum. -/
inductive Binary64 where
  /-- Not a number. -/
  | nan
  /-- An infinity, `-∞` if `negative`. -/
  | infinity (negative : Bool)
  /-- A finite number. Zero has both signs. -/
  | finite (negative : Bool) (magnitude : Magnitude)
deriving DecidableEq

namespace Binary64

/-- The datum with the given interchange format, sign bit first. -/
def ofBits (bits : Nat) : Binary64 :=
  let negative : Bool := bits / 0x8000000000000000 % 2 = 1
  let rank := bits % 0x8000000000000000
  if h : rank < 0x7FF0000000000000 then finite negative ⟨rank, h⟩
  else if rank = 0x7FF0000000000000 then infinity negative
  else nan

/-- The sign bit in its place. -/
def signBit (negative : Bool) : Nat := if negative then 0x8000000000000000 else 0

/-- The interchange format; NaN is quiet, positive and without payload. -/
def toBits : Binary64 → Nat
  | nan => 0x7FF8000000000000
  | infinity negative => signBit negative + 0x7FF0000000000000
  | finite negative x => signBit negative + x.rank

/-- The number of the opposite sign. -/
def neg : Binary64 → Binary64
  | nan => nan
  | infinity negative => infinity (!negative)
  | finite negative x => finite (!negative) x

/-- Whether the number is a zero of either sign. -/
def isZero : Binary64 → Bool
  | finite _ x => x.rank = 0
  | _ => false

/-- Numerical equality: NaN differs from itself and the two zeros are equal. -/
def equal : Binary64 → Binary64 → Bool
  | nan, _ => false
  | x, y => x = y || x.isZero && y.isZero

/-- Whether the number has exactly the value `n`. -/
def equalInt (x : Binary64) (n : Int) : Bool :=
  match x with
  | finite negative m =>
    m.units = n.natAbs * unitsPerOne && (n = 0 || negative = decide (n < 0))
  | _ => false

end Binary64

end EcmaTree
