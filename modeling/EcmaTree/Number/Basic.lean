import EcmaTree.Number.Binary64

/-!
# Numbers

A number is an integer of any size or a binary64 number. The two kinds compare by value.
-/

namespace EcmaTree

/-- An integer or a binary64 number. -/
inductive Number where
  /-- An integer. -/
  | int (n : Int)
  /-- A binary64 number. -/
  | float (x : Binary64)
deriving DecidableEq

/-- The number of digits up to which whole numbers are read and written in decimal. Leading zeros
count, a sign does not. -/
def wholeDigitLimit : Nat := 4300

namespace Number

/-- The negated number; integers have one zero, binary64 numbers two. -/
def neg : Number → Number
  | int n => int (-n)
  | float x => float x.neg

/-- Whether the number is a zero. -/
def isZero : Number → Bool
  | int n => n = 0
  | float x => x.isZero

/-- Equality of values, exact across the two kinds. -/
def equal : Number → Number → Bool
  | int m, int n => m = n
  | int m, float y => y.equalInt m
  | float x, int n => x.equalInt n
  | float x, float y => x.equal y

end Number

end EcmaTree
