import EcmaTree.Text.Basic

/-!
# Numbers as digits

Writing a natural number in a base, and reading digits back. `digitsIn base n` lists the digits
of `n`, most significant first, without leading zeros (`0` is the single digit `0`);
`Text.ofNat` spells them in decimal and `Text.hex` in a fixed number of hexadecimal places.
`Text.valueOf` reads digits under any reading of code points as digits.
-/

namespace EcmaTree

/-- The digits of `n` in `base`, most significant first, as long as `fuel` lasts. -/
def digitsWithin (base : Nat) : Nat → Nat → List Nat
  | 0, _ => []
  | fuel + 1, n => if n < base then [n] else digitsWithin base fuel (n / base) ++ [n % base]

/-- The digits of `n` in `base`, most significant first. A number has no more digits in a base
above one than it has binary places, which bounds the recursion. -/
def digitsIn (base n : Nat) : List Nat := digitsWithin base (n.log2 + 1) n

/-- The digit `d` of a base up to sixteen, letters in lower case. -/
def CodePoint.ofDigit (d : Nat) : CodePoint :=
  if h : d < 10 then ⟨0x30 + d, by omega⟩ else ⟨0x57 + d % 16, by omega⟩

/-- The value of an ASCII hexadecimal digit. -/
def CodePoint.hexDigit? (c : CodePoint) : Option Nat :=
  if 0x30 ≤ c.toNat && c.toNat ≤ 0x39 then some (c.toNat - 0x30)
  else if 0x41 ≤ c.toNat && c.toNat ≤ 0x46 then some (c.toNat - 0x37)
  else if 0x61 ≤ c.toNat && c.toNat ≤ 0x66 then some (c.toNat - 0x57)
  else none

/-- The value of an ASCII digit of a base up to sixteen. -/
def CodePoint.digitIn? (base : Nat) (c : CodePoint) : Option Nat :=
  match c.hexDigit? with
  | some d => if d < base then some d else none
  | none => none

namespace Text

/-- A natural number in decimal. -/
def ofNat (n : Nat) : Text := (digitsIn 10 n).map CodePoint.ofDigit

/-- An integer in decimal, with a leading minus sign when negative. -/
def ofInt : Int → Text
  | .ofNat n => ofNat n
  | .negSucc n => '-' :: ofNat (n + 1)

/-- The lowest `width` hexadecimal places of a number. -/
def hex : Nat → Nat → Text
  | 0, _ => []
  | width + 1, n => hex width (n / 16) ++ [CodePoint.ofDigit (n % 16)]

/-- The number that digits spell in `base`, continuing from `start`; `digit?` gives the value of
each code point, and a code point without one counts as zero. -/
def valueFrom (base : Nat) (digit? : CodePoint → Option Nat) (start : Nat) : Text → Nat
  | [] => start
  | c :: rest => valueFrom base digit? (start * base + (digit? c).getD 0) rest

/-- The number that digits spell in `base`. -/
def valueOf (base : Nat) (digit? : CodePoint → Option Nat) (digits : Text) : Nat :=
  valueFrom base digit? 0 digits

end Text

end EcmaTree
