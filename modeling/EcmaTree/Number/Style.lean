import EcmaTree.Number.Shortest
import EcmaTree.Text.Digits

/-!
# Laying out decimals

How the digits of a number become text: where positional notation ends, how an exponent is
written, and what stands for the values that have no digits. These decisions are the fields of
`NumberStyle`; `NumberStyle.format` carries them out on the shortest digits of a binary64 number.

Three styles are in use. `NumberStyle.source` writes number tokens, and agrees with what the
runtime of the generated code prints for a number. `NumberStyle.message` writes numbers in
diagnostics, and `NumberStyle.json` writes them in JSON texts.
-/

namespace EcmaTree

/-- The decisions in writing a binary64 number. -/
structure NumberStyle where
  /-- The least power of ten of a first digit that is written positionally. -/
  leastPositional : Int
  /-- The greatest power of ten of a first digit that is written positionally. -/
  greatestPositional : Int
  /-- What follows the digits of a whole number in positional notation. -/
  wholeSuffix : Text
  /-- The least number of digits of an exponent. -/
  exponentPlaces : Nat
  /-- Whether a negative zero shows its sign. -/
  signsZero : Bool
  /-- The text of NaN. -/
  nanText : Text
  /-- The text of infinity. -/
  infinityText : Text

namespace NumberStyle

/-- Number tokens: positional from `10 ^ -6` up to `10 ^ 21`, whole numbers without a point, and
one zero. -/
def source : NumberStyle where
  leastPositional := -6
  greatestPositional := 20
  wholeSuffix := []
  exponentPlaces := 1
  signsZero := false
  nanText := Text.ofString "NaN"
  infinityText := Text.ofString "Infinity"

/-- Numbers in messages: positional from `10 ^ -4` up to `10 ^ 16`, whole numbers end in `.0`,
exponents have two digits at least, and zero keeps its sign. -/
def message : NumberStyle where
  leastPositional := -4
  greatestPositional := 15
  wholeSuffix := Text.ofString ".0"
  exponentPlaces := 2
  signsZero := true
  nanText := Text.ofString "nan"
  infinityText := Text.ofString "inf"

/-- Numbers in JSON texts: digits as in messages, NaN and infinity as in number tokens. -/
def json : NumberStyle :=
  { message with nanText := source.nanText, infinityText := source.infinityText }

end NumberStyle

/-- The code point of the digit zero. -/
def CodePoint.digitZero : CodePoint := CodePoint.ofDigit 0

/-- A run of `count` zeros. -/
def Text.zeros (count : Nat) : Text := List.replicate count CodePoint.digitZero

/-- The text without the zeros at its end. -/
def Text.trimZeros (digits : Text) : Text :=
  (digits.reverse.dropWhile (· = CodePoint.digitZero)).reverse

namespace NumberStyle

/-- Digits with the decimal point after the first `point` of them; missing places are zeros. -/
def positional (style : NumberStyle) (digits : Text) (point : Int) : Text :=
  if point ≤ 0 then
    Text.ofString "0." ++ Text.zeros point.natAbs ++ digits
  else if digits.length ≤ point.toNat then
    digits ++ Text.zeros (point.toNat - digits.length) ++ style.wholeSuffix
  else digits.take point.toNat ++ Text.ofString "." ++ digits.drop point.toNat

/-- The exponent mark, the sign and the digits of an exponent. -/
def exponent (style : NumberStyle) (e : Int) : Text :=
  let digits := Text.ofNat e.natAbs
  Text.ofString (if e < 0 then "e-" else "e+")
    ++ Text.zeros (style.exponentPlaces - digits.length) ++ digits

/-- One digit before the point, the others behind it, and the power of ten. -/
def scientific (style : NumberStyle) (digits : Text) (e : Int) : Text :=
  digits.take 1 ++ (if digits.length ≤ 1 then [] else Text.ofString "." ++ digits.drop 1)
    ++ style.exponent e

/-- Digits whose decimal point is after the first `point` of them, in the notation that their
size asks for. -/
def layout (style : NumberStyle) (digits : Text) (point : Int) : Text :=
  if style.leastPositional ≤ point - 1 && point - 1 ≤ style.greatestPositional then
    style.positional digits point
  else style.scientific digits (point - 1)

/-- A positive decimal. -/
def formatDecimal (style : NumberStyle) (d : Decimal) : Text :=
  let digits := Text.ofNat d.significand
  style.layout digits.trimZeros (digits.length + d.exponent)

/-- A finite size. -/
def formatMagnitude (style : NumberStyle) (x : Magnitude) : Text :=
  if x.rank = 0 then style.positional [CodePoint.digitZero] 1
  else style.formatDecimal x.shortest

/-- A minus sign in front of a negative number. -/
def signed (negative : Bool) (t : Text) : Text := if negative then Text.ofString "-" ++ t else t

/-- A binary64 number in the style. -/
def format (style : NumberStyle) : Binary64 → Text
  | .nan => style.nanText
  | .infinity negative => signed negative style.infinityText
  | .finite negative x =>
    signed (negative && (x.rank ≠ 0 || style.signsZero)) (style.formatMagnitude x)

end NumberStyle

end EcmaTree
