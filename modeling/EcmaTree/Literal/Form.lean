import EcmaTree.Text.Basic

/-!
# The forms of literals

What a literal token can look like, as data: a keyword, a quoted string, or a number with an
optional minus sign. Every form has one spelling, and a form keeps everything of its spelling, so
that `Form.spelling` is a printer and the literal language is the set of spellings of well-formed
forms. What a form means is the subject of `EcmaTree.Literal.Value`.
-/

namespace EcmaTree

/-- The two marks that can enclose a string. -/
inductive Quote where
  /-- The quotation mark `"`. -/
  | double
  /-- The apostrophe. -/
  | single
deriving DecidableEq

/-- The code point of a quote. -/
def Quote.mark : Quote → CodePoint
  | double => '"'
  | single => '\''

/-- One item between the quotes of a string. -/
inductive StringItem where
  /-- A code point that stands for itself. -/
  | plain (c : CodePoint)
  /-- A backslash and the code point behind it. -/
  | escaped (c : CodePoint)
  /-- A backslash, a carriage return and a line feed. -/
  | escapedLineEnd
deriving DecidableEq

/-- The code points of an item. -/
def StringItem.spelling : StringItem → Text
  | plain c => [c]
  | escaped c => ['\\', c]
  | escapedLineEnd => ['\\', CodePoint.carriageReturn, CodePoint.lineFeed]

/-- The bases of integers written with a marker. -/
inductive Radix where
  /-- Base sixteen, marker `x`. -/
  | hexadecimal
  /-- Base eight, marker `o`. -/
  | octal
  /-- Base two, marker `b`. -/
  | binary
deriving DecidableEq

namespace Radix

/-- The base. -/
def base : Radix → Nat
  | hexadecimal => 16
  | octal => 8
  | binary => 2

/-- Whether the code point announces the base; either case of the letter does. -/
def isMarker (c : CodePoint) : Radix → Bool
  | hexadecimal => c = 'x' || c = 'X'
  | octal => c = 'o' || c = 'O'
  | binary => c = 'b' || c = 'B'

end Radix

/-- The exponent part of a decimal numeral. -/
structure ExponentPart where
  /-- The letter `e` or `E`. -/
  marker : CodePoint
  /-- The sign, when one is written. -/
  sign : Option CodePoint
  /-- The digits, of any script. -/
  digits : Text
deriving DecidableEq

/-- The code points of an exponent part. -/
def ExponentPart.spelling (e : ExponentPart) : Text := e.marker :: (e.sign.toList ++ e.digits)

/-- A numeral in base ten. -/
structure DecimalNumeral where
  /-- The digits in front of the point, of any script. -/
  whole : Text
  /-- Whether a point is written. -/
  hasPoint : Bool
  /-- The digits behind the point. -/
  fraction : Text
  /-- The exponent part, when one is written. -/
  exponent : Option ExponentPart
deriving DecidableEq

/-- The code points of a decimal numeral. -/
def DecimalNumeral.spelling (d : DecimalNumeral) : Text :=
  d.whole ++ (if d.hasPoint then Text.ofString "." ++ d.fraction else [])
    ++ (match d.exponent with
      | some e => e.spelling
      | none => [])

/-- A number without its sign. -/
inductive Numeral where
  /-- The word `NaN`. -/
  | nan
  /-- The word `Infinity`. -/
  | infinity
  /-- The digit zero, the marker of a base, and digits of that base. -/
  | inRadix (radix : Radix) (marker : CodePoint) (digits : Text)
  /-- Base ten. -/
  | decimal (numeral : DecimalNumeral)
deriving DecidableEq

/-- The code points of a numeral. -/
def Numeral.spelling : Numeral → Text
  | nan => Text.ofString "NaN"
  | infinity => Text.ofString "Infinity"
  | inRadix _ marker digits => '0' :: marker :: digits
  | decimal d => d.spelling

/-- A literal as it is written. -/
inductive LiteralForm where
  /-- The word `null`. -/
  | null
  /-- The word `true` or `false`. -/
  | boolean (b : Bool)
  /-- Items between two quotes. -/
  | string (quote : Quote) (items : List StringItem)
  /-- A numeral, behind a minus sign if `negative`. -/
  | number (negative : Bool) (numeral : Numeral)
deriving DecidableEq

/-- The code points of a literal. -/
def LiteralForm.spelling : LiteralForm → Text
  | null => Text.ofString "null"
  | boolean b => if b then Text.ofString "true" else Text.ofString "false"
  | string quote items => quote.mark :: (items.flatMap StringItem.spelling ++ [quote.mark])
  | number negative numeral => (if negative then Text.ofString "-" else []) ++ numeral.spelling

end EcmaTree
