import EcmaTree.Literal.Form
import EcmaTree.Text.Digits
import EcmaTree.Unicode.DecimalDigit

/-!
# Recognising literals

`LiteralForm.scan?` takes the longest literal off the front of a text, and
`LiteralForm.parse` accepts a text that is one literal and nothing else. A refused text is
reported by a column: that of the first code point behind the longest literal at the front, where
only line feeds start a new line. A minus sign that no number follows counts as accepted if
anything at all follows it.
-/

namespace EcmaTree

namespace Text

/-- What is left of the text behind `lead`, if the text starts with it. -/
def after? : Text → Text → Option Text
  | [], t => some t
  | _ :: _, [] => none
  | c :: lead, d :: t => if c = d then after? lead t else none

/-- The column behind a text that starts in column one. -/
def columnAfter (t : Text) : Nat :=
  (t.reverse.takeWhile (· ≠ CodePoint.lineFeed)).length + 1

end Text

/-- Whether the code point is a decimal digit of any script. -/
def CodePoint.isDecimalDigit (c : CodePoint) : Bool := c.decimalDigit?.isSome

/-! ### Numbers -/

/-- A numeral of the given base at the front of a text. -/
def Radix.scan? (radix : Radix) : Text → Option (Numeral × Text)
  | zero :: marker :: rest =>
    let isDigit := fun c : CodePoint => (c.digitIn? radix.base).isSome
    if zero = '0' && radix.isMarker marker && !(rest.takeWhile isDigit).isEmpty then
      some (.inRadix radix marker (rest.takeWhile isDigit), rest.dropWhile isDigit)
    else none
  | _ => none

/-- An optional sign at the front of a text. -/
def scanSign : Text → Option CodePoint × Text
  | [] => (none, [])
  | c :: rest => if c = '+' || c = '-' then (some c, rest) else (none, c :: rest)

/-- The exponent part at the front of a text, if its digits are there. -/
def ExponentPart.scan : Text → Option ExponentPart × Text
  | [] => (none, [])
  | c :: rest =>
    let unsigned := scanSign rest
    let digits := unsigned.2.takeWhile CodePoint.isDecimalDigit
    if (c = 'e' || c = 'E') && !digits.isEmpty then
      (some ⟨c, unsigned.1, digits⟩, unsigned.2.dropWhile CodePoint.isDecimalDigit)
    else (none, c :: rest)

/-- The point and the digits behind it at the front of a text. -/
def scanFraction : Text → Option Text × Text
  | [] => (none, [])
  | c :: rest =>
    if c = '.' then
      (some (rest.takeWhile CodePoint.isDecimalDigit), rest.dropWhile CodePoint.isDecimalDigit)
    else (none, c :: rest)

/-- A decimal numeral at the front of a text. One digit at least stands before or behind the
point. -/
def DecimalNumeral.scan? (t : Text) : Option (DecimalNumeral × Text) :=
  let whole := t.takeWhile CodePoint.isDecimalDigit
  let fraction := scanFraction (t.dropWhile CodePoint.isDecimalDigit)
  if whole.isEmpty && (fraction.1.getD []).isEmpty then none
  else
    let exponent := ExponentPart.scan fraction.2
    some (⟨whole, fraction.1.isSome, fraction.1.getD [], exponent.1⟩, exponent.2)

/-- A word at the front of a text, read as `value`. -/
def scanWord? {α : Type} (word : String) (value : α) (t : Text) : Option (α × Text) :=
  ((Text.ofString word).after? t).map fun rest => (value, rest)

/-- A numeral at the front of a text; `0` followed by the marker of a base and a digit of it is
not a decimal zero. -/
def Numeral.scan? (t : Text) : Option (Numeral × Text) :=
  scanWord? "NaN" .nan t
    <|> scanWord? "Infinity" .infinity t
    <|> Radix.hexadecimal.scan? t
    <|> Radix.octal.scan? t
    <|> Radix.binary.scan? t
    <|> (DecimalNumeral.scan? t).map fun found => (.decimal found.1, found.2)

/-- A numeral with an optional minus sign at the front of a text. -/
def LiteralForm.scanNumber? : Text → Option (LiteralForm × Text)
  | [] => none
  | c :: rest =>
    if c = '-' then (Numeral.scan? rest).map fun found => (.number true found.1, found.2)
    else (Numeral.scan? (c :: rest)).map fun found => (.number false found.1, found.2)

/-! ### Strings -/

/-- Puts an item in front of the items found behind it. -/
def StringItem.onto (item : StringItem) :
    Option (List StringItem × Text) → Option (List StringItem × Text)
  | some (items, rest) => some (item :: items, rest)
  | none => none

/-- The items up to the closing quote, and what is left behind it. Line ends are not allowed but
after a backslash. -/
def StringItem.scan? (quote : Quote) : Text → Option (List StringItem × Text)
  | [] => none
  | c :: rest =>
    if c = quote.mark then some ([], rest)
    else if c = '\\' then
      match rest with
      | [] => none
      | [_] => none
      | d :: e :: behind =>
        if d = CodePoint.carriageReturn && e = CodePoint.lineFeed then
          StringItem.escapedLineEnd.onto (StringItem.scan? quote behind)
        else (StringItem.escaped d).onto (StringItem.scan? quote (e :: behind))
    else if c = CodePoint.lineFeed || c = CodePoint.carriageReturn then none
    else (StringItem.plain c).onto (StringItem.scan? quote rest)

/-- A string in the given quotes at the front of a text. -/
def Quote.scan? (quote : Quote) : Text → Option (LiteralForm × Text)
  | [] => none
  | c :: rest =>
    if c = quote.mark then
      (StringItem.scan? quote rest).map fun found => (.string quote found.1, found.2)
    else none

/-! ### Literals -/

namespace LiteralForm

/-- The longest literal at the front of a text, and what is left behind it. -/
def scan? (t : Text) : Option (LiteralForm × Text) :=
  Quote.double.scan? t
    <|> Quote.single.scan? t
    <|> scanWord? "true" (.boolean true) t
    <|> scanWord? "false" (.boolean false) t
    <|> scanWord? "null" .null t
    <|> scanNumber? t

/-- The column of the fault in a text that does not start with a literal. -/
def columnWithoutLiteral : Text → Nat
  | c :: _ :: _ => if c = '-' then 2 else 1
  | _ => 1

/-- The literal that the whole text spells, or the column where it stops being one. -/
def parse (t : Text) : Except Nat LiteralForm :=
  match scan? t with
  | some (form, []) => .ok form
  | some (form, _ :: _) => .error form.spelling.columnAfter
  | none => .error (columnWithoutLiteral t)

end LiteralForm

end EcmaTree
