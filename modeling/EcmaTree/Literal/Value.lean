import EcmaTree.Literal.Escape
import EcmaTree.Literal.Scan
import EcmaTree.Number.Basic
import EcmaTree.Number.Rounding

/-!
# The values of literals

`LiteralValue.read` gives the value that a literal text stands for at run time. Whole numbers,
in any base, are integers of any size; decimal numerals with a point or an exponent are binary64
numbers, rounded correctly. A minus sign applies to the value, so `-0` is the integer zero and
`-0.0` the negative zero.
-/

namespace EcmaTree

/-- What a literal stands for. -/
inductive LiteralValue where
  /-- The value `null`. -/
  | null
  /-- A truth value. -/
  | boolean (b : Bool)
  /-- A number. -/
  | number (x : Number)
  /-- A text. -/
  | string (t : Text)
deriving DecidableEq

/-- The power of ten that an exponent part adds. -/
def ExponentPart.value (e : ExponentPart) : Int :=
  let size := Text.valueOf 10 CodePoint.decimalDigit? e.digits
  if e.sign = some (CodePoint.ofChar '-') then -(size : Int) else size

namespace DecimalNumeral

/-- Whether the numeral has neither point nor exponent, and so is an integer. -/
def isWhole (d : DecimalNumeral) : Bool := !d.hasPoint && d.exponent.isNone

/-- The power of ten of the last digit. -/
def lastPlace (d : DecimalNumeral) : Int :=
  (match d.exponent with
    | some e => e.value
    | none => 0) - d.fraction.length

/-- The number that a decimal numeral stands for. -/
def value (d : DecimalNumeral) : Except LiteralError Number :=
  let significand := Text.valueOf 10 CodePoint.decimalDigit? (d.whole ++ d.fraction)
  if d.isWhole then
    if wholeDigitLimit < d.whole.length then .error (.tooManyDigits d.whole.length)
    else .ok (.int significand)
  else .ok (.float (Binary64.ofDecimal significand d.lastPlace))

end DecimalNumeral

/-- The number that a numeral stands for. -/
def Numeral.value : Numeral → Except LiteralError Number
  | nan => .ok (.float .nan)
  | infinity => .ok (.float (.infinity false))
  | inRadix radix _ digits => .ok (.int (Text.valueOf radix.base CodePoint.hexDigit? digits))
  | decimal d => d.value

/-- The value that a literal form stands for. -/
def LiteralForm.value : LiteralForm → Except LiteralError LiteralValue
  | null => .ok .null
  | boolean b => .ok (.boolean b)
  | string _ items =>
    match Text.unescape (items.flatMap StringItem.spelling) with
    | .ok t => .ok (.string t)
    | .error e => .error e
  | number negative numeral =>
    match numeral.value with
    | .ok x => .ok (.number (if negative then x.neg else x))
    | .error e => .error e

/-- The value that a literal text stands for. -/
def LiteralValue.read (t : Text) : Except LiteralError LiteralValue :=
  match LiteralForm.parse t with
  | .ok form => form.value
  | .error column => .error (.invalid t column)

end EcmaTree
