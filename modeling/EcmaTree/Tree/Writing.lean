import EcmaTree.Number.Basic
import EcmaTree.Number.Style
import EcmaTree.Text.Digits

/-!
# What can be written

Values are written down in messages, in the names of synthetic parameters and as JSON. Not every
value can be: a whole number is written with all its digits, up to `wholeDigitLimit` of them, and
loosely typed material may lack a text where one is needed. `WritingError` has the causes, with the
name of the kind of what stands in the way, and `WritingError.message` words them.
-/

namespace EcmaTree

/-- A reason why a value is not written. -/
inductive WritingError where
  /-- A whole number has more digits than are written. -/
  | tooManyDigits
  /-- What a token is written as is of this kind, and no text. -/
  | tokenWithoutText (kind : String)
  /-- The file of a span is of this kind, and no text. -/
  | fileWithoutText (kind : String)
  /-- A value of this kind has no JSON text. -/
  | notData (kind : String)
  /-- A value of this kind cannot be a key in a JSON text. -/
  | notKey (kind : String)
deriving DecidableEq

/-- The wording of the reason. -/
def WritingError.message : WritingError → Text
  | tooManyDigits => Text.ofString "too many digits in a whole number"
  | tokenWithoutText kind =>
    Text.ofString "__str__ returned non-string (type " ++ Text.ofString kind ++ Text.ofString ")"
  | fileWithoutText kind =>
    Text.ofString "sequence item 0: expected str instance, " ++ Text.ofString kind
      ++ Text.ofString " found"
  | notData kind =>
    Text.ofString "Object of type " ++ Text.ofString kind
      ++ Text.ofString " is not JSON serializable"
  | notKey kind =>
    Text.ofString "keys must be str, int, float, bool or None, not " ++ Text.ofString kind

/-- The text of a number in a style. Whole numbers look the same in all styles. -/
def Number.written (style : NumberStyle) : Number → Except WritingError Text
  | int n =>
    if (digitsIn 10 n.natAbs).length ≤ wholeDigitLimit then .ok (Text.ofInt n)
    else .error .tooManyDigits
  | float x => .ok (style.format x)

end EcmaTree
