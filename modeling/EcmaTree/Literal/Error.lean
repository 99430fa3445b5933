import EcmaTree.Text.Quoted

/-!
# What can be wrong with a literal

The reasons why a text has no literal value, each with what is needed to point at the fault.
`LiteralError.message` words them.
-/

namespace EcmaTree

/-- A reason why a text has no literal value. Columns count code points from one. -/
inductive LiteralError where
  /-- The text is not a literal. -/
  | invalid (text : Text) (column : Nat)
  /-- An escape `\x` or `\u`, named by its letter, without the digits it needs. -/
  | malformedEscape (letter : CodePoint) (column : Nat)
  /-- An escape for a number behind the code space. -/
  | outOfRange (escape : Text) (column : Nat)
  /-- A whole decimal number with more digits than are read. -/
  | tooManyDigits (count : Nat)
deriving DecidableEq

namespace LiteralError

/-- The wording of the error. -/
def message : LiteralError → Text
  | invalid text _ => Text.ofString "invalid literal " ++ text.quoted
  | malformedEscape letter _ =>
    Text.ofString "malformed \\" ++ [letter] ++ Text.ofString " escape"
  | outOfRange escape _ => Text.ofString "code point escape out of range: " ++ escape.quoted
  | tooManyDigits count =>
    Text.ofString "too many digits in a whole number: " ++ Text.ofNat count

/-- The column of the fault, for the errors that have a place. -/
def column? : LiteralError → Option Nat
  | invalid _ column => some column
  | malformedEscape _ column => some column
  | outOfRange _ column => some column
  | tooManyDigits _ => none

end LiteralError

end EcmaTree
