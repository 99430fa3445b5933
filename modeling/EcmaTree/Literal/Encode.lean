import EcmaTree.Number.Basic
import EcmaTree.Number.Style
import EcmaTree.Text.Units

/-!
# Writing literals

The texts of generated literal tokens. `Text.stringLiteral` writes any text between double quotes
with printable ASCII alone: everything outside `U+0020 … U+007E` is escaped, units above ASCII
as `\uhhhh` one by one. `Number.source` writes numbers as the runtime of the generated code
prints them; integers below `10 ^ 21` keep all their digits, larger ones become binary64 numbers
first.
-/

namespace EcmaTree

/-- A 16-bit unit as an escape. -/
def CodeUnit.escaped (u : CodeUnit) : Text := Text.ofString "\\u" ++ Text.hex 4 u.toNat

/-- A code point as it stands in a generated string literal. -/
def CodePoint.inStringLiteral (c : CodePoint) : Text :=
  if c = '"' then Text.ofString "\\\""
  else if c = '\\' then Text.ofString "\\\\"
  else if c = backspace then Text.ofString "\\b"
  else if c = formFeed then Text.ofString "\\f"
  else if c = lineFeed then Text.ofString "\\n"
  else if c = carriageReturn then Text.ofString "\\r"
  else if c = tab then Text.ofString "\\t"
  else if 0x20 ≤ c.toNat && c.toNat ≤ 0x7E then [c]
  else c.units.flatMap CodeUnit.escaped

/-- The string literal for a text. -/
def Text.stringLiteral (t : Text) : Text :=
  Text.ofString "\"" ++ t.flatMap CodePoint.inStringLiteral ++ Text.ofString "\""

/-- Integers of this size and above are written as binary64 numbers. -/
def exactIntegerBound : Nat := 1000000000000000000000

/-- The text of a number in source code. -/
def Number.source : Number → Text
  | int n =>
    if n.natAbs < exactIntegerBound then Text.ofInt n
    else NumberStyle.source.format (Binary64.ofInt n)
  | float x => NumberStyle.source.format x

end EcmaTree
