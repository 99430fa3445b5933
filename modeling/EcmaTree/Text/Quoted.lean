import EcmaTree.Text.Digits
import EcmaTree.Unicode.Printable

/-!
# Quoted texts in messages

A text shown in a message stands between single quotes, or between double quotes when it holds a
single quote and no double one. Inside, the backslash and the quote in use follow a backslash,
line ends and tabs are written `\n`, `\r` and `\t`, and every other code point that is not
printable is written by its number, in the shortest of the forms `\xhh`, `\uhhhh` and
`\Uhhhhhhhh`.
-/

namespace EcmaTree.Text

/-- The quote for showing a text. -/
def displayQuote (t : Text) : CodePoint :=
  if t.contains (CodePoint.ofChar '\'') && !t.contains (CodePoint.ofChar '"') then '"' else '\''

/-- A code point by its number. -/
def numericEscape (c : CodePoint) : Text :=
  if c.toNat < 0x100 then ofString "\\x" ++ hex 2 c.toNat
  else if c.toNat < 0x10000 then ofString "\\u" ++ hex 4 c.toNat
  else ofString "\\U" ++ hex 8 c.toNat

/-- A code point as it stands between `quote`s. -/
def displayed (quote c : CodePoint) : Text :=
  if c = quote || c = '\\' then ofString "\\" ++ [c]
  else if c = CodePoint.lineFeed then ofString "\\n"
  else if c = CodePoint.carriageReturn then ofString "\\r"
  else if c = CodePoint.tab then ofString "\\t"
  else if c.isPrintable then [c]
  else numericEscape c

/-- The text in quotes, for showing it in a message. -/
def quoted (t : Text) : Text :=
  [t.displayQuote] ++ t.flatMap (displayed t.displayQuote) ++ [t.displayQuote]

end EcmaTree.Text
