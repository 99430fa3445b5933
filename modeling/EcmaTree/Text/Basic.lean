/-!
# Texts as sequences of code points

Source text, token text and messages are sequences of Unicode code points. Surrogates are
allowed on their own, as they are in the strings of the language whose trees are built, so the
type is not `String`: `CodePoint` has no hole between `0xD800` and `0xDFFF`.

`Text.ofString` embeds Lean strings, which is how fixed texts are written down.
-/

namespace EcmaTree

/-- A code point, surrogates included. -/
structure CodePoint where
  /-- The number of the code point. -/
  toNat : Nat
  /-- The code space ends at `0x10FFFF`. -/
  isLt : toNat < 0x110000
deriving DecidableEq

namespace CodePoint

/-- The code point of a Unicode scalar value. -/
def ofChar (c : Char) : CodePoint where
  toNat := c.toNat
  isLt := by
    have valid := c.valid
    simp only [Char.toNat]
    rcases valid with low | high <;> omega

instance : Coe Char CodePoint := ⟨ofChar⟩

/-- The code point numbered `n`, if the code space reaches that far. -/
def ofNat? (n : Nat) : Option CodePoint :=
  if h : n < 0x110000 then some ⟨n, h⟩ else none

/-- A code point is determined by its number. -/
@[ext] theorem ext {c d : CodePoint} (h : c.toNat = d.toNat) : c = d := by
  cases c; cases d; simp_all

/-- The first half of a surrogate pair. -/
def isHighSurrogate (c : CodePoint) : Bool := 0xD800 ≤ c.toNat && c.toNat ≤ 0xDBFF

/-- The second half of a surrogate pair. -/
def isLowSurrogate (c : CodePoint) : Bool := 0xDC00 ≤ c.toNat && c.toNat ≤ 0xDFFF

/-- BACKSPACE. -/
def backspace : CodePoint := ⟨0x08, by decide⟩

/-- CHARACTER TABULATION. -/
def tab : CodePoint := ⟨0x09, by decide⟩

/-- LINE FEED. -/
def lineFeed : CodePoint := ⟨0x0A, by decide⟩

/-- LINE TABULATION. -/
def verticalTab : CodePoint := ⟨0x0B, by decide⟩

/-- FORM FEED. -/
def formFeed : CodePoint := ⟨0x0C, by decide⟩

/-- CARRIAGE RETURN. -/
def carriageReturn : CodePoint := ⟨0x0D, by decide⟩

/-- LINE SEPARATOR. -/
def lineSeparator : CodePoint := ⟨0x2028, by decide⟩

/-- PARAGRAPH SEPARATOR. -/
def paragraphSeparator : CodePoint := ⟨0x2029, by decide⟩

end CodePoint

/-- A finite sequence of code points. -/
abbrev Text := List CodePoint

namespace Text

/-- The code points of a string. -/
def ofString (s : String) : Text := s.toList.map CodePoint.ofChar

instance : Coe String Text := ⟨ofString⟩

/-- The parts with a separator between neighbours. -/
def joined (separator : Text) : List Text → Text
  | [] => []
  | [part] => part
  | part :: parts => part ++ separator ++ joined separator parts

end Text

end EcmaTree
