import EcmaTree.Text.Basic

/-!
# Sixteen-bit units and surrogate pairs

A code point above `0xFFFF` is two 16-bit units, a high and a low surrogate; every other code
point, a surrogate included, is one unit. `Text.units` takes a text apart and `Text.ofUnits`
puts units together again, pairing a high surrogate with a low one directly behind it. The two
together, `Text.joinSurrogates`, replace every such pair by the code point it encodes and leave
all other code points, lone surrogates among them, alone.
-/

namespace EcmaTree

/-- A 16-bit unit. -/
structure CodeUnit where
  /-- The number of the unit. -/
  toNat : Nat
  /-- Units have sixteen bits. -/
  isLt : toNat < 0x10000
deriving DecidableEq

namespace CodeUnit

/-- A unit is determined by its number. -/
@[ext] theorem ext {u v : CodeUnit} (h : u.toNat = v.toNat) : u = v := by
  cases u; cases v; simp_all

/-- The first half of a pair. -/
def isHigh (u : CodeUnit) : Bool := 0xD800 ≤ u.toNat && u.toNat ≤ 0xDBFF

/-- The second half of a pair. -/
def isLow (u : CodeUnit) : Bool := 0xDC00 ≤ u.toNat && u.toNat ≤ 0xDFFF

/-- The code point of the same number. -/
def alone (u : CodeUnit) : CodePoint := ⟨u.toNat, by have := u.isLt; omega⟩

/-- The code point above `0xFFFF` that `high` and `low` encode; ten bits come from each. -/
def pair (high low : CodeUnit) : CodePoint :=
  ⟨0x10000 + high.toNat % 0x400 * 0x400 + low.toNat % 0x400, by omega⟩

end CodeUnit

/-- The one or two units of a code point. -/
def CodePoint.units (c : CodePoint) : List CodeUnit :=
  if h : c.toNat < 0x10000 then [⟨c.toNat, h⟩]
  else
    have bound := c.isLt
    [⟨0xD800 + (c.toNat - 0x10000) / 0x400, by omega⟩,
      ⟨0xDC00 + (c.toNat - 0x10000) % 0x400, by omega⟩]

namespace Text

/-- The units of a text, in order. -/
def units (t : Text) : List CodeUnit := t.flatMap CodePoint.units

/-- The text of a sequence of units: a high surrogate and a low one directly behind it are one
code point, every other unit stands for itself. -/
def ofUnits : List CodeUnit → Text
  | [] => []
  | [u] => [u.alone]
  | u :: v :: rest =>
    if u.isHigh && v.isLow then u.pair v :: ofUnits rest else u.alone :: ofUnits (v :: rest)

/-- The text with every adjacent surrogate pair joined. -/
def joinSurrogates (t : Text) : Text := ofUnits t.units

end Text

end EcmaTree
