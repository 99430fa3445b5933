import EcmaTree.Diagnostic.Span

/-!
# Message formats

A format is a text with directives, each a percent sign and the code point behind it. `%s` stands
for the next argument and `%%` for a percent sign. Every other directive stands for itself, and
so does `%s` when no argument is left. The text of an argument is not looked at again. A percent
sign at the end of a text, or in front of a line feed, starts no directive.

A format is filled from left to right, and there is no message if an argument that is asked for, or
the location in front, cannot be written. Arguments that are not asked for do not matter.
-/

namespace EcmaTree

namespace Format

/-- The text that a format stands for with the given arguments. -/
def fill (args : List Value) : Text → Except WritingError Text
  | [] => .ok []
  | [c] => .ok [c]
  | c :: d :: rest =>
    if c = '%' && d ≠ CodePoint.lineFeed then
      if d = 's' then
        match args with
        | [] => (fill [] rest).map fun t => c :: d :: t
        | arg :: args => do
          let written ← arg.display
          let others ← fill args rest
          return written ++ others
      else if d = '%' then (fill args rest).map fun t => d :: t
      else (fill args rest).map fun t => c :: d :: t
    else (fill args (d :: rest)).map fun t => c :: t

end Format

/-- Whether a location is worth mentioning: nothing, an unknown span and what does not count as
true are not. -/
def Value.isLocated : Value → Bool
  | .none => false
  | .span file line column endLine endColumn raw =>
    !Span.isUnknown ⟨file, line, column, endLine, endColumn, raw⟩
  | v => v.isTruthy

/-- A text behind a location, if the location is worth mentioning. -/
def Text.located (location : Value) (t : Text) : Except WritingError Text :=
  if location.isLocated then location.display.map fun place => place ++ Text.ofString ": " ++ t
  else .ok t

/-- A format with its arguments, behind a location. -/
def Format.message (location : Value) (format : Text) (args : List Value) :
    Except WritingError Text := do
  let filled ← Format.fill args format
  filled.located location

end EcmaTree
