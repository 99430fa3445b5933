import EcmaTree.Tree.Display

/-!
# Spans of source text

What diagnostics know about a place in source text. A span is made from whatever location a
caller has: spans stay as they are, and from any other location the attributes that it has are
taken over, with the location itself kept as `raw`.
-/

namespace EcmaTree

/-- A place in source text, as far as it is known. -/
structure Span where
  /-- The file. -/
  file : Value := .none
  /-- The line of the start. -/
  line : Value := .none
  /-- The column of the start. -/
  column : Value := .none
  /-- The line of the end. -/
  endLine : Value := .none
  /-- The column of the end. -/
  endColumn : Value := .none
  /-- The location that the span was made from. -/
  raw : Value := .none

/-- The attribute of a location object, or nothing. -/
def Value.attributeAt (key : PlaceAttribute) : Value → Value
  | .place _ attributes =>
    match attributes.find? fun entry => entry.1 = key with
    | some entry => entry.2
    | Option.none => .none
  | _ => .none

namespace Span

/-- The span of no place. -/
def unknown : Span := {}

/-- The file of a location object, under either name; a file that does not count as true is
none. -/
def fileOf (location : Value) : Value :=
  if (location.attributeAt .file).isTruthy then location.attributeAt .file
  else if (location.attributeAt .fileName).isTruthy then location.attributeAt .fileName
  else .none

/-- The span of a location. -/
def ofLocation : Value → Span
  | .none => unknown
  | .span file line column endLine endColumn raw => ⟨file, line, column, endLine, endColumn, raw⟩
  | location => {
    file := fileOf location
    line := location.attributeAt .line
    column := location.attributeAt .column
    endLine := location.attributeAt .endLine
    endColumn := location.attributeAt .endColumn
    raw := location }

/-- The span as a value. -/
def toValue (s : Span) : Value := .span s.file s.line s.column s.endLine s.endColumn s.raw

/-- Whether nothing tells where the span is. -/
def isUnknown (s : Span) : Bool := s.file.isNone && s.line.isNone && s.raw.isNone

/-- The text `file:line:column`, without the parts that are not known. -/
def display (s : Span) : Except WritingError Text := s.toValue.display

end Span

end EcmaTree
