import EcmaTree.Text.Quoted
import EcmaTree.Tree.Value
import EcmaTree.Tree.Writing

/-!
# Values in messages

The text of a value where a message mentions it (`Value.display`). A text stands for itself, a token
for its source text, and a span is written `file:line:column`, without the parts that are not known.

Everything else looks as it does inside a sequence (`Value.shown`), where nothing is left out: texts
are quoted, and tokens, spans and nodes are written as records, with the name of their kind and of
every field. The location is the first field of a node and stands behind the kind of a token.
-/

namespace EcmaTree

/-- A token kind inside a sequence, with its name and its quoted text. -/
def TokenKind.shown (k : TokenKind) : Text :=
  Text.ofString "<TokenType." ++ Text.ofString k.name ++ Text.ofString ": "
    ++ (Text.ofString k.text).quoted ++ Text.ofString ">"

namespace Value

/-! ### Inside a sequence -/

/-- Texts between an opening and a closing one, with commas between them. The first text that is
missing is missed. -/
def enclosed (opening closing : String) (texts : List (Except WritingError Text)) :
    Except WritingError Text := do
  let written ← texts.mapM id
  return Text.ofString opening ++ Text.joined (Text.ofString ", ") written ++ Text.ofString closing

/-- A record of the given name, with a name for the text of each field. -/
def record (name : String) (fields : List (String × Except WritingError Text)) :
    Except WritingError Text :=
  enclosed (name ++ "(") ")" (fields.map fun f => f.2.map fun t => Text.ofString (f.1 ++ "=") ++ t)

mutual

/-- The text of a value inside a sequence or a mapping. -/
def shown : Value → Except WritingError Text
  | none => .ok (Text.ofString "None")
  | bool b => .ok (if b then Text.ofString "True" else Text.ofString "False")
  | number x => x.written NumberStyle.message
  | text t => .ok t.quoted
  | list items => enclosed "[" "]" (shownAll items)
  | tuple items => enclosed "(" (if items.length = 1 then ",)" else ")") (shownAll items)
  | mapping entries => enclosed "\x7b" "\x7d" (shownEntries entries)
  | tokenKind k => .ok k.shown
  | token k location => record "Token" [("type", .ok k.shown), ("location", location.shown)]
  | identifier name location =>
    record "IdentifierToken" [("type", .ok TokenKind.identifier.shown),
      ("location", location.shown), ("value", name.shown)]
  | literal k spelling location =>
    record "LiteralToken" [("type", .ok k.shown), ("location", location.shown),
      ("value", spelling.shown)]
  | span file line column endLine endColumn raw =>
    record "Span" [("file", file.shown), ("line", line.shown), ("column", column.shown),
      ("end_line", endLine.shown), ("end_column", endColumn.shown), ("raw", raw.shown)]
  | place t _ => .ok t
  | node p fields location =>
    record p.name (("location", location.shown) :: (p.fields.map Field.name).zip (shownAll fields))

/-- The texts of the members of a sequence. -/
def shownAll : List Value → List (Except WritingError Text)
  | [] => []
  | item :: items => item.shown :: shownAll items

/-- The texts of the entries of a mapping. -/
def shownEntries : List (Value × Value) → List (Except WritingError Text)
  | [] => []
  | (k, v) :: entries =>
    (do return (← k.shown) ++ Text.ofString ": " ++ (← v.shown)) :: shownEntries entries

end

/-! ### By itself -/

/-- The text that a token is written as, which is what it holds. -/
def tokenText : Value → Except WritingError Text
  | text t => .ok t
  | v => .error (.tokenWithoutText v.kindName)

/-- What the file of a span is called. -/
def fileText (file : Value) : Except WritingError Text :=
  if file.isTruthy then
    match file with
    | text t => .ok t
    | _ => .error (.fileWithoutText file.kindName)
  else .ok (Text.ofString "<unknown>")

/-- The text of a value in a message. In a span the column is left out without a line. -/
def display : Value → Except WritingError Text
  | text t => .ok t
  | tokenKind k => .ok (Text.ofString k.text)
  | token k _ => .ok (Text.ofString k.text)
  | identifier name _ => name.tokenText
  | literal _ spelling _ => spelling.tokenText
  | span file line column _ _ _ => do
    let places ← (if line.isNone then [] else if column.isNone then [line.display]
      else [line.display, column.display]).mapM id
    let name ← file.fileText
    return Text.joined (Text.ofString ":") (name :: places)
  | v => v.shown

/-- A text stands for itself. -/
@[simp] theorem display_text (t : Text) : (text t).display = .ok t := by
  simp [display]

/-- A number by itself looks as it does inside a sequence. -/
@[simp] theorem display_number (x : Number) :
    (number x).display = x.written NumberStyle.message := by
  simp [display, shown]

end Value

end EcmaTree
