import EcmaTree.Literal.Encode
import EcmaTree.Tree.Value
import EcmaTree.Tree.Writing

/-!
# JSON texts of plain data

Nothing, truth values, numbers, texts, sequences and mappings have a JSON text; tokens, spans,
places and nodes have none, and neither has what contains one. The text of a text is its string
literal, so it is ASCII throughout. Lists and tuples look alike. The keys of a mapping are texts;
numbers, truth values and nothing stand as keys with their own JSON text between quotes.
-/

namespace EcmaTree.Value

/-- The text of a key of a mapping, not yet quoted. -/
def jsonKey : Value → Except WritingError Text
  | none => .ok (Text.ofString "null")
  | bool b => .ok (Text.ofString (if b then "true" else "false"))
  | number x => x.written NumberStyle.json
  | text t => .ok t
  | v => .error (.notKey v.kindName)

mutual

/-- The JSON text of a value. -/
def json : Value → Except WritingError Text
  | none => .ok (Text.ofString "null")
  | bool b => .ok (Text.ofString (if b then "true" else "false"))
  | number x => x.written NumberStyle.json
  | text t => .ok t.stringLiteral
  | list items => do return Text.ofString "[" ++ (← jsonMembers items) ++ Text.ofString "]"
  | tuple items => do return Text.ofString "[" ++ (← jsonMembers items) ++ Text.ofString "]"
  | mapping entries => do
    return Text.ofString "\x7b" ++ (← jsonEntries entries) ++ Text.ofString "\x7d"
  | v => .error (.notData v.kindName)

/-- The JSON texts of members, with commas between them. -/
def jsonMembers : List Value → Except WritingError Text
  | [] => .ok []
  | [item] => item.json
  | item :: items => do
    let first ← item.json
    let rest ← jsonMembers items
    return first ++ Text.ofString ", " ++ rest

/-- The JSON texts of entries, with commas between them. -/
def jsonEntries : List (Value × Value) → Except WritingError Text
  | [] => .ok []
  | [(k, v)] => do
    let key ← k.jsonKey
    let value ← v.json
    return key.stringLiteral ++ Text.ofString ": " ++ value
  | (k, v) :: entries => do
    let key ← k.jsonKey
    let value ← v.json
    let rest ← jsonEntries entries
    return key.stringLiteral ++ Text.ofString ": " ++ value ++ Text.ofString ", " ++ rest

end

/-- The JSON text of a text is its string literal. -/
@[simp] theorem json_text (t : Text) : (text t).json = .ok t.stringLiteral := by
  simp [json]

end EcmaTree.Value
