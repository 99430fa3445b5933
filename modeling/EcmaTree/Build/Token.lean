import EcmaTree.Build.Name
import EcmaTree.Literal.Encode
import EcmaTree.Tree.Json
import EcmaTree.Unicode.Identifier

/-!
# Synthetic tokens

The tokens that builders make: literals with their texts, and the keys of properties. A key is an
identifier if it can be one, a number if it is a canonical array index, and a string otherwise.
-/

namespace EcmaTree

/-- Whether the text is the canonical decimal text of a natural number. -/
def Text.isArrayIndex : Text → Bool
  | [] => false
  | c :: rest =>
    if c = CodePoint.digitZero then rest.isEmpty
    else (c :: rest).all fun d => (d.digitIn? 10).isSome

namespace Token

/-- The token of a name. -/
def identifier (name : Text) : Value := .identifier (.text name) .none

/-- The synthetic literal with the given spelling. -/
def literal (kind : TokenKind) (spelling : Text) : Value := .literal kind (.text spelling) .none

/-- The string literal for a text. -/
def string (t : Text) : Value := literal .string t.stringLiteral

/-- The number literal for a number. -/
def number (x : Number) : Value := literal .number x.source

/-- The keyword for a truth value. -/
def boolean (b : Bool) : Value := .token (if b then .trueKeyword else .falseKeyword) .none

/-- The literal `null`. -/
def null : Value := literal .nullKeyword (Text.ofString "null")

/-- The token for a property key. -/
def propertyName (name : Text) : Value :=
  if name.isIdentifierName then identifier name
  else if name.isArrayIndex then literal .number name
  else string name

/-- The string token for plain data: the JSON text of the value. For a text this is its string
literal; for other data the spelling is that of a number, of a keyword, or of no literal. -/
def data (v : Value) : Built := (v.json.map (literal .string)).mapError .writing

end Token

/-- The number that a value is; truth values are not numbers here. -/
def Value.toNumber : Value → Except BuildError Number
  | .number x => .ok x
  | .bool _ => .error .flagAsNumber
  | _ => .error .unsuitable

/-- The text that a value is. -/
def Value.toText : Value → Except BuildError Text
  | .text t => .ok t
  | _ => .error .unsuitable

end EcmaTree
