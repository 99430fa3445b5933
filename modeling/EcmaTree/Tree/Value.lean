import EcmaTree.Literal.Value
import EcmaTree.Token.Kind
import EcmaTree.Tree.Production

/-!
# Values, tokens and nodes

Trees are built from loosely typed material: a builder may be handed any value, and what it does
not look at it puts into the tree as it is. So there is one type of values, which holds plain
data, tokens, source spans and nodes alike. A node is a production with the values of its fields
in the order of `Production.fields`, and it need not be well-typed.

Tokens and nodes have a location. It is `Value.none` for synthetic ones, which is how they are
told from those that were read from source text.
-/

namespace EcmaTree

/-- What a location object of another tool can say about a place. -/
inductive PlaceAttribute where
  /-- The file. -/
  | file
  /-- The file, under the other name in use for it. -/
  | fileName
  /-- The line of the start. -/
  | line
  /-- The column of the start. -/
  | column
  /-- The line of the end. -/
  | endLine
  /-- The column of the end. -/
  | endColumn
deriving DecidableEq

namespace PlaceAttribute

/-- Every attribute. -/
def all : List PlaceAttribute := [file, fileName, line, column, endLine, endColumn]

/-- The name of the attribute. -/
def name : PlaceAttribute → String
  | file => "file"
  | fileName => "filename"
  | line => "line"
  | column => "column"
  | endLine => "end_line"
  | endColumn => "end_column"

end PlaceAttribute

/-- The values that builders take and give. -/
inductive Value where
  /-- No value. -/
  | none
  /-- A truth value. -/
  | bool (b : Bool)
  /-- A number. -/
  | number (x : Number)
  /-- A text. -/
  | text (t : Text)
  /-- A list, which a field does not count as children. -/
  | list (items : List Value)
  /-- A tuple, whose nodes are children of the node with the field. -/
  | tuple (items : List Value)
  /-- A mapping with its entries in order. -/
  | mapping (entries : List (Value × Value))
  /-- A kind of tokens. -/
  | tokenKind (kind : TokenKind)
  /-- An operator, keyword or punctuator. -/
  | token (kind : TokenKind) (location : Value)
  /-- A name, which is a text unless the token is ill-formed. -/
  | identifier (name : Value) (location : Value)
  /-- A literal, its text exactly as written; it is a text unless the token is ill-formed. -/
  | literal (kind : TokenKind) (spelling : Value) (location : Value)
  /-- A span of source text; parts that are not known are `none`, and `raw` is what the span was
  made from. -/
  | span (file line column endLine endColumn raw : Value)
  /-- A location object of another tool, with the attributes that it has and its own text. -/
  | place (text : Text) (attributes : List (PlaceAttribute × Value))
  /-- A node of a tree. -/
  | node (production : Production) (fields : List Value) (location : Value)

/-- The value that a literal stands for, as a value of the tree. -/
def LiteralValue.toValue : LiteralValue → Value
  | null => .none
  | boolean b => .bool b
  | number x => .number x
  | string t => .text t

namespace Value

/-- A synthetic node. -/
def tree (production : Production) (fields : List Value) : Value := node production fields none

/-- A whole number. -/
def int (n : Int) : Value := number (.int n)

/-- A fixed text. -/
def string (s : String) : Value := text (Text.ofString s)

/-- The production of a node. -/
def production? : Value → Option Production
  | node p _ _ => some p
  | _ => Option.none

/-- Whether the value is a node. -/
def isNode (v : Value) : Bool := v.production?.isSome

/-- Whether the value is a node of the given production. -/
def isNodeOf (p : Production) (v : Value) : Bool := v.production? = some p

/-- Whether the value counts as true: nothing, `false`, the zeros and whatever is empty do not. -/
def isTruthy : Value → Bool
  | none => false
  | bool b => b
  | number x => !x.isZero
  | text t => !t.isEmpty
  | list items => !items.isEmpty
  | tuple items => !items.isEmpty
  | mapping entries => !entries.isEmpty
  | _ => true

/-- The name of the kind of the value, as error messages give it. -/
def kindName : Value → String
  | none => "NoneType"
  | bool _ => "bool"
  | number (.int _) => "int"
  | number (.float _) => "float"
  | text _ => "str"
  | list _ => "list"
  | tuple _ => "tuple"
  | mapping _ => "dict"
  | tokenKind _ => "TokenType"
  | token _ _ => "Token"
  | identifier _ _ => "IdentifierToken"
  | literal _ _ _ => "LiteralToken"
  | span _ _ _ _ _ _ => "Span"
  | place _ _ => "Location"
  | node p _ _ => p.name

/-- The members of a list or a tuple. -/
def members? : Value → Option (List Value)
  | list items => some items
  | tuple items => some items
  | _ => Option.none

/-- What going through the value yields: the members of a list or a tuple, the code points of a
text, the keys of a mapping. -/
def elements? : Value → Option (List Value)
  | list items => some items
  | tuple items => some items
  | text t => some (t.map fun c => text [c])
  | mapping entries => some (entries.map Prod.fst)
  | _ => Option.none

/-- Whether the value is absent. -/
def isNone : Value → Bool
  | none => true
  | _ => false

end Value

/-- What a field of the kind holds when it is not given. -/
def FieldKind.absent : FieldKind → Value
  | flag => .bool false
  | _ => .none

end EcmaTree
