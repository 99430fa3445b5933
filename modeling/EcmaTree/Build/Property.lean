import EcmaTree.Build.Name

/-!
# Properties of values

What can be asked of a value: its fields, and what is worked out from them. A property is asked
of any value, and a value that does not have it says so by an error.
-/

namespace EcmaTree

/-- A question about a value. -/
inductive Property where
  /-- The field with the given name. -/
  | field (name : String)
  /-- The location of a token or a node. -/
  | location
  /-- Whether a token or a node has no location. -/
  | isSynthetic
  /-- The kind of a token. -/
  | kind
  /-- Whether a token kind is an assignment operator. -/
  | isAssignmentOperator
  /-- Whether a binary operator node is an assignment. -/
  | isAssignment
  /-- Whether the last parameter of a parameter list is a rest parameter. -/
  | hasRestParameter
  /-- The value that a literal token stands for. -/
  | literalValue
deriving DecidableEq

namespace Value

/-- The location of a token or a node, `none` inside if it is synthetic. -/
def location? : Value → Option Value
  | token _ l => some l
  | identifier _ l => some l
  | literal _ _ l => some l
  | node _ _ l => some l
  | _ => Option.none

/-- A token or a node at another location. Other values have no location and stay as they are. -/
def withLocation (v location : Value) : Value :=
  match v with
  | token kind _ => token kind location
  | identifier name _ => identifier name location
  | literal kind spelling _ => literal kind spelling location
  | node p fields _ => node p fields location
  | _ => v

/-- The kind of a token. -/
def kind? : Value → Option TokenKind
  | token kind _ => some kind
  | identifier _ _ => some .identifier
  | literal kind _ _ => some kind
  | _ => Option.none

/-- The field of a node, a token, a token kind, a span or a place with the given name. -/
def field? (v : Value) (name : String) : Option Value :=
  match v with
  | node p fields _ => ((p.fields.map Field.name).zip fields).lookup name
  | identifier n _ => if name = "value" then some n else Option.none
  | literal _ s _ => if name = "value" then some s else Option.none
  | tokenKind k => [("name", string k.name), ("value", string k.text)].lookup name
  | span file line column endLine endColumn raw =>
    [("file", file), ("line", line), ("column", column), ("end_line", endLine),
      ("end_column", endColumn), ("raw", raw)].lookup name
  | place _ attributes => (attributes.map fun a => (a.1.name, a.2)).lookup name
  | _ => Option.none

/-- Whether a binary operator node assigns, by the kind of its operator token. -/
def isAssignment? : Value → Option Bool
  | node .binaryOperator [_, operator, _] _ => operator.kind?.map TokenKind.isAssignmentOperator
  | _ => Option.none

/-- Whether a value is a sequence whose last member is a rest parameter. -/
def endsWithRest (v : Value) : Bool :=
  match v.members? with
  | some items => (items.getLast?.map (isNodeOf .restParameter)).getD false
  | Option.none => false

/-- Whether the last parameter of a parameter list is a rest parameter. -/
def hasRestParameter? : Value → Option Bool
  | node .formalParameterList [parameters] _ => some parameters.endsWithRest
  | _ => Option.none

/-- The answer to a question about a value, if the value has the property. -/
def property? (v : Value) : Property → Option Built
  | .field name => (v.field? name).map .ok
  | .location => v.location?.map .ok
  | .isSynthetic => v.location?.map fun l => .ok (bool l.isNone)
  | .kind => v.kind?.map fun kind => .ok (tokenKind kind)
  | .isAssignmentOperator =>
    match v with
    | tokenKind kind => some (.ok (bool kind.isAssignmentOperator))
    | _ => Option.none
  | .isAssignment => v.isAssignment?.map fun b => .ok (bool b)
  | .hasRestParameter => v.hasRestParameter?.map fun b => .ok (bool b)
  | .literalValue =>
    match v with
    | literal _ (text t) _ => some (Built.literalValue t)
    | _ => Option.none

/-- The answer to a question about a value. -/
def property (v : Value) (asked : Property) : Built :=
  (v.property? asked).getD (.error .unsuitable)

end Value

end EcmaTree
