import EcmaTree.Build.Error
import EcmaTree.Tree.Value

/-!
# The shapes of a name

A name comes in four shapes: a text, an identifier token, a declared name (a binding identifier)
and a reference (an identifier expression). `Name.token`, `Name.binding` and `Name.reference`
take a name to one of the last three. A token that is there already is kept, and going from one
kind of node to the other keeps the location of the node; everything that has to be made is
synthetic.
-/

namespace EcmaTree

/-- What a builder gives: a value or a reason why there is none. -/
abbrev Built := Except BuildError Value

/-- The value that a literal text stands for. -/
def Built.literalValue (t : Text) : Built :=
  match LiteralValue.read t with
  | .ok value => .ok value.toValue
  | .error e => .error (.literal e)

namespace Name

/-- The identifier token of a text or an identifier token. -/
def token : Value → Built
  | .identifier name location => .ok (.identifier name location)
  | .text name => .ok (.identifier (.text name) .none)
  | v => .error (.notAName v.kindName)

/-- A name of any shape where it is declared. -/
def binding : Value → Built
  | .node .bindingIdentifier fields location => .ok (.node .bindingIdentifier fields location)
  | .node .identifierExpression fields location => .ok (.node .bindingIdentifier fields location)
  | .identifier name location => .ok (.tree .bindingIdentifier [.identifier name location])
  | .text name => .ok (.tree .bindingIdentifier [.identifier (.text name) .none])
  | v => .error (.notBindable v.kindName)

/-- A name of any shape where it is referred to. -/
def reference : Value → Built
  | .node .identifierExpression fields location =>
    .ok (.node .identifierExpression fields location)
  | .node .bindingIdentifier fields location => .ok (.node .identifierExpression fields location)
  | .identifier name location => .ok (.tree .identifierExpression [.identifier name location])
  | .text name => .ok (.tree .identifierExpression [.identifier (.text name) .none])
  | v => .error (.notReferable v.kindName)

/-- The synthetic reference to a name. -/
def referTo (name : Text) : Value := .tree .identifierExpression [.identifier (.text name) .none]

/-- An operand: a text or an identifier token is a reference, anything else stands for itself. -/
def operand : Value → Value
  | .text name => referTo name
  | .identifier name location => .tree .identifierExpression [.identifier name location]
  | v => v

end Name

end EcmaTree
