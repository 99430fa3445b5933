import EcmaTree.Build.Intake
import EcmaTree.Tree.Display

/-!
# Parameters and forwarding

Parameter lists from names or from a number of parameters, and the argument lists that pass
parameters on. Synthetic parameters are named `$0`, `$1` and so on. In a forwarding argument list
a rest parameter becomes a spread, a parameter with a name a reference to it, and everything
else, patterns above all, stays as it is.
-/

namespace EcmaTree.Parameters

/-- The name of a synthetic parameter, from its index. -/
def nameOf (index : Value) : Except BuildError Text :=
  (index.display.map fun t => Text.ofString "$" ++ t).mapError .writing

/-- The reference to a synthetic parameter, from its index. -/
def reference (index : Value) : Built := (nameOf index).map Name.referTo

/-- A parameter with a name and no default. -/
def element (name : Text) : Value :=
  .tree .bindingElement [.tree .bindingIdentifier [Token.identifier name], .none]

/-- A rest parameter. -/
def restElement (name : Text) : Value :=
  .tree .restParameter [.tree .bindingIdentifier [Token.identifier name]]

/-- A parameter list with the given parameters. -/
def listOf (parameters : List Value) : Value := .tree .formalParameterList [.tuple parameters]

/-- The synthetic parameter at a position among `count`. If a rest parameter is asked for, it is the
last one. -/
def elementAt (withRest : Bool) (count i : Nat) : Built :=
  (nameOf (.int i)).map fun name =>
    if withRest && i + 1 = count then restElement name else element name

/-- The list of `count` synthetic parameters, of none if `count` is negative. -/
def positional (withRest : Bool) (count : Int) : Built :=
  ((List.range count.toNat).mapM (elementAt withRest count.toNat)).map listOf

/-- A parameter without a default for every name. -/
def named : List Value → Except BuildError (List Value)
  | [] => .ok []
  | name :: names => do
    let binding ← Name.binding name
    let parameters ← named names
    return .tree .bindingElement [binding, .none] :: parameters

/-- The parameter list with the given names. -/
def listOfNames (names : List Value) : Built := (named names).map listOf

/-- A parameter list from a number of parameters, from an identifier token alone, from texts, or
from a sequence of names. The first argument decides which. -/
def list : List Value → Built
  | [] => .ok (listOf [])
  | first :: rest =>
    match first with
    | .bool _ => .error .flagAsCount
    | .number (.int n) => positional false n
    | .identifier _ _ => listOfNames [first]
    | .text _ => listOfNames (first :: rest)
    | .list names => listOfNames names
    | .tuple names => listOfNames names
    | _ => .error (.notParameters first.kindName)

/-- A number of parameters; a truth value counts as zero or one. -/
def count : Value → Except BuildError Int
  | .number (.int n) => .ok n
  | .bool b => .ok (if b then 1 else 0)
  | _ => .error .unsuitable

/-- Synthetic parameters with a rest parameter. -/
def listWithRest (v : Value) : Built := (count v).bind (positional true)

/-! ### Forwarding -/

/-- A spread of a reference. -/
def spread (identifier : Value) : Built := do
  let reference ← Name.reference identifier
  return .tree .spreadExpression [reference]

/-- The argument that passes a parameter on. -/
def forward : Value → Built
  | .node .restParameter [identifier] _ => spread identifier
  | .node .bindingElement (binding :: fields) location =>
    if binding.isNodeOf .bindingIdentifier then Name.reference binding
    else .ok (.node .bindingElement (binding :: fields) location)
  | v => if v.isNodeOf .bindingIdentifier then Name.reference v else .ok v

/-- The arguments that pass parameters on, in order. -/
def forwardAll : List Value → Except BuildError (List Value)
  | [] => .ok []
  | parameter :: parameters => do
    let argument ← forward parameter
    let arguments ← forwardAll parameters
    return argument :: arguments

/-- The argument list that passes on what a parameter list declares. -/
def forwardList : Value → Built
  | .node .formalParameterList [parameters] _ =>
    match parameters.elements? with
    | none => .error .unsuitable
    | some items => do
      let arguments ← forwardAll items
      return .tree .argumentList [.tuple arguments]
  | _ => .error .unsuitable

/-- The argument list that passes on the parameter list made from an argument. -/
def forwardFor (v : Value) : Built := (list [v]).bind forwardList

end EcmaTree.Parameters
