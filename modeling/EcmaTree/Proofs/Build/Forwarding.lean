import EcmaTree.Proofs.Build.SyntheticParameters

/-!
# Passing parameters on

A wrapper with the parameters of another function passes them on as arguments, each in its place
(`Builder.forwardedArguments_keep_signature`).  A name is passed on as a reference with the same
token at the same location, whether it stands alone, in a parameter with a default, which is left
out, or in a rest parameter, which becomes a spread.  A pattern cannot be referred to, and a
parameter that binds one is passed on as it is.

The parameters that can stand in a list are those of `FormalParameter`, in any order and number.
-/

namespace EcmaTree

/-! ### Parameters -/

/-- A name that is declared: its identifier token and the location of its node. -/
structure DeclaredName where
  /-- The identifier token. -/
  token : Value
  /-- The location of the node. -/
  location : Value

namespace DeclaredName

/-- The name where it is declared. -/
def binding (name : DeclaredName) : Value := .node .bindingIdentifier [name.token] name.location

/-- The name where it is referred to, with the same token at the same location. -/
def reference (name : DeclaredName) : Value :=
  .node .identifierExpression [name.token] name.location

end DeclaredName

/-- A pattern that parameters can be bound to. -/
inductive Pattern where
  /-- An object pattern. -/
  | object (fields : List Value) (location : Value)
  /-- An array pattern. -/
  | array (fields : List Value) (location : Value)

/-- The node of a pattern. -/
def Pattern.node : Pattern → Value
  | object fields location => .node .objectPattern fields location
  | array fields location => .node .arrayPattern fields location

/-- A parameter in a parameter list. -/
inductive FormalParameter where
  /-- A rest parameter. -/
  | rest (name : DeclaredName) (location : Value)
  /-- A binding element with a name; the initializer may be nothing. -/
  | named (name : DeclaredName) (initializer location : Value)
  /-- A binding element with a pattern; the initializer may be nothing. -/
  | patterned (pattern : Pattern) (initializer location : Value)
  /-- Just a name. -/
  | bareName (name : DeclaredName)
  /-- Just a pattern. -/
  | barePattern (pattern : Pattern)

namespace FormalParameter

/-- The node of a parameter. -/
def node : FormalParameter → Value
  | rest name location => .node .restParameter [name.binding] location
  | named name initializer location => .node .bindingElement [name.binding, initializer] location
  | patterned pattern initializer location =>
    .node .bindingElement [pattern.node, initializer] location
  | bareName name => name.binding
  | barePattern pattern => pattern.node

/-- The argument that passes a parameter on: a reference if it binds a name, in a spread if it is a
rest parameter, and the parameter itself if it binds a pattern. -/
def argument : FormalParameter → Value
  | rest name _ => .tree .spreadExpression [name.reference]
  | named name _ _ => name.reference
  | bareName name => name.reference
  | patterned pattern initializer location => (patterned pattern initializer location).node
  | barePattern pattern => (barePattern pattern).node

/-- Each kind of parameter has its own argument. -/
theorem forward_node (p : FormalParameter) : Parameters.forward p.node = .ok p.argument := by
  cases p with
  | patterned pattern _ _ | barePattern pattern => cases pattern <;> rfl
  | _ => rfl

/-- Parameters and arguments are at the same places. -/
theorem forward_nodes (parameters : List FormalParameter) :
    List.Forall₂ (fun p a => Parameters.forward p = .ok a) (parameters.map node)
      (parameters.map argument) := by
  rw [List.forall₂_map_left_iff, List.forall₂_map_right_iff, List.forall₂_same]
  exact fun p _ => forward_node p

/-- An argument is a spread iff the parameter is a rest parameter. -/
theorem isNodeOf_spread_argument (p : FormalParameter) :
    p.argument.isNodeOf .spreadExpression = p.node.isNodeOf .restParameter := by
  cases p with
  | barePattern pattern => cases pattern <;> rfl
  | _ => rfl

/-- No argument is a rest parameter. -/
theorem isNodeOf_rest_argument (p : FormalParameter) :
    p.argument.isNodeOf .restParameter = false := by
  cases p with
  | barePattern pattern => cases pattern <;> rfl
  | _ => rfl

/-- What a binding element among the arguments binds is a pattern. -/
theorem isNodeOf_binding_argument {p : FormalParameter} {bound location : Value}
    {fields : List Value} (h : p.argument = .node .bindingElement (bound :: fields) location) :
    bound.isNodeOf .bindingIdentifier = false := by
  cases p with
  | patterned pattern _ _ =>
    cases h
    cases pattern <;> rfl
  | barePattern pattern => cases pattern <;> cases h
  | _ => cases h

/-- A parameter list has a rest parameter iff the last of the arguments is a spread. -/
theorem hasRestParameter_nodes (parameters : List FormalParameter) (location : Value) :
    (Value.node .formalParameterList [.tuple (parameters.map node)] location).property
        .hasRestParameter
      = .ok (.bool (((parameters.map argument).getLast?.map
          (Value.isNodeOf .spreadExpression)).getD false)) := by
  have hrest : (Value.node .formalParameterList [.tuple (parameters.map node)] location).property
        .hasRestParameter
      = .ok (.bool (((parameters.map node).getLast?.map
          (Value.isNodeOf .restParameter)).getD false)) := rfl
  -- Rest parameters are passed on as spreads, and nothing else is.
  have hspread : Value.isNodeOf .spreadExpression ∘ argument
      = Value.isNodeOf .restParameter ∘ node := funext isNodeOf_spread_argument
  rw [hrest, List.getLast?_map, List.getLast?_map, Option.map_map, Option.map_map, hspread]

end FormalParameter

/-! ### Parameter lists -/

/-- **Passing parameters on keeps the signature.**  For any list of parameters there are arguments,
one for each parameter and in the same order, which pass the parameters on.  The last argument is a
spread iff the list has a rest parameter, and no argument is a rest parameter or a binding element
with a name. -/
theorem Builder.forwardedArguments_keep_signature (parameters : List FormalParameter)
    (location : Value) :
    let nodes := parameters.map FormalParameter.node
    let list := Value.node .formalParameterList [.tuple nodes] location
    let args := parameters.map FormalParameter.argument
    build .forwardedArguments [list] = .ok (.tree .argumentList [.tuple args]) ∧
      list.property .hasRestParameter
        = .ok (.bool ((args.getLast?.map (Value.isNodeOf .spreadExpression)).getD false)) ∧
      ∀ arg ∈ args, arg.isNodeOf .restParameter = false ∧
        ∀ bound fields l, arg = .node .bindingElement (bound :: fields) l →
          bound.isNodeOf .bindingIdentifier = false := by
  intro nodes list args
  have hforward := FormalParameter.forward_nodes parameters
  have hrest := FormalParameter.hasRestParameter_nodes parameters location
  refine ⟨Parameters.forwardList_node hforward location, hrest, ?_⟩
  intro arg harg
  obtain ⟨p, -, rfl⟩ := List.mem_map.mp harg
  refine ⟨p.isNodeOf_rest_argument, ?_⟩
  intro bound fields l h
  exact FormalParameter.isNodeOf_binding_argument h

end EcmaTree
