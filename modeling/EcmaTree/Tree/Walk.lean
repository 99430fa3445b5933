import EcmaTree.Tree.Value

/-!
# Children and walks

The children of a node are the nodes among its fields and in the tuples among its fields, in
order. Tokens are not nodes, and lists are not looked into. `Value.walk` visits a tree in
preorder: a node comes before its children, and all below one child come before the next.
-/

namespace EcmaTree.Value

/-- The child nodes that a field contributes. -/
def fieldChildren : Value → List Value
  | tuple items => items.filter isNode
  | v => if v.isNode then [v] else []

/-- The child nodes of a node, in order. -/
def children : Value → List Value
  | node _ fields _ => fields.flatMap fieldChildren
  | _ => []

mutual

/-- The nodes of a tree in preorder, each with its depth; the root has the given depth. -/
def walkFrom (depth : Nat) : Value → List (Nat × Value)
  | node p fields l => (depth, node p fields l) :: walkFields (depth + 1) fields
  | _ => []

/-- The nodes at and below the children that fields contribute. -/
def walkFields (depth : Nat) : List Value → List (Nat × Value)
  | [] => []
  | tuple items :: rest => walkItems depth items ++ walkFields depth rest
  | field :: rest => walkFrom depth field ++ walkFields depth rest

/-- The nodes at and below the nodes of a sequence. -/
def walkItems (depth : Nat) : List Value → List (Nat × Value)
  | [] => []
  | item :: rest => walkFrom depth item ++ walkItems depth rest

end

/-- The nodes of a tree in preorder, each with its depth. -/
def walk (v : Value) : List (Nat × Value) := walkFrom 0 v

end EcmaTree.Value
