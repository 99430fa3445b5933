import EcmaTree.Proofs.Tree.Preorder
import Mathlib.Data.List.Forall2

/-!
# Well-typed trees

A declared type is a union of shapes, and a value belongs to it if it has one of them.  The fields
of a production have declared types (`FieldKind.type`), and a node is sound if its fields belong to
theirs and its location is nothing or a span.  A tree is well-typed if every node that a walk visits
is sound.

So the tree of a node is well-typed exactly if its location is one and each field belongs to its
type and brings along well-typed trees only (`Value.isWellTyped_node_iff`): nothing is hidden from
the walk in a field of the wrong shape.
-/

namespace EcmaTree

/-! ### Shapes and declared types -/

/-- A shape that a value can have. -/
inductive Shape where
  /-- Nothing. -/
  | nothing
  /-- A truth value. -/
  | flag
  /-- A number of any kind. -/
  | number
  /-- A whole number. -/
  | wholeNumber
  /-- A text. -/
  | text
  /-- A token kind. -/
  | tokenKind
  /-- A token of any kind. -/
  | token
  /-- An identifier token. -/
  | identifierToken
  /-- A name: a text, an identifier token, a binding identifier or an identifier expression. -/
  | name
  /-- Any node. -/
  | tree
  /-- A node of one production. -/
  | nodeOf (production : Production)
  /-- A tuple of nodes. -/
  | children
  /-- A list or a tuple of nodes. -/
  | trees
  /-- A list or a tuple of texts. -/
  | texts
  /-- A mapping from texts to truth values and nodes. -/
  | descriptor
deriving DecidableEq

namespace Value

/-- Whether the value is a text. -/
def isText : Value → Bool
  | text _ => true
  | _ => false

/-- Whether the value is a truth value. -/
def isFlag : Value → Bool
  | bool _ => true
  | _ => false

/-- Whether the value is a name in one of its four shapes. -/
def isName : Value → Bool
  | text _ => true
  | identifier _ _ => true
  | v => v.isNodeOf .bindingIdentifier || v.isNodeOf .identifierExpression

theorem isText_iff {v : Value} : v.isText = true ↔ ∃ t, v = text t := by
  cases v <;> simp [isText]

theorem isNodeOf_iff {p : Production} {v : Value} :
    v.isNodeOf p = true ↔ ∃ fields l, v = node p fields l := by
  cases v <;> simp [isNodeOf, production?, eq_comm]

/-- Whether the value can stand as a location. -/
def isLocation : Value → Bool
  | none => true
  | span _ _ _ _ _ _ => true
  | _ => false

end Value

/-- Whether a value has the shape, as far as can be seen without looking below nodes. -/
def Shape.holds : Shape → Value → Bool
  | nothing, v => v.isNone
  | flag, v => v.isFlag
  | number, .number _ => true
  | wholeNumber, .number (.int _) => true
  | text, v => v.isText
  | tokenKind, .tokenKind _ => true
  | token, .token _ _ => true
  | token, .identifier _ _ => true
  | token, .literal _ _ _ => true
  | identifierToken, .identifier _ _ => true
  | name, v => v.isName
  | tree, v => v.isNode
  | nodeOf p, v => v.isNodeOf p
  | children, .tuple items => items.all Value.isNode
  | trees, .list items => items.all Value.isNode
  | trees, .tuple items => items.all Value.isNode
  | texts, .list items => items.all Value.isText
  | texts, .tuple items => items.all Value.isText
  | descriptor, .mapping entries => entries.all fun e => e.1.isText && (e.2.isFlag || e.2.isNode)
  | _, _ => false

/-- Whether values of the shape bring along no trees. -/
def Shape.isTreeless : Shape → Bool
  | name => false
  | tree => false
  | nodeOf _ => false
  | children => false
  | trees => false
  | descriptor => false
  | _ => true

/-- A declared type: a value belongs to it if it has one of the shapes. -/
abbrev DeclaredType := List Shape

namespace DeclaredType

/-- Whether a value belongs to the type, as far as can be seen without looking below nodes. -/
def admits (τ : DeclaredType) (v : Value) : Bool := τ.any fun s => s.holds v

theorem admits_iff {τ : DeclaredType} {v : Value} :
    τ.admits v = true ↔ ∃ s ∈ τ, s.holds v = true := List.any_eq_true

end DeclaredType

/-- The declared type of a field. -/
def FieldKind.type : FieldKind → DeclaredType
  | tree => [.tree]
  | optionalTree => [.nothing, .tree]
  | trees => [.children]
  | only p => [.nodeOf p]
  | optionalOnly p => [.nothing, .nodeOf p]
  | token => [.token]
  | identifierToken => [.identifierToken]
  | optionalIdentifierToken => [.nothing, .identifierToken]
  | tokenKind => [.tokenKind]
  | flag => [.flag]

/-! ### Subtypes -/

/-- Whether every value of the first shape has the second one. -/
def Shape.isBelow : Shape → Shape → Bool
  | nodeOf _, tree => true
  | nodeOf p, name => p = .bindingIdentifier || p = .identifierExpression
  | text, name => true
  | identifierToken, name => true
  | identifierToken, token => true
  | wholeNumber, number => true
  | children, trees => true
  | s, t => s = t

/-- What has a shape has every shape above it. -/
theorem Shape.holds_of_isBelow {s t : Shape} (h : s.isBelow t = true) {v : Value}
    (hv : s.holds v = true) : t.holds v = true := by
  unfold isBelow at h
  -- One case for each line of the table, and a last one for equal shapes.
  split at h
  case h_1 p =>
    obtain ⟨fields, l, rfl⟩ := Value.isNodeOf_iff.mp hv
    rfl
  case h_2 p =>
    obtain ⟨fields, l, rfl⟩ := Value.isNodeOf_iff.mp hv
    simpa [holds, Value.isName, Value.isNodeOf, Value.production?] using h
  case h_3 =>
    obtain ⟨t, rfl⟩ := Value.isText_iff.mp hv
    rfl
  case h_4 => cases v <;> first | rfl | cases hv
  case h_5 => cases v <;> first | rfl | cases hv
  case h_6 => cases v <;> first | rfl | cases hv
  case h_7 => cases v <;> first | exact hv | cases hv
  case h_8 => rwa [← of_decide_eq_true h]

namespace DeclaredType

/-- Whether every shape of the first type is below one of the second. -/
def isBelow (τ σ : DeclaredType) : Bool := τ.all fun s => σ.any fun t => s.isBelow t

/-- What a type admits is admitted by every wider type. -/
theorem admits_of_isBelow {τ σ : DeclaredType} (h : τ.isBelow σ = true) {v : Value}
    (hv : τ.admits v = true) : σ.admits v = true := by
  obtain ⟨s, hs, hsv⟩ := admits_iff.mp hv
  obtain ⟨t, ht, hst⟩ := List.any_eq_true.mp (List.all_eq_true.mp h s hs)
  exact admits_iff.mpr ⟨t, ht, Shape.holds_of_isBelow hst hsv⟩

end DeclaredType

/-! ### Sound nodes and well-typed trees -/

namespace Value

/-- Whether the values belong to the types of the fields, one by one. -/
def fillFields : List Field → List Value → Bool
  | [], [] => true
  | f :: fs, v :: vs => f.kind.type.admits v && fillFields fs vs
  | _, _ => false

/-- Whether the location of a node is one and its fields belong to their declared types. -/
def isSound : Value → Bool
  | node p fields location => location.isLocation && fillFields p.fields fields
  | _ => true

/-- All trees that the value brings along are well-typed: each of their nodes is sound. -/
def IsWellTyped (v : Value) : Prop := ∀ n ∈ v.nodes, n.isSound = true

instance (v : Value) : Decidable v.IsWellTyped := inferInstanceAs (Decidable (∀ n ∈ v.nodes, _))

/-- The value belongs to the type, and all trees that it brings along are well-typed. -/
def HasType (v : Value) (τ : DeclaredType) : Prop := τ.admits v = true ∧ v.IsWellTyped

instance (v : Value) (τ : DeclaredType) : Decidable (v.HasType τ) :=
  inferInstanceAs (Decidable (_ ∧ _))

/-- A value is well-typed iff the trees that it brings along are. -/
theorem isWellTyped_iff_forall_trees {v : Value} :
    v.IsWellTyped ↔ ∀ t ∈ v.trees, t.IsWellTyped := by
  have hself : ∀ t ∈ v.trees, t.nodes = t.preorder := fun t ht =>
    nodes_of_isNode (isNode_of_mem_trees ht)
  constructor
  · intro h t ht n hn
    rw [hself t ht] at hn
    exact h n (List.mem_flatMap.mpr ⟨t, ht, hn⟩)
  · intro h n hn
    obtain ⟨t, ht, hn⟩ := List.mem_flatMap.mp hn
    exact h t ht n (by rwa [hself t ht])

/-- What brings no trees along is well-typed. -/
theorem isWellTyped_of_trees_eq_nil {v : Value} (h : v.trees = []) : v.IsWellTyped := by
  rw [isWellTyped_iff_forall_trees, h]
  exact fun t ht => absurd ht List.not_mem_nil

/-- A field of a declared type brings along what a walk finds in it. -/
theorem fieldChildren_eq_trees {kind : FieldKind} {v : Value} (h : kind.type.admits v = true) :
    v.fieldChildren = v.trees := by
  cases v with
  | list items => cases kind <;> cases h
  | mapping entries => cases kind <;> cases h
  | _ => rfl

/-- Values fill fields and bring well-typed trees along iff each of them has the type of its field.
-/
theorem fillFields_and_forall_iff {fs : List Field} {vs : List Value} :
    (fillFields fs vs = true ∧ ∀ c ∈ vs.flatMap fieldChildren, c.IsWellTyped)
      ↔ List.Forall₂ (fun f v => v.HasType f.kind.type) fs vs := by
  induction fs generalizing vs with
  | nil => cases vs <;> simp [fillFields, List.forall₂_nil_left_iff]
  | cons f fs ih =>
    cases vs with
    | nil => simp [fillFields, List.forall₂_nil_right_iff]
    | cons v vs =>
      rw [List.forall₂_cons, ← ih, fillFields, Bool.and_eq_true, List.flatMap_cons, HasType,
        isWellTyped_iff_forall_trees]
      simp only [List.mem_append, or_imp, forall_and]
      constructor
      · rintro ⟨⟨hv, hvs⟩, hc, hcs⟩
        exact ⟨⟨hv, fieldChildren_eq_trees hv ▸ hc⟩, hvs, hcs⟩
      · rintro ⟨⟨hv, hc⟩, hvs, hcs⟩
        exact ⟨⟨hv, hvs⟩, (fieldChildren_eq_trees hv).symm ▸ hc, hcs⟩

/-- A node is a well-typed tree if and only if its location is one and its fields have their
declared types, all the way down. -/
theorem isWellTyped_node_iff {p : Production} {fields : List Value} {l : Value} :
    (node p fields l).IsWellTyped ↔ l.isLocation = true ∧
      List.Forall₂ (fun f v => v.HasType f.kind.type) p.fields fields := by
  have hnode : ∀ c ∈ fields.flatMap fieldChildren, c.isNode = true := fun c hc =>
    isNode_of_mem_children (v := node p fields l) hc
  rw [← fillFields_and_forall_iff, ← and_assoc, ← Bool.and_eq_true, IsWellTyped, nodes_node]
  simp only [List.mem_cons, forall_eq_or_imp]
  -- The node itself is settled, and the nodes below it are those of its children.
  apply and_congr Iff.rfl
  constructor
  · intro h c hc n hn
    rw [nodes_of_isNode (hnode c hc)] at hn
    exact h n (List.mem_flatMap.mpr ⟨c, hc, hn⟩)
  · intro h n hn
    obtain ⟨c, hc, hn⟩ := List.mem_flatMap.mp hn
    exact h c hc n (by rwa [nodes_of_isNode (hnode c hc)])

/-- Productions with the same fields have the same well-typed nodes. -/
theorem isWellTyped_node_congr {p q : Production} (h : p.fields = q.fields) {fields : List Value}
    {l : Value} : (node p fields l).IsWellTyped ↔ (node q fields l).IsWellTyped := by
  rw [isWellTyped_node_iff, isWellTyped_node_iff, h]

end Value

end EcmaTree
