import EcmaTree.Proofs.Build.Gathering
import EcmaTree.Proofs.Build.Signature
import Mathlib.Data.List.Flatten

/-!
# Assembling trees

A value assembles given trees if it belongs to a declared type, all trees in it are well-typed, and
a walk through it comes upon the given trees, in their order and each with all of its nodes.  The
rules here follow the way trees are put together: a value assembles the trees that it brings along,
and a node or a tuple assembles what its fields or members assemble, one after the other.

The rule for slots (`Slot.takeAll_assembly`) makes this a matter of tables: a list of slots, a form
of arguments and the fields of a production are compared by `Slot.fills`, and what a builder then
makes of any arguments of the form follows.
-/

namespace EcmaTree

namespace Value

variable {v : Value} {vs : List Value} {τ σ : DeclaredType} {a b : List Value}

/-- A value of a type is of every wider type. -/
theorem HasType.weaken (h : v.HasType τ) (hτ : τ.isBelow σ = true) : v.HasType σ :=
  ⟨DeclaredType.admits_of_isBelow hτ h.1, h.2⟩

/-- Where nothing is allowed as well, a value that is there is of the type itself. -/
theorem HasType.of_orNothing (h : v.HasType (DeclaredType.orNothing τ)) (hv : v.isNone = false) :
    v.HasType τ := by
  refine ⟨?_, h.2⟩
  simpa [DeclaredType.admits, DeclaredType.orNothing, Shape.holds, hv] using h.1

theorem none_hasType (hτ : Shape.nothing ∈ τ) : none.HasType τ :=
  ⟨DeclaredType.admits_iff.mpr ⟨.nothing, hτ, rfl⟩, isWellTyped_of_trees_eq_nil rfl⟩

theorem bool_hasType (b : Bool) : (bool b).HasType [.flag] := ⟨rfl, isWellTyped_of_trees_eq_nil rfl⟩

theorem isNone_of_isTruthy (h : v.isTruthy = true) : v.isNone = false := by
  cases v with
  | none => cases h
  | _ => rfl

theorem admits_nodeOf_iff {p : Production} :
    DeclaredType.admits [.nodeOf p] v = true ↔ v.isNodeOf p = true := by
  simp [DeclaredType.admits, Shape.holds]

/-- The value has the type, all trees in it are well-typed, and a walk through it comes upon the
given trees. -/
def Assembles (v : Value) (τ : DeclaredType) (kept : List Value) : Prop :=
  v.HasType τ ∧ List.Sublist (kept.flatMap preorder) v.nodes

/-- What is of a type assembles the trees that it brings along. -/
theorem HasType.assembles (h : v.HasType τ) : v.Assembles τ v.trees := ⟨h, List.Sublist.refl _⟩

theorem HasType.assembles_nil (h : v.HasType τ) : v.Assembles τ [] := ⟨h, List.nil_sublist _⟩

theorem Assembles.weaken (h : v.Assembles τ a) (hτ : τ.isBelow σ = true) : v.Assembles σ a :=
  ⟨h.1.weaken hτ, h.2⟩

/-- Values that fill fields of the declared types, with the trees that they assemble. -/
inductive Assembly : List Field → List Value → List Value → Prop where
  /-- No field. -/
  | nil : Assembly [] [] []
  /-- A field, and then others. -/
  | cons {f : Field} {fs : List Field} {v : Value} {vs a b : List Value}
      (first : v.Assembles f.kind.type a) (others : Assembly fs vs b) :
      Assembly (f :: fs) (v :: vs) (a ++ b)

/-- A field of which nothing is kept, and then others. -/
theorem Assembly.skip {f : Field} {fs : List Field} (h : v.HasType f.kind.type)
    (others : Assembly fs vs b) : Assembly (f :: fs) (v :: vs) b := .cons h.assembles_nil others

/-- One last field. -/
theorem Assembly.last {f : Field} (h : v.Assembles f.kind.type a) : Assembly [f] [v] a := by
  have hfields := Assembly.cons h .nil
  rwa [List.append_nil] at hfields

/-- Values that fill fields are of their types, field by field. -/
theorem Assembly.forall₂ {fs : List Field} (h : Assembly fs vs a) :
    List.Forall₂ (fun f v => v.HasType f.kind.type) fs vs := by
  induction h with
  | nil => exact .nil
  | cons first _ ih => exact .cons first.1 ih

/-- A walk through the fields comes upon what they assemble. -/
theorem Assembly.sublist {fs : List Field} (h : Assembly fs vs a) :
    List.Sublist (a.flatMap preorder) ((vs.flatMap fieldChildren).flatMap preorder) := by
  induction h with
  | nil => exact List.Sublist.refl _
  | cons first _ ih =>
    -- in a field of its type a walk finds all that the value brings along
    rw [List.flatMap_append, List.flatMap_cons, List.flatMap_append,
      fieldChildren_eq_trees first.1.1]
    exact first.2.append ih

/-- A node assembles what its fields assemble. -/
theorem Assembly.node {p : Production} {l : Value} (h : Assembly p.fields vs a)
    (hl : l.isLocation = true) : (Value.node p vs l).Assembles [.nodeOf p] a := by
  refine ⟨⟨admits_nodeOf_iff.mpr ?_, isWellTyped_node_iff.mpr ⟨hl, h.forall₂⟩⟩, ?_⟩
  · simp [isNodeOf, production?]
  · rw [nodes_node]
    exact h.sublist.cons _

/-- A synthetic node assembles what its fields assemble. -/
theorem Assembly.tree {p : Production} (h : Assembly p.fields vs a) :
    (Value.tree p vs).Assembles [.nodeOf p] a := h.node rfl

/-- The nodes in a tuple are those of its first member, and then those of the others. -/
theorem nodes_tuple_cons (hv : v.isNode = true) (vs : List Value) :
    (tuple (v :: vs)).nodes = v.nodes ++ (tuple vs).nodes := by
  rw [nodes_of_isNode hv]
  simp [nodes, trees, hv]

theorem admits_children_tuple_iff :
    DeclaredType.admits [.children] (tuple vs) = true ↔ ∀ v ∈ vs, v.isNode = true := by
  simp [DeclaredType.admits, Shape.holds]

theorem admits_tree_iff : DeclaredType.admits [.tree] v = true ↔ v.isNode = true := by
  simp [DeclaredType.admits, Shape.holds]

theorem assembles_tuple_nil : (tuple []).Assembles [.children] [] :=
  ⟨by decide, List.Sublist.refl _⟩

/-- A tuple assembles what its members assemble. -/
theorem Assembles.tuple_cons (hv : v.Assembles [.tree] a)
    (hvs : (tuple vs).Assembles [.children] b) :
    (tuple (v :: vs)).Assembles [.children] (a ++ b) := by
  have hnode : v.isNode = true := admits_tree_iff.mp hv.1.1
  have hnodes := admits_children_tuple_iff.mp hvs.1.1
  refine ⟨⟨admits_children_tuple_iff.mpr (List.forall_mem_cons.mpr ⟨hnode, hnodes⟩), ?_⟩, ?_⟩
  · rw [IsWellTyped, nodes_tuple_cons hnode]
    intro n hn
    rcases List.mem_append.mp hn with hn | hn
    · exact hv.1.2 n hn
    · exact hvs.1.2 n hn
  · rw [List.flatMap_append, nodes_tuple_cons hnode]
    exact hv.2.append hvs.2

/-- A tuple of trees assembles them. -/
theorem assembles_tuple (h : ∀ v ∈ vs, v.HasType [.tree]) :
    (tuple vs).Assembles [.children] vs := by
  induction vs with
  | nil => exact assembles_tuple_nil
  | cons v vs ih =>
    rw [List.forall_mem_cons] at h
    have hv := h.1.assembles
    rw [trees_of_isNode (admits_tree_iff.mp h.1.1)] at hv
    exact hv.tuple_cons (ih h.2)

/-! ### Arguments -/

/-- An argument hands over no more than the trees it brings along. -/
theorem passedAs_sublist (v : Value) (τ : DeclaredType) : List.Sublist (v.passedAs τ) v.trees := by
  unfold passedAs
  split_ifs
  · exact List.nil_sublist _
  · exact List.Sublist.refl _

/-- Where no name is expected, an argument hands over all its trees. -/
theorem passedAs_eq_trees (hτ : Shape.name ∉ τ) : v.passedAs τ = v.trees := by
  simp [passedAs, hτ]

theorem passedAs_eq_nil (h : v.trees = []) (τ : DeclaredType) : v.passedAs τ = [] :=
  List.sublist_nil.mp (h ▸ v.passedAs_sublist τ)

theorem Assembles.of_sublist (h : v.Assembles τ a) (hb : List.Sublist b a) : v.Assembles τ b :=
  ⟨h.1, (hb.flatMap preorder).trans h.2⟩

/-- An argument that is put in its place as it is assembles what it hands over. -/
theorem HasType.assembles_passedAs (h : v.HasType τ) : v.Assembles τ (v.passedAs τ) :=
  h.assembles.of_sublist (v.passedAs_sublist τ)

/-- There are no nodes among texts. -/
theorem filter_isNode_of_texts {items : List Value} (h : items.all isText = true) :
    items.filter isNode = [] := by
  refine List.filter_eq_nil_iff.mpr fun item hitem => ?_
  obtain ⟨t, rfl⟩ := isText_iff.mp (List.all_eq_true.mp h item hitem)
  exact Bool.false_ne_true

/-- A value of a shape without trees brings none along.  Among these shapes there is one of
sequences, and its members are texts. -/
theorem trees_eq_nil_of_isTreeless {s : Shape} (hs : s.isTreeless = true)
    (h : s.holds v = true) : v.trees = [] := by
  cases s with
  | texts =>
    cases v with
    | list items => exact filter_isNode_of_texts h
    | tuple items => exact filter_isNode_of_texts h
    | _ => cases h
  | name | tree | nodeOf | children | trees | descriptor => cases hs
  | _ => cases v <;> first | rfl | cases h

/-- A value of a type without trees brings none along. -/
theorem HasType.trees_eq_nil (h : v.HasType τ) (hτ : τ.all Shape.isTreeless = true) :
    v.trees = [] := by
  obtain ⟨s, hs, hsv⟩ := DeclaredType.admits_iff.mp h.1
  exact trees_eq_nil_of_isTreeless (List.all_eq_true.mp hτ s hs) hsv

theorem HasType.passedAs_eq_nil (h : v.HasType τ) (hτ : τ.all Shape.isTreeless = true)
    (σ : DeclaredType) : v.passedAs σ = [] :=
  Value.passedAs_eq_nil (h.trees_eq_nil hτ) σ

end Value

open Value

/-- A builder returns a value that assembles the given trees. -/
def Built.Assembles (r : Built) (τ : DeclaredType) (kept : List Value) : Prop :=
  ∃ v, r = .ok v ∧ v.Assembles τ kept

theorem Built.Assembles.of_sublist {r : Built} {τ : DeclaredType} {a b : List Value}
    (h : r.Assembles τ a) (hb : List.Sublist b a) : r.Assembles τ b := by
  obtain ⟨v, hr, hv⟩ := h
  exact ⟨v, hr, hv.of_sublist hb⟩

/-! ### Names -/

namespace Name

variable {v : Value}

theorem token_hasType (h : v.HasType DeclaredType.tokenName) :
    ∃ w, token v = .ok w ∧ w.HasType [.identifierToken] := by
  cases v with
  | text t => exact ⟨_, rfl, rfl, isWellTyped_of_trees_eq_nil rfl⟩
  | identifier n l => exact ⟨_, rfl, rfl, isWellTyped_of_trees_eq_nil rfl⟩
  | node p fields l => cases p <;> cases h.1
  | _ => cases h.1

/-- A binding identifier or an identifier expression, around a token. -/
theorem hasType_tree_identifier {p : Production}
    (hp : p.fields = [⟨"identifier_token", .identifierToken⟩]) (n l : Value) :
    (Value.tree p [.identifier n l]).HasType [.nodeOf p] := by
  have htoken : (Value.identifier n l).HasType FieldKind.identifierToken.type :=
    ⟨rfl, isWellTyped_of_trees_eq_nil rfl⟩
  have hfields : Assembly [⟨"identifier_token", .identifierToken⟩] [.identifier n l] [] :=
    .last htoken.assembles_nil
  rw [← hp] at hfields
  exact hfields.tree.1

/-- A name is as well-typed as a declaration as it is as a reference. -/
theorem isWellTyped_converted {fields : List Value} {l : Value} :
    (Value.node .bindingIdentifier fields l).IsWellTyped
      ↔ (Value.node .identifierExpression fields l).IsWellTyped := by
  have hsame : Production.bindingIdentifier.fields = Production.identifierExpression.fields := rfl
  exact isWellTyped_node_congr hsame

theorem binding_hasType (h : v.HasType [.name]) :
    ∃ w, binding v = .ok w ∧ w.HasType [.nodeOf .bindingIdentifier] := by
  cases v with
  | text t => exact ⟨_, rfl, hasType_tree_identifier rfl _ _⟩
  | identifier n l => exact ⟨_, rfl, hasType_tree_identifier rfl _ _⟩
  | node p fields l =>
    have hp : p = .bindingIdentifier ∨ p = .identifierExpression := by
      simpa [DeclaredType.admits, Shape.holds, isName, isNodeOf, production?] using h.1
    rcases hp with rfl | rfl
    · exact ⟨_, rfl, rfl, h.2⟩
    · exact ⟨_, rfl, rfl, isWellTyped_converted.mpr h.2⟩
  | _ => cases h.1

theorem reference_hasType (h : v.HasType [.name]) :
    ∃ w, reference v = .ok w ∧ w.HasType [.nodeOf .identifierExpression] := by
  cases v with
  | text t => exact ⟨_, rfl, hasType_tree_identifier rfl _ _⟩
  | identifier n l => exact ⟨_, rfl, hasType_tree_identifier rfl _ _⟩
  | node p fields l =>
    have hp : p = .bindingIdentifier ∨ p = .identifierExpression := by
      simpa [DeclaredType.admits, Shape.holds, isName, isNodeOf, production?] using h.1
    rcases hp with rfl | rfl
    · exact ⟨_, rfl, rfl, isWellTyped_converted.mp h.2⟩
    · exact ⟨_, rfl, rfl, h.2⟩
  | _ => cases h.1

theorem passedAs_name (h : v.HasType [.name]) : v.passedAs [.name] = [] := by
  have hname : v.isName = true := by simpa [DeclaredType.admits, Shape.holds] using h.1
  rw [passedAs, hname]
  rfl

theorem binding_assembles (h : v.HasType [.name]) :
    (binding v).Assembles [.nodeOf .bindingIdentifier] (v.passedAs [.name]) := by
  obtain ⟨w, hw, htype⟩ := binding_hasType h
  rw [passedAs_name h]
  exact ⟨w, hw, htype.assembles_nil⟩

theorem reference_assembles (h : v.HasType [.name]) :
    (reference v).Assembles [.nodeOf .identifierExpression] (v.passedAs [.name]) := by
  obtain ⟨w, hw, htype⟩ := reference_hasType h
  rw [passedAs_name h]
  exact ⟨w, hw, htype.assembles_nil⟩

/-- An operand is kept, or becomes a reference if it is a text or a token. -/
theorem operand_assembles (h : v.HasType [.text, .identifierToken, .tree]) :
    (operand v).Assembles [.tree] v.trees := by
  cases v with
  | text t => exact ((hasType_tree_identifier rfl _ _).weaken rfl).assembles_nil
  | identifier n l => exact ((hasType_tree_identifier rfl _ _).weaken rfl).assembles_nil
  | node p fields l => exact HasType.assembles ⟨rfl, h.2⟩
  | _ => cases h.1

end Name

/-! ### Intakes -/

open DeclaredType

namespace Intake

variable {i : Intake} {τ : DeclaredType} {v : Value}

/-- Whether the intake takes every value of the type. -/
def accepts : Intake → DeclaredType → Bool
  | value, _ => true
  | name, τ => τ.isBelow tokenName
  | label, τ => τ.isBelow (orNothing tokenName)
  | binding, τ => τ = [.name]
  | declared, τ => τ = target
  | key, τ => τ.isBelow DeclaredType.key
  | sequence, τ => τ.isBelow [.trees]
  | arguments, τ => τ.isBelow (orNothing [.nodeOf .argumentList])

/-- The type of what becomes of the values of a type. -/
def gives : Intake → DeclaredType → DeclaredType
  | value, τ => τ
  | name, _ => [.identifierToken]
  | label, _ => orNothing [.identifierToken]
  | binding, _ => [.nodeOf .bindingIdentifier]
  | declared, _ => [.nodeOf .bindingIdentifier, .nodeOf .objectPattern, .nodeOf .arrayPattern]
  | key, _ => [.token]
  | sequence, _ => [.children]
  | arguments, _ => [.nodeOf .argumentList]

/-- A label becomes a token, unless it is left out. -/
theorem label_assembles (h : v.HasType (orNothing tokenName)) :
    (label.take v).Assembles (orNothing [.identifierToken]) v.trees := by
  rw [h.trees_eq_nil rfl]
  show Built.Assembles (if v.isTruthy then Name.token v else .ok .none) _ _
  split_ifs with ht
  · obtain ⟨w, hw, hwt⟩ := Name.token_hasType (h.of_orNothing (isNone_of_isTruthy ht))
    exact ⟨w, hw, (hwt.weaken rfl).assembles_nil⟩
  · exact ⟨.none, rfl, (none_hasType List.mem_cons_self).assembles_nil⟩

/-- What can be declared is kept as it is, unless it is a name in another shape. -/
theorem isDeclarable_cases (h : v.HasType target) :
    v.isDeclarable = true ∧ (declared.gives target).admits v = true
      ∨ v.isDeclarable = false ∧ v.isName = true := by
  cases v with
  | text t => exact .inr ⟨rfl, rfl⟩
  | identifier n l => exact .inr ⟨rfl, rfl⟩
  | node p fields l =>
    have hp : ((p = .bindingIdentifier ∨ p = .identifierExpression) ∨ p = .objectPattern)
        ∨ p = .arrayPattern := by
      simpa [admits, Shape.holds, isName, isNodeOf, production?, target, or_assoc] using h.1
    rcases hp with ((rfl | rfl) | rfl) | rfl
    · exact .inl ⟨rfl, rfl⟩
    · exact .inr ⟨rfl, rfl⟩
    · exact .inl ⟨rfl, rfl⟩
    · exact .inl ⟨rfl, rfl⟩
  | _ => cases h.1

/-- What is declared is kept, or becomes a declared name. -/
theorem declared_assembles (h : v.HasType target) :
    (declared.take v).Assembles (declared.gives target) (v.passedAs target) := by
  show Built.Assembles (if v.isDeclarable then .ok v else Name.binding v) _ _
  rcases isDeclarable_cases h with ⟨hd, hv⟩ | ⟨hd, hname⟩
  · rw [if_pos hd]
    have hown : v.HasType (declared.gives target) := ⟨hv, h.2⟩
    exact ⟨v, rfl, hown.assembles.of_sublist (v.passedAs_sublist target)⟩
  · have htype : v.HasType [.name] := ⟨by simp [admits, Shape.holds, hname], h.2⟩
    obtain ⟨w, hw, hwt⟩ := Name.binding_hasType htype
    have hpassed : v.passedAs target = [] := by
      rw [passedAs, hname]
      rfl
    rw [hd, if_neg Bool.false_ne_true, hpassed]
    exact ⟨w, hw, (hwt.weaken rfl).assembles_nil⟩

theorem propertyName_hasType (t : Text) : (Token.propertyName t).HasType [.token] := by
  unfold Token.propertyName
  split_ifs <;> exact ⟨rfl, isWellTyped_of_trees_eq_nil rfl⟩

/-- A property key becomes a token, or is one already. -/
theorem key_assembles (h : v.HasType DeclaredType.key) :
    (key.take v).Assembles [.token] v.trees := by
  cases v with
  | text t => exact ⟨_, rfl, (propertyName_hasType t).assembles_nil⟩
  | token k l => exact ⟨_, rfl, HasType.assembles ⟨rfl, h.2⟩⟩
  | identifier n l => exact ⟨_, rfl, HasType.assembles ⟨rfl, h.2⟩⟩
  | literal k s l => exact ⟨_, rfl, HasType.assembles ⟨rfl, h.2⟩⟩
  | _ => cases h.1

/-- A list or a tuple of trees becomes a tuple of the same trees. -/
theorem sequence_assembles (h : v.HasType [.trees]) :
    (sequence.take v).Assembles [.children] v.trees := by
  cases v with
  | list items => exact ⟨.tuple items, rfl, HasType.assembles h⟩
  | tuple items => exact ⟨.tuple items, rfl, HasType.assembles h⟩
  | _ => cases h.1

theorem emptyArguments_hasType :
    (Value.tree .argumentList [.tuple []]).HasType [.nodeOf .argumentList] :=
  (Assembly.tree (p := .argumentList) (.last assembles_tuple_nil)).1

/-- An argument list is kept, and a missing one is empty. -/
theorem arguments_assembles (h : v.HasType (orNothing [.nodeOf .argumentList])) :
    (arguments.take v).Assembles [.nodeOf .argumentList] v.trees := by
  cases v with
  | none => exact ⟨_, rfl, emptyArguments_hasType.assembles_nil⟩
  | node p fields l => exact ⟨_, rfl, HasType.assembles h⟩
  | _ => cases h.1

/-- Every value of an accepted type is taken, into a value of the type that the intake gives, and
with the trees that it hands over. -/
theorem take_assembles (hτ : i.accepts τ = true) (h : v.HasType τ) :
    (i.take v).Assembles (i.gives τ) (v.passedAs τ) := by
  cases i with
  | value => exact ⟨v, rfl, h.assembles_passedAs⟩
  | name =>
    have hname := h.weaken hτ
    obtain ⟨w, hw, hwt⟩ := Name.token_hasType hname
    rw [hname.passedAs_eq_nil rfl]
    exact ⟨w, hw, hwt.assembles_nil⟩
  | label => exact (label_assembles (h.weaken hτ)).of_sublist (v.passedAs_sublist τ)
  | binding =>
    obtain rfl : τ = [.name] := of_decide_eq_true hτ
    exact Name.binding_assembles h
  | declared =>
    obtain rfl : τ = target := of_decide_eq_true hτ
    exact declared_assembles h
  | key => exact (key_assembles (h.weaken hτ)).of_sublist (v.passedAs_sublist τ)
  | sequence => exact (sequence_assembles (h.weaken hτ)).of_sublist (v.passedAs_sublist τ)
  | arguments => exact (arguments_assembles (h.weaken hτ)).of_sublist (v.passedAs_sublist τ)

end Intake

/-! ### Slots -/

namespace CallForm

@[simp]
theorem takes_done {args : List Value} : done.Takes args ↔ args = [] := Iff.rfl

@[simp]
theorem takes_one {τ : DeclaredType} {form : CallForm} {args : List Value} :
    (one τ form).Takes args ↔ ∃ v rest, args = v :: rest ∧ v.HasType τ ∧ form.Takes rest := by
  cases args <;> simp [Takes]

@[simp]
theorem takes_exactly_nil {args : List Value} : (exactly []).Takes args ↔ args = [] := Iff.rfl

@[simp]
theorem takes_exactly_cons {τ : DeclaredType} {τs : List DeclaredType} {args : List Value} :
    (exactly (τ :: τs)).Takes args
      ↔ ∃ v rest, args = v :: rest ∧ v.HasType τ ∧ (exactly τs).Takes rest := takes_one

@[simp]
theorem passed_exactly_nil (args : List Value) : (exactly []).passed args = [] := by
  cases args <;> rfl

@[simp]
theorem passed_exactly_cons (τ : DeclaredType) (τs : List DeclaredType) (v : Value)
    (args : List Value) :
    (exactly (τ :: τs)).passed (v :: args) = v.passedAs τ ++ (exactly τs).passed args := rfl

theorem mem_upTo_one {form : CallForm} {required : List DeclaredType} {τ : DeclaredType} :
    form ∈ upTo required [τ] ↔ form = exactly required ∨ form = exactly (required ++ [τ]) := by
  simp [upTo]

end CallForm

namespace Slot

/-- Whether a value, taken by itself, is of the type. -/
def givesWhenLeftOut (slot : Slot) (τ : DeclaredType) : Bool :=
  slot.default?.any fun v =>
    match slot.intake.take v with
    | .ok w => w.HasType τ
    | .error _ => false

/-- A slot that may be left out has a default, which is taken. -/
theorem exists_of_givesWhenLeftOut {slot : Slot} {τ : DeclaredType}
    (h : slot.givesWhenLeftOut τ = true) :
    ∃ v w, slot.default? = some v ∧ slot.intake.take v = .ok w ∧ w.HasType τ := by
  obtain ⟨intake, default?⟩ := slot
  cases default? with
  | none => cases h
  | some v =>
    change (match intake.take v with
      | .ok w => decide (w.HasType τ)
      | .error _ => false) = true at h
    split at h
    · next w hw => exact ⟨v, w, rfl, hw, of_decide_eq_true h⟩
    · cases h

/-- Whether arguments of the form can be taken slot by slot into fields of their declared types. -/
def fills : List Slot → CallForm → List Field → Bool
  | [], .done, [] => true
  | slot :: slots, .one τ form, f :: fs =>
    slot.intake.accepts τ && (slot.intake.gives τ).isBelow f.kind.type && fills slots form fs
  | slot :: slots, .done, f :: fs => slot.givesWhenLeftOut f.kind.type && fills slots .done fs
  | _, _, _ => false

/-- Slots that fill the fields from arguments of the form do so for all of them. -/
theorem takeAll_assembly {slots : List Slot} {form : CallForm} {fs : List Field}
    (h : fills slots form fs = true) {args : List Value} (hargs : form.Takes args) :
    ∃ vs, takeAll slots args = .ok vs ∧ Assembly fs vs (form.passed args) := by
  -- slots, form and fields run in step; behind the last argument the slots take their defaults
  fun_induction fills slots form fs generalizing args with
  | case1 =>
    obtain rfl := CallForm.takes_done.mp hargs
    exact ⟨[], rfl, .nil⟩
  | case2 slot slots τ form f fs ih =>
    obtain ⟨v, rest, rfl, hv, hrest⟩ := CallForm.takes_one.mp hargs
    simp only [Bool.and_eq_true] at h
    obtain ⟨⟨haccepts, hbelow⟩, hfills⟩ := h
    obtain ⟨w, hw, hwt⟩ := Intake.take_assembles haccepts hv
    obtain ⟨ws, hws, hfields⟩ := ih hfills hrest
    refine ⟨w :: ws, ?_, .cons (hwt.weaken hbelow) hfields⟩
    rw [takeAll, hw, hws]
    rfl
  | case3 slot slots f fs ih =>
    obtain rfl := CallForm.takes_done.mp hargs
    simp only [Bool.and_eq_true] at h
    obtain ⟨v, w, hdefault, hw, hwt⟩ := exists_of_givesWhenLeftOut h.1
    obtain ⟨ws, hws, hfields⟩ := ih h.2 hargs
    refine ⟨w :: ws, ?_, .cons hwt.assembles_nil hfields⟩
    simp only [takeAll, hdefault, hw, hws]
    rfl
  | case4 => cases h

end Slot

/-! ### Children -/

/-- A sequence of trees has them as its members and brings them along. -/
theorem exists_members {v : Value} (h : v.HasType [.trees]) :
    ∃ items, v.members? = some items ∧ v.trees = items ∧ ∀ t ∈ items, t.HasType [.tree] := by
  have hmembers : ∀ items : List Value, items.all isNode = true → items.filter isNode = v.trees →
      v.trees = items ∧ ∀ t ∈ items, t.HasType [.tree] := by
    intro items hall htrees
    have hnodes : items.filter isNode = items := List.filter_eq_self.mpr (List.all_eq_true.mp hall)
    rw [← htrees, hnodes]
    refine ⟨rfl, fun t ht => ⟨admits_tree_iff.mpr (List.all_eq_true.mp hall t ht), ?_⟩⟩
    rw [← hnodes, htrees] at ht
    exact isWellTyped_iff_forall_trees.mp h.2 t ht
  cases v with
  | list items => exact ⟨items, rfl, hmembers items (by simpa [admits, Shape.holds] using h.1) rfl⟩
  | tuple items => exact ⟨items, rfl, hmembers items (by simpa [admits, Shape.holds] using h.1) rfl⟩
  | _ => cases h.1

/-- Trees one by one stand for themselves. -/
theorem gather_of_nodes {vs : List Value} (h : ∀ v ∈ vs, v.isNode = true) : gather vs = vs := by
  refine gather_of_head? fun x hx => ?_
  obtain ⟨p, fields, l, rfl⟩ := isNode_iff.mp (h x (List.mem_of_mem_head? hx))
  rfl

/-- Well-typed trees one by one stand for themselves. -/
theorem gather_of_trees {vs : List Value} (h : ∀ v ∈ vs, v.HasType [.tree]) : gather vs = vs :=
  gather_of_nodes fun v hv => admits_tree_iff.mp (h v hv).1

theorem Value.Assembles.gather {vs a : List Value} (h : (Value.tuple vs).Assembles [.children] a) :
    (Value.tuple (gather vs)).Assembles [.children] a := by
  rwa [gather_of_nodes (admits_children_tuple_iff.mp h.1.1)]

/-- The arguments of a form for children hand over the children that they stand for. -/
theorem CallForm.passed_children {form : CallForm} (hform : form ∈ children []) {args : List Value}
    (hargs : form.Takes args) :
    form.passed args = gather args ∧ ∀ v ∈ gather args, v.HasType [.tree] := by
  have heach : ∀ vs : List Value, (∀ v ∈ vs, v.HasType [.tree]) →
      vs.flatMap (fun v => v.passedAs [.tree]) = vs := by
    intro vs hvs
    calc vs.flatMap (fun v => v.passedAs [.tree])
        = vs.flatMap fun v => [v] :=
          List.flatMap_congr fun v hv => trees_of_isNode (admits_tree_iff.mp (hvs v hv).1)
      _ = vs := List.flatMap_singleton' vs
  simp only [children, List.foldr_nil, List.mem_cons, List.not_mem_nil, or_false] at hform
  -- either all arguments are trees, which are left as they are, or the first one is a sequence
  rcases hform with rfl | rfl
  · rw [gather_of_trees hargs]
    exact ⟨heach args hargs, hargs⟩
  · obtain ⟨v, rest, rfl, hv, hrest⟩ := takes_one.mp hargs
    obtain ⟨items, hmembers, htrees, hitems⟩ := exists_members hv
    have hgather : gather (v :: rest) = items ++ rest := by rw [gather, hmembers]
    have hpassed : v.passedAs [.trees] = items := htrees
    rw [hgather, passed, hpassed, passed, heach rest hrest]
    exact ⟨rfl, List.forall_mem_append.mpr ⟨hitems, hrest⟩⟩

/-! ### Rules for a fixed number of arguments -/

namespace Builder

variable {form : CallForm} {args : List Value} {τ σ ρ : DeclaredType}

theorem nullary_assembles {v : Value} (hform : form ∈ [CallForm.exactly []])
    (hargs : form.Takes args) (h : v.HasType τ) :
    (nullary v args).Assembles τ (form.passed args) := by
  obtain rfl := List.mem_singleton.mp hform
  obtain rfl := CallForm.takes_exactly_nil.mp hargs
  exact ⟨v, rfl, h.assembles_nil⟩

/-- A rule for one argument assembles what the argument hands over. -/
theorem unary_assembles {rule : Value → Built} (hform : form ∈ [CallForm.exactly [σ]])
    (hargs : form.Takes args)
    (h : ∀ v : Value, v.HasType σ → (rule v).Assembles τ (v.passedAs σ)) :
    (unary rule args).Assembles τ (form.passed args) := by
  obtain rfl := List.mem_singleton.mp hform
  obtain ⟨v, _, rfl, hv, rfl⟩ := CallForm.takes_exactly_cons.mp hargs
  have hpassed : (CallForm.exactly [σ]).passed [v] = v.passedAs σ := by simp
  rw [hpassed]
  exact h v hv

/-- A rule for two arguments assembles what both of them hand over, in their order. -/
theorem binary_assembles {rule : Value → Value → Value} (hform : form ∈ [CallForm.exactly [σ, ρ]])
    (hargs : form.Takes args)
    (h : ∀ v w : Value, v.HasType σ → w.HasType ρ →
      (rule v w).Assembles τ (v.passedAs σ ++ w.passedAs ρ)) :
    (binary rule args).Assembles τ (form.passed args) := by
  obtain rfl := List.mem_singleton.mp hform
  simp only [CallForm.takes_exactly_cons, CallForm.takes_exactly_nil] at hargs
  obtain ⟨v, _, rfl, hv, w, _, rfl, hw, rfl⟩ := hargs
  have hpassed : (CallForm.exactly [σ, ρ]).passed [v, w] = v.passedAs σ ++ w.passedAs ρ := by simp
  rw [hpassed]
  exact ⟨rule v w, rfl, h v w hv hw⟩

/-- If the second of two arguments is left out, the default stands in for it. -/
theorem binaryOr_assembles {default : Value} {rule : Value → Value → Value}
    (hform : form ∈ CallForm.upTo [σ] [ρ]) (hargs : form.Takes args) (hdefault : default.HasType ρ)
    (hnone : default.trees = [])
    (h : ∀ v w : Value, v.HasType σ → w.HasType ρ →
      (rule v w).Assembles τ (v.passedAs σ ++ w.passedAs ρ)) :
    (binaryOr default rule args).Assembles τ (form.passed args) := by
  rcases CallForm.mem_upTo_one.mp hform with rfl | rfl <;>
    simp only [List.cons_append, List.nil_append, CallForm.takes_exactly_cons,
      CallForm.takes_exactly_nil] at hargs
  · obtain ⟨v, _, rfl, hv, rfl⟩ := hargs
    have hrule := h v default hv hdefault
    rw [passedAs_eq_nil hnone, List.append_nil] at hrule
    simpa using ⟨rule v default, rfl, hrule⟩
  · obtain ⟨v, _, rfl, hv, w, _, rfl, hw, rfl⟩ := hargs
    simpa using ⟨rule v w, rfl, h v w hv hw⟩

/-- A rule for a number holds no tree, since none is handed over. -/
theorem onNumber_assembles {rule : Number → Value} (hform : form ∈ [CallForm.exactly [[.number]]])
    (hargs : form.Takes args) (h : ∀ x, (rule x).HasType τ) :
    (onNumber rule args).Assembles τ (form.passed args) := by
  refine unary_assembles hform hargs fun v hv => ?_
  rw [hv.passedAs_eq_nil rfl]
  cases v with
  | number x => exact ⟨rule x, rfl, (h x).assembles_nil⟩
  | _ => cases hv.1

/-- A rule for a text holds no tree, since none is handed over. -/
theorem onText_assembles {rule : Text → Value} (hform : form ∈ [CallForm.exactly [[.text]]])
    (hargs : form.Takes args) (h : ∀ t, (rule t).HasType τ) :
    (onText rule args).Assembles τ (form.passed args) := by
  refine unary_assembles hform hargs fun v hv => ?_
  rw [hv.passedAs_eq_nil rfl]
  cases v with
  | text t => exact ⟨rule t, rfl, (h t).assembles_nil⟩
  | _ => cases hv.1

end Builder

end EcmaTree
