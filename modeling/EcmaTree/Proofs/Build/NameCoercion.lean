import EcmaTree.Build.Builder
import EcmaTree.Build.Property
import EcmaTree.Proofs.Tree.Typing
import EcmaTree.Tree.Equality

/-!
# Names where they are declared and where they are referred to

A name comes in four shapes, and there is a node for it in declarations and another one in
references.  The two coercions that make these nodes succeed on the four shapes and on nothing else
(`Name.exists_nodes`, `Name.binding_of_not_isName`, `Name.reference_of_not_isName`).  Both nodes
have the token of the name, and the location of the node that the name came in.  So nothing is lost
on the way from one to the other (`Builder.name_coercions_agree`).

A token alone does not know where its node was.  The reference that is made from the token of a node
is synthetic, where the reference that is made from the node itself keeps its place.  The two are
the same for names that come without a node or in a synthetic one, and for no others
(`Builder.reference_through_token`).  This is not for want of a better coercion: two references at
different places can have one token, and both stay as they are.
-/

namespace EcmaTree

namespace Value

/-- The identifier token of a name: its own, or a synthetic one for a text. -/
def nameToken? : Value → Option Value
  | text t => some (Token.identifier t)
  | identifier name l => some (identifier name l)
  | node .bindingIdentifier [nameToken] _ => some nameToken
  | node .identifierExpression [nameToken] _ => some nameToken
  | _ => Option.none

/-- The location of a node.  What is no node is at no place. -/
def nodeLocation : Value → Value
  | node _ _ l => l
  | _ => none

/-- A node of a production for a name: it has the token of the name, and the location of the node
that the name came in. -/
structure IsNodeFor (w : Value) (p : Production) (v : Value) : Prop where
  production : w.isNodeOf p = true
  token : w.nameToken? = v.nameToken?
  location : w.location? = some v.nodeLocation

theorem isName_iff {v : Value} :
    v.isName = true ↔ (∃ t, v = text t) ∨ (∃ name l, v = identifier name l) ∨
      (∃ fields l, v = node .bindingIdentifier fields l) ∨
      ∃ fields l, v = node .identifierExpression fields l := by
  cases v <;> simp [isName, isNodeOf, production?]

theorem isNone_eq_false {v : Value} (h : v ≠ none) : v.isNone = false := by
  cases v with
  | none => exact absurd rfl h
  | _ => rfl

end Value

open Value

/-! ### The coercions -/

namespace Name

variable {v : Value}

/-- The two nodes for a name have the same fields and the same location. -/
theorem exists_nodes (h : v.isName = true) :
    ∃ fields l,
      binding v = .ok (.node .bindingIdentifier fields l) ∧
      reference v = .ok (.node .identifierExpression fields l) ∧
      (Value.node .bindingIdentifier fields l).IsNodeFor .bindingIdentifier v ∧
      (Value.node .identifierExpression fields l).IsNodeFor .identifierExpression v := by
  rcases isName_iff.mp h with ⟨t, rfl⟩ | ⟨name, l, rfl⟩ | ⟨fields, l, rfl⟩ | ⟨fields, l, rfl⟩
  · exact ⟨_, _, rfl, rfl, ⟨rfl, rfl, rfl⟩, ⟨rfl, rfl, rfl⟩⟩
  · exact ⟨_, _, rfl, rfl, ⟨rfl, rfl, rfl⟩, ⟨rfl, rfl, rfl⟩⟩
  · refine ⟨fields, l, rfl, rfl, ⟨rfl, rfl, rfl⟩, ⟨rfl, ?_, rfl⟩⟩
    rcases fields with _ | ⟨nameToken, _ | _⟩ <;> rfl
  · refine ⟨fields, l, rfl, rfl, ⟨rfl, ?_, rfl⟩, ⟨rfl, rfl, rfl⟩⟩
    rcases fields with _ | ⟨nameToken, _ | _⟩ <;> rfl

theorem binding_of_not_isName (h : v.isName = false) :
    binding v = .error (.notBindable v.kindName) := by
  unfold binding
  split
  case h_5 => rfl
  all_goals cases h

theorem reference_of_not_isName (h : v.isName = false) :
    reference v = .error (.notReferable v.kindName) := by
  unfold reference
  split
  case h_5 => rfl
  all_goals cases h

end Name

namespace Builder

theorem bindingIdentifier_build (v : Value) :
    build (.node .bindingIdentifier) [v] = Name.binding v := rfl

/-- **The two coercions of names.**  They succeed on the same values, which are the names in the
four shapes, and refuse every other value by its kind.  Of a name they make two nodes with its token
and its place.  A node that has the right form already stays as it is, and each coercion gives the
same for a name as for the node that the other one has made of it. -/
theorem name_coercions_agree (v : Value) :
    (v.isName = true ∧ ∃ declared referred,
        build (.node .bindingIdentifier) [v] = .ok declared ∧
        build (.node .identifierExpression) [v] = .ok referred ∧
        declared.IsNodeFor .bindingIdentifier v ∧
        referred.IsNodeFor .identifierExpression v ∧
        build (.node .bindingIdentifier) [declared] = .ok declared ∧
        build (.node .identifierExpression) [referred] = .ok referred ∧
        build (.node .bindingIdentifier) [referred] = .ok declared ∧
        build (.node .identifierExpression) [declared] = .ok referred) ∨
      (v.isName = false ∧
        build (.node .bindingIdentifier) [v] = .error (.notBindable v.kindName) ∧
        build (.node .identifierExpression) [v] = .error (.notReferable v.kindName) ∧
        (BuildError.notBindable v.kindName).message
          = Text.ofString "cannot bind " ++ Text.ofString v.kindName
            ++ Text.ofString " as an identifier" ∧
        (BuildError.notReferable v.kindName).message
          = Text.ofString "cannot reference " ++ Text.ofString v.kindName
            ++ Text.ofString " as an identifier") := by
  cases h : v.isName with
  | true =>
    obtain ⟨fields, l, hbinding, hreference, hdeclared, hreferred⟩ := Name.exists_nodes h
    -- between the two nodes only the production is exchanged
    exact .inl ⟨rfl, _, _, hbinding, hreference, hdeclared, hreferred, rfl, rfl, rfl, rfl⟩
  | false =>
    have hbinding := Name.binding_of_not_isName h
    have hreference := Name.reference_of_not_isName h
    exact .inr ⟨rfl, hbinding, hreference, rfl, rfl⟩

end Builder

/-! ### Through the token alone -/

namespace Name

/-- The nodes for a name that has a token. -/
theorem nodes_of_nameToken {v nameToken : Value} (h : v.nameToken? = some nameToken) :
    binding v = .ok (.node .bindingIdentifier [nameToken] v.nodeLocation) ∧
      reference v = .ok (.node .identifierExpression [nameToken] v.nodeLocation) := by
  unfold nameToken? at h
  split at h
  case h_5 => cases h
  all_goals
    obtain rfl := Option.some.inj h
    exact ⟨rfl, rfl⟩

end Name

namespace Builder

/-- The token of a declared name, asked of its node, and the reference that is made from it. -/
def referenceThroughToken (v : Value) : Built := do
  let declared ← build (.node .bindingIdentifier) [v]
  let nameToken ← declared.property (.field "identifier_token")
  build (.node .identifierExpression) [nameToken]

/-- A node equals the synthetic one with the same fields only if it has no location. -/
theorem equal_tree_eq_false {p : Production} {fields : List Value} {l : Value} (h : l ≠ .none) :
    (Value.tree p fields).equal (.node p fields l) = false := by
  rw [Value.tree, equal, equal, isNone_eq_false h, Bool.and_false]

/-- **References through the token.**  For every name in one of the four shapes, with any identifier
token, the reference that is made from the token of its declaration is the synthetic one.  The
reference that is made from the name itself has the same token, at the location of the node that the
name came in.  They are the same iff there is no such location, and with one they do not even count
as equal. -/
theorem reference_through_token {v name l : Value}
    (h : v.nameToken? = some (.identifier name l)) :
    ∃ made direct, referenceThroughToken v = .ok made ∧
      build (.node .identifierExpression) [v] = .ok direct ∧
      made = .tree .identifierExpression [.identifier name l] ∧
      direct = .node .identifierExpression [.identifier name l] v.nodeLocation ∧
      (made = direct ↔ v.nodeLocation = .none) ∧
      (v.nodeLocation ≠ .none → made.equal direct = false) := by
  obtain ⟨hbinding, hreference⟩ := Name.nodes_of_nameToken h
  have hmade : referenceThroughToken v
      = .ok (.tree .identifierExpression [.identifier name l]) := by
    rw [referenceThroughToken, bindingIdentifier_build, hbinding]
    rfl
  refine ⟨_, _, hmade, hreference, rfl, rfl, ?_, equal_tree_eq_false⟩
  rw [Value.tree, Value.node.injEq]
  exact ⟨fun hsame => hsame.2.2.symm, fun hl => ⟨rfl, rfl, hl.symm⟩⟩

/-- A declared name that was made from a located token. -/
theorem reference_through_token_synthetic :
    let l := Value.span (.string "a.js") (.int 1) .none .none .none .none
    let v := Value.tree .bindingIdentifier [.identifier (.string "x") l]
    v.nameToken? = some (.identifier (.string "x") l) ∧
      ∃ made direct, referenceThroughToken v = .ok made ∧
        build (.node .identifierExpression) [v] = .ok direct ∧ made = direct := by
  intro l v
  have h : v.nameToken? = some (.identifier (.string "x") l) := rfl
  obtain ⟨made, direct, hmade, hdirect, -, -, hsame, -⟩ := reference_through_token h
  exact ⟨h, made, direct, hmade, hdirect, hsame.mpr rfl⟩

/-- A reference that was read from source text: what is made from its token has no location. -/
theorem reference_through_token_located :
    let l := Value.span (.string "a.js") (.int 1) .none .none .none .none
    let v := Value.node .identifierExpression [.identifier (.string "x") l] l
    ∃ made direct, referenceThroughToken v = .ok made ∧
      build (.node .identifierExpression) [v] = .ok direct ∧
      made ≠ direct ∧ made.equal direct = false := by
  intro l v
  refine ⟨_, _, rfl, rfl, ?_, rfl⟩
  intro hsame
  have hl : Value.none = l := (Value.node.inj hsame).2.2
  exact Value.noConfusion hl

end Builder

end EcmaTree
