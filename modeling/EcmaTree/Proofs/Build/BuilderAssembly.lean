import EcmaTree.Proofs.Build.ProductionAssembly

/-!
# What builders assemble

Every idiom is a fixed arrangement of nodes, so what it assembles follows from what is put into it,
one rule for each arrangement.  Together with the builders of productions this covers the catalog
(`Builder.build_assembles`).  The one builder that takes a tree apart is the list of arguments that
pass parameters on: what it returns is well-typed (`Parameters.forwardList_hasType`), but a
parameter does not reappear in it.
-/

namespace EcmaTree

open Value DeclaredType CallForm

/-! ### Tokens and literals -/

namespace Token

theorem token_hasType (kind : TokenKind) (l : Value) : (Value.token kind l).HasType [.token] :=
  ⟨rfl, isWellTyped_of_trees_eq_nil rfl⟩

theorem literal_hasType (kind : TokenKind) (spelling : Text) :
    (literal kind spelling).HasType [.token] :=
  ⟨rfl, isWellTyped_of_trees_eq_nil rfl⟩

theorem boolean_hasType (b : Bool) : (boolean b).HasType [.token] := token_hasType _ _

theorem data_assembles {v : Value} (h : v.HasType [.text]) :
    (data v).Assembles [.token] (v.passedAs [.text]) := by
  have htext : v.isText = true := by simpa [admits, Shape.holds] using h.1
  obtain ⟨t, rfl⟩ := isText_iff.mp htext
  exact ⟨string t, rfl, (literal_hasType .string t.stringLiteral).assembles_nil⟩

end Token

namespace Idiom

variable {v w : Value} {vs : List Value} {a b : List Value}

theorem literal_hasType (h : v.HasType [.token]) :
    (literal v).HasType [.nodeOf .literalExpression] :=
  (Assembly.tree (p := .literalExpression) (.skip h .nil)).1

theorem booleanLiteral_hasType (b : Bool) :
    (booleanLiteral b).HasType [.nodeOf .literalExpression] :=
  literal_hasType (Token.boolean_hasType b)

theorem numberLiteral_hasType (x : Number) :
    (numberLiteral x).HasType [.nodeOf .literalExpression] :=
  literal_hasType (Token.literal_hasType _ _)

theorem referTo_hasType (name : Text) :
    (Name.referTo name).HasType [.nodeOf .identifierExpression] :=
  Name.hasType_tree_identifier rfl _ _

/-! ### Expressions and statements -/

theorem paren_assembles (h : v.Assembles [.tree] a) :
    (Value.tree .parenExpression [v]).Assembles [.nodeOf .parenExpression] a :=
  Assembly.tree (p := .parenExpression) (.last h)

theorem voidZero_hasType : voidZero.HasType [.nodeOf .parenExpression] := by
  have hzero := (numberLiteral_hasType (.int 0)).weaken (σ := [.tree]) rfl
  have hvoid := Assembly.tree (p := .unaryExpression)
    (.skip (Token.token_hasType .voidKeyword .none) (.last hzero.assembles_nil))
  exact (paren_assembles (hvoid.weaken rfl)).1

theorem statement_assembles (h : v.Assembles [.tree] a) :
    (statement v).Assembles [.nodeOf .expressionStatement] a :=
  Assembly.tree (p := .expressionStatement) (.last h)

theorem assignment_assembles (hv : v.Assembles [.tree] a) (hw : w.Assembles [.tree] b) :
    (assignment v w).Assembles [.nodeOf .binaryOperator] (a ++ b) :=
  Assembly.tree (p := .binaryOperator)
    (.cons hv (.skip (Token.token_hasType .equal .none) (.last hw)))

theorem assignmentStatement_assembles (hv : v.Assembles [.tree] a) (hw : w.Assembles [.tree] b) :
    (assignmentStatement v w).Assembles [.nodeOf .expressionStatement] (a ++ b) :=
  statement_assembles ((assignment_assembles hv hw).weaken rfl)

/-- A yield as a statement assembles its operand, if it has one. -/
theorem yieldStatement_assembles (hv : v.Assembles (orNothing [.tree]) a) (hw : w.HasType [.flag]) :
    (yieldStatement v w).Assembles [.nodeOf .expressionStatement] a := by
  have hyield := Assembly.tree (p := .yieldExpression) (.cons hv (.skip hw .nil))
  rw [List.append_nil] at hyield
  exact statement_assembles (hyield.weaken rfl)

/-! ### Calls -/

/-- An argument list assembles what its arguments stand for. -/
theorem argumentList_assembles (h : (Value.tuple (gather vs)).Assembles [.children] a) :
    (argumentList vs).Assembles [.nodeOf .argumentList] a :=
  Assembly.tree (p := .argumentList) (.last h)

theorem call_assembles (hv : v.Assembles [.tree] a) (hw : w.Assembles [.nodeOf .argumentList] b) :
    (Value.tree .callExpression [v, w]).Assembles [.nodeOf .callExpression] (a ++ b) :=
  Assembly.tree (p := .callExpression) (.cons hv (.last hw))

/-- A call without arguments has an empty argument list. -/
theorem callStatement_assembles (hv : v.Assembles [.tree] a)
    (hw : w.HasType (orNothing [.nodeOf .argumentList])) :
    (callStatement v w).Assembles [.nodeOf .expressionStatement] (a ++ w.trees) := by
  obtain ⟨list, hlist, htype⟩ := Intake.arguments_assembles hw
  have heq : (if w.isNone then argumentList [] else w) = list := by
    cases w <;> exact Except.ok.inj hlist
  rw [callStatement, heq]
  exact statement_assembles ((call_assembles hv htype).weaken rfl)

theorem member_assembles (hv : (Name.operand v).Assembles [.tree] a) (name : Text) :
    (member v name).Assembles [.nodeOf .memberExpression] a := by
  have hname : (Token.identifier name).HasType [.identifierToken] :=
    ⟨rfl, isWellTyped_of_trees_eq_nil rfl⟩
  have hmember := Assembly.tree (p := .memberExpression) (.cons hv (.skip hname .nil))
  rwa [List.append_nil] at hmember

/-- A call of a member assembles its object and then its arguments. -/
theorem memberCall_assembles (hv : (Name.operand v).Assembles [.tree] a) (name : Text)
    (h : (Value.tuple (gather vs)).Assembles [.children] b) :
    (memberCall v name vs).Assembles [.nodeOf .callExpression] (a ++ b) :=
  call_assembles ((member_assembles hv name).weaken rfl) (argumentList_assembles h)

/-- A tree as an operand is kept as it is. -/
theorem operand_of_tree (h : v.Assembles [.tree] a) : (Name.operand v).Assembles [.tree] a := by
  obtain ⟨p, fields, l, rfl⟩ := isNode_iff.mp (admits_tree_iff.mp h.1.1)
  exact h

/-- A call through `call` assembles the callee, the receiver and the arguments behind them. -/
theorem callCall_assembles (hv : v.Assembles [.tree] a) (hw : w.Assembles [.tree] b)
    (h : ∀ x ∈ gather vs, x.HasType [.tree]) :
    (callCall v w vs).Assembles [.nodeOf .callExpression] (a ++ (b ++ gather vs)) := by
  refine memberCall_assembles (operand_of_tree hv) _ ?_
  rw [gather_tuple, List.append_nil]
  exact hw.tuple_cons (assembles_tuple h)

/-- A bound function assembles the callee, in parentheses or not, and the receiver. -/
theorem boundCall_assembles (hv : v.Assembles [.tree] a) (hw : w.Assembles [.tree] b) :
    (boundCall v w).Assembles [.nodeOf .callExpression] (a ++ b) := by
  have hcallee : (if v.isNodeOf .functionExpression then Value.tree .parenExpression [v]
      else v).Assembles [.tree] a := by
    split_ifs
    · exact (paren_assembles hv).weaken rfl
    · exact hv
  have hargs := hw.tuple_cons assembles_tuple_nil
  rw [List.append_nil] at hargs
  exact memberCall_assembles (operand_of_tree hcallee) _ hargs.gather

/-! ### Scopes -/

/-- A block in a scope of its own is the body of a function without parameters. -/
theorem scopedExpression_assembles (h : v.Assembles [.nodeOf .block] a) :
    (scopedExpression v).Assembles [.nodeOf .callExpression] a := by
  have hparameters := Parameters.listOf_hasType (List.forall_mem_nil _)
  have hfunction := Rule.functionNode_assembles (none_hasType List.mem_cons_self)
    (bool_hasType false) hparameters.assembles_nil h
  have hcallee := paren_assembles (hfunction.weaken (σ := [.tree]) rfl)
  have hnone : ∀ x ∈ gather [], x.HasType [.tree] := List.forall_mem_nil _
  have hcall := callCall_assembles (hcallee.weaken rfl) Rule.thisNode_hasType.assembles_nil hnone
  simpa [gather, scopedExpression] using hcall

theorem scopedBlock_assembles (h : v.Assembles [.nodeOf .block] a) :
    (scopedBlock v).Assembles [.nodeOf .expressionStatement] a :=
  statement_assembles ((scopedExpression_assembles h).weaken rfl)

/-- Statements in a scope of their own are gathered once, however they come. -/
theorem scopedStatements_assembles (h : ∀ x ∈ gather vs, x.HasType [.tree]) :
    (scopedStatements vs).Assembles [.nodeOf .expressionStatement] (gather vs) := by
  rw [scopedStatements, block, gather_tuple_gather]
  exact scopedBlock_assembles (Assembly.tree (p := .block) (.last (assembles_tuple h)))

/-! ### Properties and objects -/

/-- An entry of a descriptor assembles its value if that is a tree; a truth value becomes a literal.
-/
theorem descriptorEntry_assembles {name value : Value} (hname : name.isText = true)
    (hvalue : value.isFlag = true ∨ value.HasType [.tree]) :
    (descriptorEntry name value).Assembles [.tree] (value.passedAs [.tree]) := by
  obtain ⟨t, rfl⟩ := isText_iff.mp hname
  have hgiven : (descriptorValue value).Assembles [.tree] (value.passedAs [.tree]) := by
    rcases hvalue with h | h
    · cases value with
      | bool b => exact ((booleanLiteral_hasType b).weaken rfl).assembles_nil
      | _ => cases h
    · rw [descriptorValue, if_pos (admits_tree_iff.mp h.1)]
      exact h.assembles_passedAs
  have hentry := Assembly.tree (p := .propertyNameAssignment)
    (.skip (Intake.propertyName_hasType t) (.last hgiven))
  exact ⟨_, rfl, hentry.weaken rfl⟩

/-- The entries of a descriptor assemble the trees among the values. -/
theorem descriptorEntries_assembles {entries : List (Value × Value)}
    (h : ∀ e ∈ entries, e.1.isText = true ∧ (e.2.isFlag = true ∨ e.2.HasType [.tree])) :
    ∃ ps, descriptorEntries entries = .ok ps ∧
      (Value.tuple ps).Assembles [.children] ((entries.map Prod.snd).filter isNode) := by
  induction entries with
  | nil => exact ⟨[], rfl, assembles_tuple_nil⟩
  | cons e entries ih =>
    rw [List.forall_mem_cons] at h
    obtain ⟨entry, hentry, htype⟩ := descriptorEntry_assembles h.1.1 h.1.2
    obtain ⟨ps, hps, htypes⟩ := ih h.2
    -- A truth value brings no tree along, and the literal made of it holds none.
    have hkept : ((e :: entries).map Prod.snd).filter isNode
        = e.2.passedAs [.tree] ++ (entries.map Prod.snd).filter isNode := by
      rw [List.map_cons]
      rcases h.1.2 with hflag | htree
      · obtain ⟨name, value⟩ := e
        cases value with
        | bool b => rfl
        | _ => cases hflag
      · have hnode := admits_tree_iff.mp htree.1
        rw [passedAs_eq_trees (by simp), trees_of_isNode hnode, List.filter_cons, if_pos hnode]
        rfl
    rw [hkept]
    refine ⟨entry :: ps, ?_, htype.tuple_cons htypes⟩
    rw [descriptorEntries, hentry, hps]
    rfl

/-- A descriptor assembles the trees among its values. -/
theorem descriptor_assembles (h : v.HasType [.descriptor]) :
    (descriptor v).Assembles [.nodeOf .objectLiteralExpression] (v.passedAs [.descriptor]) := by
  cases v with
  | mapping entries =>
    have hentries : ∀ e ∈ entries,
        e.1.isText = true ∧ (e.2.isFlag = true ∨ e.2.HasType [.tree]) := by
      have hshape : ∀ e ∈ entries,
          (e.1.isText && (e.2.isFlag || e.2.isNode)) = true := by
        simpa only [admits, Shape.holds, List.any_cons, List.any_nil, Bool.or_false,
          List.all_eq_true] using h.1
      intro e he
      have hentry := hshape e he
      simp only [Bool.and_eq_true, Bool.or_eq_true] at hentry
      refine ⟨hentry.1, hentry.2.imp_right fun hnode => ⟨admits_tree_iff.mpr hnode, ?_⟩⟩
      have hmem : e.2 ∈ (mapping entries).trees :=
        List.mem_filter.mpr ⟨List.mem_map_of_mem he, hnode⟩
      exact isWellTyped_iff_forall_trees.mp h.2 e.2 hmem
    obtain ⟨ps, hps, htypes⟩ := descriptorEntries_assembles hentries
    rw [descriptor, hps]
    refine ⟨_, rfl, Assembly.tree (p := .objectLiteralExpression) (.last ?_)⟩
    rwa [gather_list, List.append_nil]
  | _ => cases h.1

/-- A call of a function of `Object` assembles its arguments. -/
theorem objectCall_assembles (name : Text) (h : (Value.tuple (gather vs)).Assembles [.children] a) :
    (objectCall name vs).Assembles [.nodeOf .callExpression] a := by
  have hobject : (Name.operand (.text Predefined.object)).Assembles [.tree] [] :=
    ((referTo_hasType Predefined.object).weaken rfl).assembles_nil
  exact memberCall_assembles hobject name h

/-- The name of a property is a text, which becomes a string, or a tree. -/
theorem propertyExpression_assembles (h : v.HasType [.text, .tree]) :
    (propertyExpression v).Assembles [.tree] (v.passedAs [.text, .tree]) := by
  cases v with
  | text t =>
    exact ((literal_hasType (Token.literal_hasType _ _)).weaken rfl).assembles_nil
  | node p fields l => exact HasType.assembles ⟨rfl, h.2⟩
  | _ => cases h.1

/-- The definition of a property assembles the object, the name and the descriptor. -/
theorem defineProperty_assembles {object name properties : Value} (hobject : object.HasType [.tree])
    (hname : name.HasType [.text, .tree]) (hproperties : properties.HasType [.descriptor]) :
    (defineProperty object name properties).Assembles [.nodeOf .callExpression]
      (object.passedAs [.tree] ++ (name.passedAs [.text, .tree]
        ++ properties.passedAs [.descriptor])) := by
  obtain ⟨described, hdescribed, htype⟩ := descriptor_assembles hproperties
  have hargs := hobject.assembles_passedAs.tuple_cons
    ((propertyExpression_assembles hname).tuple_cons
      (Assembles.tuple_cons (htype.weaken rfl) assembles_tuple_nil))
  rw [List.append_nil] at hargs
  rw [defineProperty, hdescribed]
  exact ⟨_, rfl, objectCall_assembles _ hargs.gather⟩

/-- The creation of an object assembles the prototype, and the properties if there are any. -/
theorem objectCreate_assembles (hv : v.Assembles [.tree] a)
    (hw : w.HasType (orNothing [.nodeOf .objectLiteralExpression])) :
    (objectCreate v w).Assembles [.nodeOf .callExpression] (a ++ w.trees) := by
  refine objectCall_assembles _ ?_
  rw [gather_list, List.append_nil]
  split_ifs with hnone
  · have htrees : w.trees = [] := by cases w <;> first | rfl | cases hnone
    rw [htrees]
    exact hv.tuple_cons assembles_tuple_nil
  · have htree : w.HasType [.tree] :=
      (hw.of_orNothing (Bool.eq_false_iff.mpr hnone)).weaken rfl
    have hargs := hv.tuple_cons (htree.assembles.tuple_cons assembles_tuple_nil)
    rwa [List.append_nil] at hargs

/-- A function of `Object` with one argument. -/
theorem objectCall_one_assembles (name : Text) (hv : v.HasType [.tree]) :
    (objectCall name [v]).Assembles [.nodeOf .callExpression] (v.passedAs [.tree]) := by
  have hargs := hv.assembles_passedAs.tuple_cons assembles_tuple_nil
  rw [List.append_nil] at hargs
  exact objectCall_assembles name hargs.gather

theorem assignState_hasType (state : Number) :
    (assignState state).HasType [.nodeOf .expressionStatement] := by
  have hstate := (referTo_hasType Predefined.state).weaken (σ := [.tree]) rfl
  have hnumber := (numberLiteral_hasType state).weaken (σ := [.tree]) rfl
  exact (assignmentStatement_assembles hstate.assembles_nil hnumber.assembles_nil).1

end Idiom

/-! ### Forwarding -/

namespace Parameters

variable {v : Value}

/-- A name in any shape can be spread. -/
theorem spread_hasType (h : v.HasType [.name]) :
    ∃ w, spread v = .ok w ∧ w.HasType [.tree] := by
  obtain ⟨reference, hreference, htype⟩ := Name.reference_hasType h
  have hspread := Assembly.tree (p := .spreadExpression) (.last (htype.weaken rfl).assembles_nil)
  rw [spread, hreference]
  exact ⟨_, rfl, hspread.1.weaken rfl⟩

/-- Every parameter can be passed on by a tree. -/
theorem forward_hasType (h : v.HasType [.tree]) : ∃ w, forward v = .ok w ∧ w.HasType [.tree] := by
  unfold forward
  -- only the first field is looked at, and its type says that it is a name where one is needed
  split
  · next identifier l =>
    obtain ⟨-, hfields⟩ := isWellTyped_node_iff.mp h.2
    obtain ⟨hidentifier, -⟩ := List.forall₂_cons.mp hfields
    exact spread_hasType (hidentifier.weaken rfl)
  · next binding fields l =>
    obtain ⟨-, hfields⟩ := isWellTyped_node_iff.mp h.2
    obtain ⟨hbinding, -⟩ := List.forall₂_cons.mp hfields
    split_ifs with hname
    · have hbound : binding.HasType [.nodeOf .bindingIdentifier] :=
        ⟨admits_nodeOf_iff.mpr hname, hbinding.2⟩
      obtain ⟨w, hw, htype⟩ := Name.reference_hasType (hbound.weaken rfl)
      exact ⟨w, hw, htype.weaken rfl⟩
    · exact ⟨_, rfl, h⟩
  · split_ifs with hname
    · have hbound : v.HasType [.nodeOf .bindingIdentifier] :=
        ⟨admits_nodeOf_iff.mpr hname, h.2⟩
      obtain ⟨w, hw, htype⟩ := Name.reference_hasType (hbound.weaken rfl)
      exact ⟨w, hw, htype.weaken rfl⟩
    · exact ⟨v, rfl, h⟩

/-- Parameters are passed on one by one. -/
theorem forwardAll_hasType {parameters : List Value} (h : ∀ p ∈ parameters, p.HasType [.tree]) :
    ∃ args, forwardAll parameters = .ok args ∧ ∀ w ∈ args, w.HasType [.tree] := by
  induction parameters with
  | nil => exact ⟨[], rfl, List.forall_mem_nil _⟩
  | cons parameter parameters ih =>
    rw [List.forall_mem_cons] at h
    obtain ⟨w, hw, htype⟩ := forward_hasType h.1
    obtain ⟨args, hargs, htypes⟩ := ih h.2
    refine ⟨w :: args, ?_, List.forall_mem_cons.mpr ⟨htype, htypes⟩⟩
    rw [forwardAll, hw, hargs]
    rfl

/-- Every well-typed parameter list can be passed on. -/
theorem forwardList_hasType (h : v.HasType [.nodeOf .formalParameterList]) :
    ∃ w, forwardList v = .ok w ∧ w.HasType [.nodeOf .argumentList] := by
  obtain ⟨fields, l, rfl⟩ := isNodeOf_iff.mp (admits_nodeOf_iff.mp h.1)
  obtain ⟨-, hfields⟩ := isWellTyped_node_iff.mp h.2
  obtain ⟨parameters, _, hparameters, hnone, rfl⟩ := List.forall₂_cons_left_iff.mp hfields
  obtain rfl := List.forall₂_nil_left_iff.mp hnone
  obtain ⟨items, hmembers, -, hitems⟩ := exists_members (hparameters.weaken rfl)
  -- The field is a sequence of trees, so iterating over it gives its members.
  have helements : parameters.elements? = some items := by
    cases parameters <;> first | exact hmembers | cases hmembers
  obtain ⟨args, hargs, htypes⟩ := forwardAll_hasType hitems
  have hnode := Assembly.tree (p := .argumentList) (.last (assembles_tuple htypes))
  refine ⟨.tree .argumentList [.tuple args], ?_, hnode.1⟩
  simp only [forwardList, helements, hargs]
  rfl

theorem forwardFor_hasType {n : ℤ} (h : n ≤ 10 ^ wholeDigitLimit) :
    ∃ w, forwardFor (.int n) = .ok w ∧ w.HasType [.nodeOf .argumentList] := by
  obtain ⟨parameters, hparameters, htype⟩ := positional_hasType false h
  have hlist : list [.int n] = .ok parameters := hparameters
  rw [forwardFor, hlist]
  exact forwardList_hasType htype

theorem listWithRest_hasType {n : ℤ} (h : n ≤ 10 ^ wholeDigitLimit) :
    ∃ w, listWithRest (.int n) = .ok w ∧ w.HasType [.nodeOf .formalParameterList] :=
  positional_hasType true h

theorem reference_hasType {n : ℤ} (h : n.natAbs < 10 ^ wholeDigitLimit) :
    ∃ w, reference (.int n) = .ok w ∧ w.HasType [.nodeOf .identifierExpression] := by
  rw [reference, nameOf_int h]
  exact ⟨_, rfl, Idiom.referTo_hasType _⟩

theorem nameOf_hasType {n : ℤ} (h : n.natAbs < 10 ^ wholeDigitLimit) :
    ∃ w, (nameOf (.int n)).map Value.text = .ok w ∧ w.HasType [.text] := by
  rw [nameOf_int h]
  exact ⟨_, rfl, rfl, isWellTyped_of_trees_eq_nil rfl⟩

end Parameters

/-! ### The catalog -/

namespace Builder

variable {form : CallForm} {args : List Value} {v : Value}

/-- A sequence of trees is gathered into a tuple of them. -/
theorem gatherOf_assembles (h : v.HasType [.trees]) :
    (gatherOf v).Assembles [.children] (v.passedAs [.trees]) := by
  obtain ⟨items, hmembers, htrees, hitems⟩ := exists_members h
  rw [passedAs_eq_trees (by simp), htrees, gatherOf_of_members hmembers, gather_of_trees hitems]
  exact ⟨_, rfl, assembles_tuple hitems⟩

theorem operator_assembles (h : v.HasType [.tokenKind]) :
    (operator v).Assembles [.token] (v.passedAs [.tokenKind]) := by
  rw [h.passedAs_eq_nil rfl]
  cases v with
  | tokenKind kind => exact ⟨_, rfl, (Token.token_hasType kind .none).assembles_nil⟩
  | _ => cases h.1

/-- Behind a leading argument a form for children is one for children again. -/
theorem exists_children {τ : DeclaredType} {τs : List DeclaredType}
    (h : form ∈ CallForm.children (τ :: τs)) : ∃ f ∈ CallForm.children τs, form = .one τ f := by
  rcases List.mem_pair.mp h with rfl | rfl
  · exact ⟨_, List.mem_cons_self, rfl⟩
  · exact ⟨_, List.mem_cons_of_mem _ List.mem_cons_self, rfl⟩

theorem callCall_assembles (hform : form ∈ callCall.forms) (hargs : form.Takes args) :
    (callCall.build args).Assembles callCall.returns (form.passed args) := by
  -- Two arguments come first, and children behind them.
  obtain ⟨_, hrest, rfl⟩ := exists_children hform
  obtain ⟨others, hothers, rfl⟩ := exists_children hrest
  simp only [takes_one] at hargs
  obtain ⟨callee, _, rfl, hcallee, receiver, rest, rfl, hreceiver, hrest⟩ := hargs
  obtain ⟨hpassed, htrees⟩ := passed_children hothers hrest
  refine ⟨_, rfl, ?_⟩
  rw [passed, passed, hpassed]
  exact Idiom.callCall_assembles hcallee.assembles_passedAs hreceiver.assembles_passedAs htrees

theorem callCallStatement_assembles (hform : form ∈ callCallStatement.forms)
    (hargs : form.Takes args) :
    (callCallStatement.build args).Assembles callCallStatement.returns (form.passed args) := by
  obtain rfl := List.mem_singleton.mp hform
  simp only [takes_one] at hargs
  obtain ⟨callee, _, rfl, hcallee, receiver, rest, rfl, hreceiver, hrest⟩ := hargs
  -- the other arguments are handed on as one tuple, so that a sequence among them would be kept
  have hpassed : (each [.tree]).passed rest = rest :=
    (passed_children List.mem_cons_self hrest).1.trans (gather_of_trees hrest)
  have hgather : gather [.tuple rest] = rest := by rw [gather_tuple, List.append_nil]
  have htrees : ∀ x ∈ gather [.tuple rest], x.HasType [.tree] := by rwa [hgather]
  have hcall := Idiom.callCall_assembles hcallee.assembles_passedAs hreceiver.assembles_passedAs
    htrees
  rw [hgather] at hcall
  refine ⟨_, rfl, ?_⟩
  rw [passed, passed, hpassed]
  exact Idiom.statement_assembles (hcall.weaken rfl)

theorem defineProperty_assembles (hform : form ∈ defineProperty.forms) (hargs : form.Takes args) :
    (defineProperty.build args).Assembles defineProperty.returns (form.passed args) := by
  obtain rfl := List.mem_singleton.mp hform
  simp only [takes_exactly_cons, takes_exactly_nil] at hargs
  obtain ⟨object, _, rfl, hobject, name, _, rfl, hname, properties, _, rfl, hproperties,
    rfl⟩ := hargs
  simpa [build, definition, returns] using Idiom.defineProperty_assembles hobject hname hproperties

/-- A rule for a whole number holds no tree, since none is handed over. -/
theorem onWholeNumber_assembles {rule : Value → Built} {τ : DeclaredType}
    (hform : form ∈ [exactly [[.wholeNumber]]]) (hargs : form.Takes args)
    (h : ∀ n, args = [.int n] → ∃ w, rule (.int n) = .ok w ∧ w.HasType τ) :
    (unary rule args).Assembles τ (form.passed args) := by
  obtain rfl := List.mem_singleton.mp hform
  obtain ⟨v, _, rfl, hv, rfl⟩ := takes_exactly_cons.mp hargs
  obtain ⟨n, rfl⟩ := Parameters.exists_int_of_hasType hv
  obtain ⟨w, hw, htype⟩ := h n rfl
  rw [passed_exactly_cons, hv.passedAs_eq_nil rfl]
  exact ⟨w, hw, htype.assembles_nil⟩

/-- What builders make of arguments of a documented form is of the type that they return, and holds
the trees that the arguments hand over. -/
theorem build_assembles {b : Builder} (hb : b ≠ .forwardedArguments) (hform : form ∈ b.forms)
    (hargs : form.Takes args) (hfit : b.NamesFit args) :
    (b.build args).Assembles b.returns (form.passed args) := by
  -- one rule of assembly for each builder: by the number of its arguments, and where these are not
  -- all given one by one, by a rule of its own
  cases b with
  | node p => exact p.build_assembles hform hargs hfit
  | nameToken =>
    exact unary_assembles hform hargs fun v hv => Intake.take_assembles (i := .name) rfl hv
  | gathered => exact unary_assembles hform hargs fun v hv => gatherOf_assembles hv
  | operatorToken => exact unary_assembles hform hargs fun v hv => operator_assembles hv
  | identifierToken =>
    refine unary_assembles hform hargs fun v hv => ?_
    rw [hv.passedAs_eq_nil rfl]
    exact ⟨_, rfl, HasType.assembles_nil ⟨rfl, isWellTyped_of_trees_eq_nil rfl⟩⟩
  | propertyNameToken => exact onText_assembles hform hargs Intake.propertyName_hasType
  | stringToken => exact unary_assembles hform hargs fun v hv => Token.data_assembles hv
  | booleanToken =>
    refine unary_assembles hform hargs fun v hv => ?_
    rw [hv.passedAs_eq_nil rfl]
    exact ⟨_, rfl, (Token.boolean_hasType v.isTruthy).assembles_nil⟩
  | nullToken => exact nullary_assembles hform hargs (Token.literal_hasType _ _)
  | numberText =>
    exact onNumber_assembles hform hargs fun x => ⟨rfl, isWellTyped_of_trees_eq_nil rfl⟩
  | numberToken => exact onNumber_assembles hform hargs fun x => Token.literal_hasType _ _
  | emptyList => exact nullary_assembles hform hargs ⟨rfl, isWellTyped_of_trees_eq_nil rfl⟩
  | statementList =>
    obtain ⟨hpassed, htrees⟩ := passed_children hform hargs
    rw [hpassed]
    exact ⟨_, rfl, assembles_tuple htrees⟩
  | stringLiteral =>
    refine unary_assembles hform hargs fun v hv => ?_
    obtain ⟨token, htoken, htype⟩ := Token.data_assembles hv
    rw [hv.passedAs_eq_nil rfl, htoken]
    exact ⟨_, rfl, (Idiom.literal_hasType htype.1).assembles_nil⟩
  | booleanLiteral =>
    refine unary_assembles hform hargs fun v hv => ?_
    rw [hv.passedAs_eq_nil rfl]
    exact ⟨_, rfl, (Idiom.booleanLiteral_hasType v.isTruthy).assembles_nil⟩
  | trueLiteral => exact nullary_assembles hform hargs (Idiom.booleanLiteral_hasType true)
  | falseLiteral => exact nullary_assembles hform hargs (Idiom.booleanLiteral_hasType false)
  | nullLiteral =>
    exact nullary_assembles hform hargs (Idiom.literal_hasType (Token.literal_hasType _ _))
  | numberLiteral => exact onNumber_assembles hform hargs Idiom.numberLiteral_hasType
  | undefinedExpression => exact nullary_assembles hform hargs (Idiom.referTo_hasType _)
  | emptyParameterList =>
    exact nullary_assembles hform hargs (Parameters.listOf_hasType (List.forall_mem_nil _))
  | emptyArgumentList =>
    exact nullary_assembles hform hargs Intake.emptyArguments_hasType
  | emptyArrayLiteral =>
    have hempty := Assembly.tree (p := .arrayLiteralExpression) (.last assembles_tuple_nil)
    exact nullary_assembles hform hargs hempty.1
  | assignmentExpression =>
    exact binary_assembles hform hargs fun v w hv hw =>
      Idiom.assignment_assembles hv.assembles_passedAs hw.assembles_passedAs
  | voidZero => exact nullary_assembles hform hargs Idiom.voidZero_hasType
  | emptyBlock =>
    have hempty := Assembly.tree (p := .block) (.last assembles_tuple_nil)
    exact nullary_assembles hform hargs hempty.1
  | assignmentStatement =>
    exact binary_assembles hform hargs fun v w hv hw =>
      Idiom.assignmentStatement_assembles hv.assembles_passedAs hw.assembles_passedAs
  | callStatement =>
    exact binaryOr_assembles hform hargs (none_hasType List.mem_cons_self) rfl fun v w hv hw =>
      Idiom.callStatement_assembles hv.assembles_passedAs hw
  | yieldStatement =>
    refine binaryOr_assembles hform hargs (bool_hasType false) rfl fun v w hv hw => ?_
    rw [hw.passedAs_eq_nil rfl, List.append_nil]
    exact Idiom.yieldStatement_assembles hv.assembles_passedAs hw
  | useStrictDirective =>
    have hliteral := Idiom.literal_hasType (Token.literal_hasType .string
      Predefined.useStrict.stringLiteral)
    exact nullary_assembles hform hargs
      (Idiom.statement_assembles (hliteral.weaken rfl).assembles_nil).1
  | parameterListWithRest =>
    refine onWholeNumber_assembles hform hargs fun n hn => ?_
    subst hn
    exact Parameters.listWithRest_hasType hfit
  | parameterReference =>
    refine onWholeNumber_assembles hform hargs fun n hn => ?_
    subst hn
    exact Parameters.reference_hasType hfit
  | parameterName =>
    refine onWholeNumber_assembles hform hargs fun n hn => ?_
    subst hn
    exact Parameters.nameOf_hasType hfit
  | forwardedArguments => exact absurd rfl hb
  | argumentsForArity =>
    refine onWholeNumber_assembles hform hargs fun n hn => ?_
    subst hn
    exact Parameters.forwardFor_hasType hfit
  | scopedExpression =>
    exact unary_assembles hform hargs fun v hv =>
      ⟨_, rfl, Idiom.scopedExpression_assembles hv.assembles_passedAs⟩
  | scopedBlock =>
    exact unary_assembles hform hargs fun v hv =>
      ⟨_, rfl, Idiom.scopedBlock_assembles hv.assembles_passedAs⟩
  | scopedStatements =>
    obtain ⟨hpassed, htrees⟩ := passed_children hform hargs
    rw [hpassed]
    exact ⟨_, rfl, Idiom.scopedStatements_assembles htrees⟩
  | boundCall =>
    exact binary_assembles hform hargs fun v w hv hw =>
      Idiom.boundCall_assembles hv.assembles_passedAs hw.assembles_passedAs
  | callCall => exact callCall_assembles hform hargs
  | callCallStatement => exact callCallStatement_assembles hform hargs
  | propertyDescriptor =>
    exact unary_assembles hform hargs fun v hv => Idiom.descriptor_assembles hv
  | defineProperty => exact defineProperty_assembles hform hargs
  | objectCreate =>
    exact binaryOr_assembles hform hargs (none_hasType List.mem_cons_self) rfl fun v w hv hw =>
      Idiom.objectCreate_assembles hv.assembles_passedAs hw
  | objectFreeze =>
    exact unary_assembles hform hargs fun v hv => ⟨_, rfl, Idiom.objectCall_one_assembles _ hv⟩
  | objectPreventExtensions =>
    exact unary_assembles hform hargs fun v hv => ⟨_, rfl, Idiom.objectCall_one_assembles _ hv⟩
  | assignStateStatement =>
    refine unary_assembles hform hargs fun v hv => ?_
    rw [hv.passedAs_eq_nil rfl]
    cases v with
    | number x => exact ⟨_, rfl, (Idiom.assignState_hasType x).assembles_nil⟩
    | _ => cases hv.1
  | literalValue => cases hform

end Builder

end EcmaTree
