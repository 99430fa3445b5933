import EcmaTree.Proofs.Build.Assembly
import EcmaTree.Proofs.Build.SyntheticNames

/-!
# What the builders of productions assemble

Every builder of a production, given arguments of a documented form, returns a node of the
production that holds the trees it was given (`Production.build_assembles`).  For most productions
the slots are compared with the form and with the fields in one table; the productions with children
follow from what their arguments stand for, and each rule of its own has a lemma of its own.
-/

namespace EcmaTree

open Value DeclaredType CallForm

namespace Value

theorem passedAs_of_orNothing_name {v : Value} (h : v.HasType (DeclaredType.orNothing [.name])) :
    v.passedAs (DeclaredType.orNothing [.name]) = [] := by
  cases hnone : v.isNone with
  | true =>
    cases v with
    | none => rfl
    | _ => cases hnone
  | false =>
    have hname : v.isName = true := by
      simpa [admits, Shape.holds] using (h.of_orNothing hnone).1
    rw [passedAs, hname]
    rfl

end Value

namespace Rule

variable {args : List Value} {form : CallForm}

/-! ### Functions and handlers -/

theorem functionNode_assembles {name flag parameters body : Value} {a b : List Value}
    (hname : name.HasType (orNothing [.nodeOf .bindingIdentifier])) (hflag : flag.HasType [.flag])
    (hparameters : parameters.Assembles [.nodeOf .formalParameterList] a)
    (hbody : body.Assembles [.nodeOf .block] b) :
    (Value.tree .functionExpression [name, flag, parameters, body]).Assembles
      [.nodeOf .functionExpression] (a ++ b) :=
  Assembly.tree (p := .functionExpression)
    (.skip hname (.skip hflag (.cons hparameters (.last hbody))))

theorem functionExpression_assembles (hform : form ∈ Production.functionExpression.forms)
    (hargs : form.Takes args) :
    (functionExpression args).Assembles [.nodeOf .functionExpression] (form.passed args) := by
  rcases List.mem_pair.mp hform with rfl | rfl
  · simp only [takes_exactly_cons, takes_exactly_nil] at hargs
    obtain ⟨parameters, _, rfl, hparameters, body, _, rfl, hbody, rfl⟩ := hargs
    have hnode := functionNode_assembles (none_hasType List.mem_cons_self) (bool_hasType false)
      hparameters.assembles_passedAs hbody.assembles_passedAs
    simpa using ⟨_, rfl, hnode⟩
  · simp only [takes_exactly_cons, takes_exactly_nil] at hargs
    obtain ⟨parameters, _, rfl, hparameters, body, _, rfl, hbody, name, _, rfl, hname, flag, _, rfl,
      hflag, rfl⟩ := hargs
    have hpassed : (exactly [[.nodeOf .formalParameterList], [.nodeOf .block],
        DeclaredType.orNothing [.name], [.flag]]).passed [parameters, body, name, flag]
          = parameters.passedAs [.nodeOf .formalParameterList]
            ++ body.passedAs [.nodeOf .block] := by
      simp [passedAs_of_orNothing_name hname, hflag.passedAs_eq_nil rfl]
    rw [hpassed]
    -- the name comes last and is the first field, but as it hands over no tree, the order is kept
    show Built.Assembles (if name.isNone then _ else _) _ _
    split_ifs with hnone
    · exact ⟨_, rfl, functionNode_assembles (none_hasType List.mem_cons_self) hflag
        hparameters.assembles_passedAs hbody.assembles_passedAs⟩
    · have hbinding := hname.of_orNothing (Bool.eq_false_iff.mpr hnone)
      obtain ⟨w, hw, hwt⟩ := Name.binding_hasType hbinding
      rw [hw]
      exact ⟨_, rfl, functionNode_assembles (hwt.weaken rfl) hflag hparameters.assembles_passedAs
        hbody.assembles_passedAs⟩

theorem tryNode_assembles {body catchClause finallyClause : Value} {a b c : List Value}
    (hbody : body.Assembles [.nodeOf .block] a)
    (hcatch : catchClause.Assembles (orNothing [.nodeOf .catchClause]) b)
    (hfinally : finallyClause.Assembles (orNothing [.nodeOf .finallyClause]) c) :
    (Value.tree .tryStatement [body, catchClause, finallyClause]).Assembles
      [.nodeOf .tryStatement] (a ++ (b ++ c)) :=
  Assembly.tree (p := .tryStatement) (.cons hbody (.cons hcatch (.last hfinally)))

theorem tryStatement_assembles (hform : form ∈ Production.tryStatement.forms)
    (hargs : form.Takes args) :
    (tryStatement args).Assembles [.nodeOf .tryStatement] (form.passed args) := by
  rcases List.mem_pair.mp hform with rfl | rfl
  · simp only [takes_exactly_cons, takes_exactly_nil] at hargs
    obtain ⟨body, _, rfl, hbody, handler, _, rfl, hhandler, rfl⟩ := hargs
    -- the kind of the one handler decides where it goes, and nothing goes into the other place
    have hkind : handler.isNodeOf .catchClause = true ∨ handler.isNodeOf .finallyClause = true := by
      simpa [admits, Shape.holds] using hhandler.1
    obtain ⟨q, fields, l, rfl⟩ : ∃ q fields l, handler = .node q fields l := by
      rcases hkind with h | h
      · exact ⟨_, isNodeOf_iff.mp h⟩
      · exact ⟨_, isNodeOf_iff.mp h⟩
    have hq : q = .catchClause ∨ q = .finallyClause := by
      simpa [isNodeOf, production?] using hkind
    rcases hq with rfl | rfl
    · have hcatch : (Value.node .catchClause fields l).HasType (orNothing [.nodeOf .catchClause]) :=
        ⟨rfl, hhandler.2⟩
      have hnode := tryNode_assembles hbody.assembles_passedAs hcatch.assembles
        (none_hasType List.mem_cons_self).assembles_nil
      simpa using ⟨_, rfl, hnode⟩
    · have hfinally : (Value.node .finallyClause fields l).HasType
          (orNothing [.nodeOf .finallyClause]) := ⟨rfl, hhandler.2⟩
      have hnode := tryNode_assembles hbody.assembles_passedAs
        (none_hasType List.mem_cons_self).assembles_nil hfinally.assembles
      simpa using ⟨_, rfl, hnode⟩
  · simp only [takes_exactly_cons, takes_exactly_nil] at hargs
    obtain ⟨body, _, rfl, hbody, catchClause, _, rfl, hcatch, finallyClause, _, rfl, hfinally,
      rfl⟩ := hargs
    have hnode := tryNode_assembles hbody.assembles_passedAs hcatch.assembles_passedAs
      hfinally.assembles_passedAs
    simpa using ⟨_, rfl, hnode⟩

/-! ### Members -/

theorem member_assembles {operand name : Value} {a : List Value}
    (hoperand : operand.Assembles [.tree] a) (hname : name.HasType tokenName) :
    ∃ token, Name.token name = .ok token ∧ token.HasType [.identifierToken] ∧
      (Value.tree .memberExpression [operand, token]).Assembles [.nodeOf .memberExpression] a := by
  obtain ⟨token, htoken, htype⟩ := Name.token_hasType hname
  have hfields : Assembly Production.memberExpression.fields [operand, token] (a ++ []) :=
    .cons hoperand (.last htype.assembles_nil)
  rw [List.append_nil] at hfields
  exact ⟨token, htoken, htype, hfields.tree⟩

theorem extendMember_assembles {names : List Value} (hnames : ∀ n ∈ names, n.HasType tokenName)
    {tree : Value} {a : List Value} (htree : tree.Assembles [.nodeOf .memberExpression] a) :
    (extendMember tree names).Assembles [.nodeOf .memberExpression] a := by
  induction names generalizing tree with
  | nil => exact ⟨tree, rfl, htree⟩
  | cons name names ih =>
    rw [List.forall_mem_cons] at hnames
    obtain ⟨token, htoken, -, hmember⟩ := member_assembles (htree.weaken rfl) hnames.1
    rw [extendMember, htoken]
    exact ih hnames.2 hmember

theorem memberExpression_assembles (hform : form ∈ Production.memberExpression.forms)
    (hargs : form.Takes args) :
    (memberExpression args).Assembles [.nodeOf .memberExpression] (form.passed args) := by
  obtain rfl := List.mem_singleton.mp hform
  simp only [takes_one] at hargs
  obtain ⟨operand, _, rfl, hoperand, name, names, rfl, hname, hnames⟩ := hargs
  have hnone : names.flatMap (fun n => n.passedAs tokenName) = [] :=
    List.flatMap_eq_nil_iff.mpr fun n hn => (hnames n hn).passedAs_eq_nil rfl tokenName
  have hpassed : (one [.text, .identifierToken, .tree] (one tokenName (each tokenName))).passed
      (operand :: name :: names) = operand.trees := by
    simp only [passed, hname.passedAs_eq_nil rfl, hnone, List.append_nil]
    rfl
  obtain ⟨token, htoken, -, hmember⟩ := member_assembles (Name.operand_assembles hoperand) hname
  rw [hpassed, memberExpression, extendMember, htoken]
  exact extendMember_assembles hnames hmember

theorem thisNode_hasType : thisNode.HasType [.tree] := by
  have hfields : Assembly Production.thisExpression.fields [] [] := .nil
  exact hfields.tree.1.weaken rfl

theorem thisExpression_assembles (hform : form ∈ Production.thisExpression.forms)
    (hargs : form.Takes args) : (thisExpression args).Assembles [.tree] (form.passed args) := by
  rcases mem_upTo_one.mp hform with rfl | rfl
  · obtain rfl := takes_exactly_nil.mp hargs
    exact ⟨thisNode, rfl, thisNode_hasType.assembles_nil⟩
  · obtain ⟨name, _, rfl, hname, rfl⟩ := takes_exactly_cons.mp hargs
    have hpassed : (exactly ([] ++ [DeclaredType.orNothing tokenName])).passed [name] = [] := by
      simp [hname.passedAs_eq_nil rfl]
    rw [hpassed]
    show Built.Assembles (if name.isTruthy then _ else _) _ _
    -- A name that does not count as true is as good as none.
    split_ifs with htruthy
    · have htoken := hname.of_orNothing (isNone_of_isTruthy htruthy)
      obtain ⟨token, hw, -, hmember⟩ := member_assembles thisNode_hasType.assembles_nil htoken
      refine ⟨_, ?_, hmember.weaken rfl⟩
      show extendMember thisNode [name] = _
      rw [extendMember, hw]
      rfl
    · exact ⟨thisNode, rfl, thisNode_hasType.assembles_nil⟩

/-! ### Declarations -/

theorem declaration_assembles {declared initializer : Value} (hdeclared : declared.HasType target)
    {a : List Value} (hinitializer : initializer.Assembles (DeclaredType.orNothing [.tree]) a) :
    (declaration declared initializer).Assembles [.nodeOf .variableDeclaration]
      (declared.passedAs target ++ a) := by
  obtain ⟨w, hw, hwt⟩ := Intake.declared_assembles hdeclared
  rw [declaration, hw]
  refine ⟨_, rfl, Assembly.tree (p := .variableDeclaration) (.cons (hwt.weaken rfl)
    (.last hinitializer))⟩

theorem declarations_assembles {kind : Value} (hkind : kind.HasType [.tokenKind])
    {declarations a : List Value} (h : (Value.tuple declarations).Assembles [.children] a) :
    (Value.tree .variableDeclarationList [kind, .tuple declarations]).Assembles
      [.nodeOf .variableDeclarationList] a :=
  Assembly.tree (p := .variableDeclarationList) (.skip hkind (.last h))

theorem declarationList_assembles_sequence {kind declared : Value}
    (hkind : kind.HasType [.tokenKind]) (hdeclared : declared.HasType [.trees]) :
    (declarationList kind declared .none).Assembles [.nodeOf .variableDeclarationList]
      declared.trees := by
  obtain ⟨items, hmembers, htrees, hitems⟩ := exists_members hdeclared
  rw [declarationList, hmembers, htrees]
  exact ⟨_, rfl, declarations_assembles hkind (assembles_tuple hitems)⟩

theorem declarationList_assembles_single {kind declared initializer : Value}
    (hkind : kind.HasType [.tokenKind]) (hdeclared : declared.HasType target) {a : List Value}
    (hinitializer : initializer.Assembles (DeclaredType.orNothing [.tree]) a) :
    (declarationList kind declared initializer).Assembles [.nodeOf .variableDeclarationList]
      (declared.passedAs target ++ a) := by
  -- What is declared is a name or a declaration, so it is not taken for a sequence.
  have hmembers : declared.members? = Option.none := by
    cases declared with
    | list items => cases hdeclared.1
    | tuple items => cases hdeclared.1
    | _ => rfl
  obtain ⟨single, hsingle, htype⟩ := declaration_assembles hdeclared hinitializer
  have htuple := Assembles.tuple_cons (htype.weaken rfl) assembles_tuple_nil
  rw [List.append_nil] at htuple
  rw [declarationList, hmembers, hsingle]
  exact ⟨_, rfl, declarations_assembles hkind htuple⟩

theorem variableDeclarationList_assembles
    (hform : form ∈ Production.variableDeclarationList.forms) (hargs : form.Takes args) :
    (variableDeclarationList args).Assembles [.nodeOf .variableDeclarationList]
      (form.passed args) := by
  -- Several declarations or one, each with or without a third argument.
  rcases List.mem_append.mp hform with hform | hform <;>
    rcases mem_upTo_one.mp hform with rfl | rfl <;>
    simp only [List.cons_append, List.nil_append, takes_exactly_cons, takes_exactly_nil] at hargs
  · obtain ⟨kind, _, rfl, hkind, declared, _, rfl, hdeclared, rfl⟩ := hargs
    have hlist := declarationList_assembles_sequence hkind hdeclared
    simpa [hkind.passedAs_eq_nil rfl, passedAs_eq_trees, variableDeclarationList] using hlist
  · obtain ⟨kind, _, rfl, hkind, declared, _, rfl, hdeclared, nothing, _, rfl, hnothing,
      rfl⟩ := hargs
    obtain rfl : nothing = .none := by cases nothing <;> first | rfl | cases hnothing.1
    have hlist := declarationList_assembles_sequence hkind hdeclared
    simpa [hkind.passedAs_eq_nil rfl, hnothing.passedAs_eq_nil rfl, passedAs_eq_trees,
      variableDeclarationList] using hlist
  · obtain ⟨kind, _, rfl, hkind, declared, _, rfl, hdeclared, rfl⟩ := hargs
    have hlist := declarationList_assembles_single hkind hdeclared
      (none_hasType List.mem_cons_self).assembles_nil
    simpa [hkind.passedAs_eq_nil rfl, variableDeclarationList] using hlist
  · obtain ⟨kind, _, rfl, hkind, declared, _, rfl, hdeclared, initializer, _, rfl, hinitializer,
      rfl⟩ := hargs
    have hlist := declarationList_assembles_single hkind hdeclared hinitializer.assembles_passedAs
    simpa [hkind.passedAs_eq_nil rfl, variableDeclarationList] using hlist

/-- The forms of a declaration list begin with a token kind and with something to declare. -/
theorem exists_declared (hform : form ∈ Production.variableDeclarationList.forms)
    (hargs : form.Takes args) :
    ∃ kind declared rest, args = kind :: declared :: rest ∧
      kind.isNodeOf .variableDeclarationList = false ∧ declared.isNone = false := by
  -- A token kind is no list that is ready.
  have hkinds : ∀ kind : Value, kind.HasType [.tokenKind] →
      kind.isNodeOf .variableDeclarationList = false := by
    intro kind h
    cases kind <;> first | rfl | cases h.1
  have hsomething : ∀ declared : Value, declared.HasType [.trees] ∨ declared.HasType target →
      declared.isNone = false := by
    intro declared h
    cases declared with
    | none => rcases h with h | h <;> cases h.1
    | _ => rfl
  rcases List.mem_append.mp hform with hform | hform <;>
    rcases mem_upTo_one.mp hform with rfl | rfl <;>
    simp only [List.cons_append, List.nil_append, takes_exactly_cons, takes_exactly_nil]
      at hargs <;>
    obtain ⟨kind, _, rfl, hkind, declared, rest, rfl, hdeclared, -⟩ := hargs
  · exact ⟨kind, declared, rest, rfl, hkinds kind hkind, hsomething declared (.inl hdeclared)⟩
  · exact ⟨kind, declared, rest, rfl, hkinds kind hkind, hsomething declared (.inl hdeclared)⟩
  · exact ⟨kind, declared, rest, rfl, hkinds kind hkind, hsomething declared (.inr hdeclared)⟩
  · exact ⟨kind, declared, rest, rfl, hkinds kind hkind, hsomething declared (.inr hdeclared)⟩

/-- A variable statement that does not get its declaration list makes it from the same arguments. -/
theorem variableStatement_eq {kind declared : Value}
    (hkind : kind.isNodeOf .variableDeclarationList = false) (hdeclared : declared.isNone = false)
    (rest : List Value) :
    variableStatement (kind :: declared :: rest)
      = (variableDeclarationList (kind :: declared :: rest)).bind fun declarations =>
        .ok (Value.tree .variableStatement [declarations]) := by
  match rest with
  | [] => simp [variableStatement, declarationStatement, hkind, hdeclared]; rfl
  | [initializer] => simp [variableStatement, declarationStatement, hkind, hdeclared]; rfl
  | _ :: _ :: _ => rfl

theorem variableStatement_assembles (hform : form ∈ Production.variableStatement.forms)
    (hargs : form.Takes args) :
    (variableStatement args).Assembles [.nodeOf .variableStatement] (form.passed args) := by
  have hforms : form ∈ upTo [[.nodeOf .variableDeclarationList]] [[.nothing], [.nothing]]
      ∨ form ∈ Production.variableDeclarationList.forms := by
    simpa only [Production.forms, List.mem_append, or_assoc] using hform
  rcases hforms with hready | hmade
  -- a ready list is used as it is, whatever is said about the rest
  · have hnode : ∀ {list : Value} (declared initializer : Value),
        list.HasType [.nodeOf .variableDeclarationList] →
        (declarationStatement list declared initializer).Assembles [.nodeOf .variableStatement]
          (list.passedAs [.nodeOf .variableDeclarationList]) := by
      intro list declared initializer hlist
      rw [declarationStatement, if_pos (admits_nodeOf_iff.mp hlist.1)]
      exact ⟨_, rfl, Assembly.tree (p := .variableStatement) (.last hlist.assembles_passedAs)⟩
    have hshapes : form = exactly [[.nodeOf .variableDeclarationList]]
        ∨ form = exactly [[.nodeOf .variableDeclarationList], [.nothing]]
        ∨ form = exactly [[.nodeOf .variableDeclarationList], [.nothing], [.nothing]] := by
      simpa [upTo] using hready
    rcases hshapes with rfl | rfl | rfl <;>
      simp only [takes_exactly_cons, takes_exactly_nil] at hargs
    · obtain ⟨list, _, rfl, hlist, rfl⟩ := hargs
      simpa [variableStatement] using hnode .none .none hlist
    · obtain ⟨list, _, rfl, hlist, first, _, rfl, hfirst, rfl⟩ := hargs
      simpa [variableStatement, hfirst.passedAs_eq_nil rfl] using hnode first .none hlist
    · obtain ⟨list, _, rfl, hlist, first, _, rfl, hfirst, second, _, rfl, hsecond, rfl⟩ := hargs
      simpa [variableStatement, hfirst.passedAs_eq_nil rfl, hsecond.passedAs_eq_nil rfl]
        using hnode first second hlist
  · obtain ⟨kind, declared, rest, rfl, hkind, hdeclared⟩ := exists_declared hmade hargs
    obtain ⟨declarations, hbuilt, htype⟩ := variableDeclarationList_assembles hmade hargs
    rw [variableStatement_eq hkind hdeclared, hbuilt]
    exact ⟨_, rfl, Assembly.tree (p := .variableStatement) (.last htype)⟩

end Rule

/-! ### Parameters -/

namespace Parameters

variable {args : List Value} {form : CallForm}

theorem bindingElement_hasType {binding : Value}
    (h : binding.HasType [.nodeOf .bindingIdentifier]) :
    (Value.tree .bindingElement [binding, .none]).HasType [.tree] := by
  have hnode := Assembly.tree (p := .bindingElement)
    (.skip (h.weaken rfl) (.skip (none_hasType List.mem_cons_self) .nil))
  exact hnode.1.weaken rfl

theorem binding_hasType (name : Text) :
    (Value.tree .bindingIdentifier [Token.identifier name]).HasType [.nodeOf .bindingIdentifier] :=
  Name.hasType_tree_identifier rfl _ _

theorem parameterAt_hasType (withRest : Bool) (count i : ℕ) :
    (parameterAt withRest count i).HasType [.tree] := by
  unfold parameterAt
  split_ifs
  · have hname := binding_hasType (nameAt i)
    have hnode := Assembly.tree (p := .restParameter) (.last hname.assembles_nil)
    exact hnode.1.weaken rfl
  · exact bindingElement_hasType (binding_hasType _)

theorem listOf_hasType {parameters : List Value} (h : ∀ p ∈ parameters, p.HasType [.tree]) :
    (listOf parameters).HasType [.nodeOf .formalParameterList] :=
  (Assembly.tree (p := .formalParameterList) (.last (assembles_tuple h))).1

theorem positional_hasType (withRest : Bool) {n : ℤ} (h : n ≤ 10 ^ wholeDigitLimit) :
    ∃ v, positional withRest n = .ok v ∧ v.HasType [.nodeOf .formalParameterList] := by
  refine ⟨_, positional_eq withRest h, listOf_hasType fun p hp => ?_⟩
  obtain ⟨i, -, rfl⟩ := List.mem_map.mp hp
  exact parameterAt_hasType withRest _ i

theorem listOfNames_hasType {names : List Value} (h : ∀ n ∈ names, n.HasType [.name]) :
    ∃ v, listOfNames names = .ok v ∧ v.HasType [.nodeOf .formalParameterList] := by
  have hnamed : ∃ ps, named names = .ok ps ∧ ∀ p ∈ ps, p.HasType [.tree] := by
    induction names with
    | nil => exact ⟨[], rfl, List.forall_mem_nil _⟩
    | cons name names ih =>
      rw [List.forall_mem_cons] at h
      obtain ⟨binding, hbinding, htype⟩ := Name.binding_hasType h.1
      obtain ⟨ps, hps, htypes⟩ := ih h.2
      refine ⟨_ :: ps, ?_, List.forall_mem_cons.mpr ⟨bindingElement_hasType htype, htypes⟩⟩
      rw [named, hbinding, hps]
      rfl
  obtain ⟨ps, hps, htypes⟩ := hnamed
  refine ⟨listOf ps, ?_, listOf_hasType htypes⟩
  rw [listOfNames, hps]
  rfl

/-- The arguments of a parameter list hand over no trees. -/
theorem passed_parameters (hform : form ∈ Production.formalParameterList.forms)
    (hargs : form.Takes args) : form.passed args = [] := by
  have hforms : form = each [.text] ∨ form = exactly [[.identifierToken]]
      ∨ form = exactly [[.wholeNumber]] ∨ form = exactly [[.texts]] := by
    simpa [Production.forms] using hform
  -- in all four forms the types of the arguments have no trees
  rcases hforms with rfl | rfl | rfl | rfl
  · exact List.flatMap_eq_nil_iff.mpr fun v hv => (hargs v hv).passedAs_eq_nil rfl _
  · obtain ⟨token, _, rfl, htoken, rfl⟩ := takes_exactly_cons.mp hargs
    rw [passed_exactly_cons, htoken.passedAs_eq_nil rfl]
    rfl
  · obtain ⟨count, _, rfl, hcount, rfl⟩ := takes_exactly_cons.mp hargs
    rw [passed_exactly_cons, hcount.passedAs_eq_nil rfl]
    rfl
  · obtain ⟨names, _, rfl, hnames, rfl⟩ := takes_exactly_cons.mp hargs
    rw [passed_exactly_cons, hnames.passedAs_eq_nil rfl]
    rfl

theorem exists_int_of_hasType {v : Value} (h : v.HasType [.wholeNumber]) : ∃ n, v = .int n := by
  cases v with
  | number x =>
    cases x with
    | int n => exact ⟨n, rfl⟩
    | float y => cases h.1
  | _ => cases h.1

/-- The arguments of a parameter list are names, in one way or another, or a number of parameters.
-/
theorem list_names_or_count (hform : form ∈ Production.formalParameterList.forms)
    (hargs : form.Takes args) :
    (∃ names, list args = listOfNames names ∧ ∀ n ∈ names, n.HasType [.name]) ∨
      ∃ n, args = [.int n] := by
  have hforms : form = each [.text] ∨ form = exactly [[.identifierToken]]
      ∨ form = exactly [[.wholeNumber]] ∨ form = exactly [[.texts]] := by
    simpa [Production.forms] using hform
  rcases hforms with rfl | rfl | rfl | rfl
  · -- texts one by one
    refine .inl ⟨args, ?_, fun v hv => (hargs v hv).weaken rfl⟩
    cases args with
    | nil => rfl
    | cons v rest =>
      have hv := (hargs v List.mem_cons_self).1
      cases v <;> first | rfl | cases hv
  · -- a token by itself
    obtain ⟨token, _, rfl, htoken, rfl⟩ := takes_exactly_cons.mp hargs
    refine .inl ⟨[token], ?_, List.forall_mem_singleton.mpr (htoken.weaken rfl)⟩
    cases token <;> first | rfl | cases htoken.1
  · -- a number
    obtain ⟨count, _, rfl, hcount, rfl⟩ := takes_exactly_cons.mp hargs
    obtain ⟨n, rfl⟩ := exists_int_of_hasType hcount
    exact .inr ⟨n, rfl⟩
  · -- texts in a sequence
    obtain ⟨names, _, rfl, hnames, rfl⟩ := takes_exactly_cons.mp hargs
    have htexts : ∃ items, list [names] = listOfNames items ∧ ∀ t ∈ items, t.isText = true := by
      cases names with
      | list items => exact ⟨items, rfl, by simpa [admits, Shape.holds] using hnames.1⟩
      | tuple items => exact ⟨items, rfl, by simpa [admits, Shape.holds] using hnames.1⟩
      | _ => cases hnames.1
    obtain ⟨items, hlist, hitems⟩ := htexts
    refine .inl ⟨items, hlist, fun t ht => ?_⟩
    obtain ⟨name, rfl⟩ := isText_iff.mp (hitems t ht)
    exact ⟨rfl, isWellTyped_of_trees_eq_nil rfl⟩

/-- A parameter list comes of all documented arguments for which the names can be written. -/
theorem list_assembles (hform : form ∈ Production.formalParameterList.forms)
    (hargs : form.Takes args) (hfit : Builder.NamesFit (.node .formalParameterList) args) :
    (list args).Assembles [.nodeOf .formalParameterList] (form.passed args) := by
  rw [passed_parameters hform hargs]
  obtain ⟨names, hlist, hnames⟩ | ⟨n, rfl⟩ := list_names_or_count hform hargs
  · obtain ⟨v, hv, htype⟩ := listOfNames_hasType hnames
    rw [hlist]
    exact ⟨v, hv, htype.assembles_nil⟩
  · obtain ⟨v, hv, htype⟩ := positional_hasType false hfit
    exact ⟨v, hv, htype.assembles_nil⟩

end Parameters

/-! ### The table of slots -/

/-- The recipe takes arguments of the form slot by slot into the fields of the production. -/
def Production.slotsFill (p : Production) : Bool :=
  match p.recipe with
  | .slots slots => p.forms.all fun form => Slot.fills slots form p.fields
  | _ => true

theorem Production.slotsFill_eq_true (p : Production) : p.slotsFill = true := by
  cases p <;> rfl

/-- The productions that hold nothing but children. -/
theorem Production.recipe_gathered {p : Production} (h : p.recipe = .gathered) :
    p.forms = children [] ∧ ∃ name, p.fields = [⟨name, .trees⟩] := by
  cases p <;> first | exact ⟨rfl, _, rfl⟩ | cases h

/-- A builder of a production returns a node that holds the trees it was given.  Most productions
are settled by the table of slots, or hold nothing but children; the others have rules of their own.
-/
theorem Production.build_assembles (p : Production) {form : CallForm} (hform : form ∈ p.forms)
    {args : List Value} (hargs : form.Takes args) (hfit : Builder.NamesFit (.node p) args) :
    (p.build args).Assembles p.returns (form.passed args) := by
  cases hrecipe : p.recipe with
  | slots slots =>
    -- The table has been run over all forms of all productions.
    have hfills : Slot.fills slots form p.fields = true := by
      have htable := p.slotsFill_eq_true
      rw [slotsFill, hrecipe] at htable
      exact List.all_eq_true.mp htable form hform
    obtain ⟨fields, htake, hfields⟩ := Slot.takeAll_assembly hfills hargs
    have hreturns : p.returns = [.nodeOf p] := by cases p <;> first | rfl | cases hrecipe
    rw [hreturns]
    refine ⟨.tree p fields, ?_, hfields.tree⟩
    simp only [build, hrecipe, htake]
    rfl
  | gathered =>
    -- The gathered children are the only field, and become a tuple.
    obtain ⟨hforms, name, hfields⟩ := recipe_gathered hrecipe
    rw [hforms] at hform
    obtain ⟨hpassed, htrees⟩ := passed_children hform hargs
    have hreturns : p.returns = [.nodeOf p] := by cases p <;> first | rfl | cases hrecipe
    have hfield : Assembly p.fields [.tuple (gather args)] (gather args) := by
      rw [hfields]
      exact .last (assembles_tuple htrees)
    rw [hpassed, hreturns]
    refine ⟨.tree p [.tuple (gather args)], ?_, hfield.tree⟩
    simp only [build, hrecipe]
  | own rule =>
    -- Only these nine productions have a rule of their own.
    cases p with
    | bindingIdentifier =>
      exact Builder.unary_assembles hform hargs fun v hv => Name.binding_assembles hv
    | identifierExpression =>
      exact Builder.unary_assembles hform hargs fun v hv => Name.reference_assembles hv
    | formalParameterList => exact Parameters.list_assembles hform hargs hfit
    | functionExpression => exact Rule.functionExpression_assembles hform hargs
    | memberExpression => exact Rule.memberExpression_assembles hform hargs
    | thisExpression => exact Rule.thisExpression_assembles hform hargs
    | tryStatement => exact Rule.tryStatement_assembles hform hargs
    | variableDeclarationList => exact Rule.variableDeclarationList_assembles hform hargs
    | variableStatement => exact Rule.variableStatement_assembles hform hargs
    | _ => cases hrecipe

end EcmaTree
