import EcmaTree.Proofs.Build.Locations

/-!
# Where the locations in a tree come from

A location in what a builder returns stands on a token or a node that is part of an argument
already, or on a name that was part of an argument in its other shape as a node, with the same token
and at the same location.  Whatever else a builder makes has no location
(`Builder.build_locations`).
-/

namespace EcmaTree

open Value

variable {S : Value → Prop} (hS : Carries S) {v w : Value} {vs : List Value}

namespace Idiom

include hS

theorem literal_within (h : v.Within S) : (literal v).Within S := hS.tree_one _ h

theorem booleanLiteral_within (b : Bool) : (booleanLiteral b).Within S :=
  literal_within hS (hS.token _)

theorem numberLiteral_within (x : Number) : (numberLiteral x).Within S :=
  literal_within hS (hS.literal _ _)

theorem voidZero_within : voidZero.Within S :=
  hS.tree_one _ (hS.tree_two _ (hS.token _) (numberLiteral_within hS _))

theorem statement_within (h : v.Within S) : (statement v).Within S := hS.tree_one _ h

theorem assignment_within (hv : v.Within S) (hw : w.Within S) : (assignment v w).Within S := by
  refine hS.tree _ ?_
  simp only [List.forall_mem_cons]
  exact ⟨hv, hS.token _, hw, List.forall_mem_nil _⟩

theorem argumentList_within (h : ∀ w ∈ vs, w.Within S) : (argumentList vs).Within S :=
  hS.tree_one _ (hS.tuple (gather_within h))

theorem callStatement_within (hv : v.Within S) (hw : w.Within S) :
    (callStatement v w).Within S := by
  refine statement_within hS (hS.tree_two _ hv ?_)
  split_ifs
  · exact argumentList_within hS (List.forall_mem_nil _)
  · exact hw

theorem yieldStatement_within (hv : v.Within S) (hw : w.Within S) : (yieldStatement v w).Within S :=
  statement_within hS (hS.tree_two _ hv hw)

theorem memberCall_within (hv : v.Within S) (name : Text) (h : ∀ w ∈ vs, w.Within S) :
    (memberCall v name vs).Within S := by
  have hmember : (member v name).Within S :=
    hS.tree_two _ (Name.operand_within hS hv) (hS.identifier (hS.text name))
  exact hS.tree_two _ hmember (argumentList_within hS h)

theorem callCall_within (hv : v.Within S) (hw : w.Within S) (h : ∀ x ∈ vs, x.Within S) :
    (callCall v w vs).Within S :=
  memberCall_within hS hv _ (List.forall_mem_singleton.mpr
    (hS.tuple (List.forall_mem_cons.mpr ⟨hw, gather_within h⟩)))

theorem callCallStatement_within (hv : v.Within S) (hw : w.Within S) (h : ∀ x ∈ vs, x.Within S) :
    (callCallStatement v w vs).Within S :=
  statement_within hS (callCall_within hS hv hw (List.forall_mem_singleton.mpr (hS.tuple h)))

theorem boundCall_within (hv : v.Within S) (hw : w.Within S) : (boundCall v w).Within S := by
  refine memberCall_within hS ?_ _ (List.forall_mem_singleton.mpr hw)
  split_ifs
  · exact hS.tree_one _ hv
  · exact hv

theorem scopedExpression_within (h : v.Within S) : (scopedExpression v).Within S := by
  refine callCall_within hS (hS.tree_one _ (hS.tree _ ?_)) (Rule.thisNode_within hS)
    (List.forall_mem_nil _)
  simp only [List.forall_mem_cons]
  exact ⟨hS.none, hS.bool false, Parameters.listOf_within hS (List.forall_mem_nil _), h,
    List.forall_mem_nil _⟩

theorem scopedBlock_within (h : v.Within S) : (scopedBlock v).Within S :=
  statement_within hS (scopedExpression_within hS h)

theorem block_within (h : ∀ w ∈ vs, w.Within S) : (block vs).Within S :=
  hS.tree_one _ (hS.tuple (gather_within h))

theorem scopedStatements_within (h : ∀ w ∈ vs, w.Within S) : (scopedStatements vs).Within S :=
  scopedBlock_within hS (block_within hS (List.forall_mem_singleton.mpr
    (hS.tuple (gather_within h))))

theorem descriptorEntry_within (hv : v.Within S) (hw : w.Within S) :
    Gives (Within S) (descriptorEntry v w) := by
  refine Gives.bind (Intake.take_within hS .key hv) fun key hkey => .ok (hS.tree_two _ hkey ?_)
  unfold descriptorValue
  split_ifs
  · exact hw
  · exact booleanLiteral_within hS _

/-- The entries of a descriptor are built one by one. -/
theorem descriptorEntries_within {entries : List (Value × Value)}
    (h : ∀ e ∈ entries, e.1.Within S ∧ e.2.Within S) :
    Gives (fun ws => ∀ w ∈ ws, w.Within S) (descriptorEntries entries) := by
  induction entries with
  | nil => exact .ok (List.forall_mem_nil _)
  | cons e entries ih =>
    rw [List.forall_mem_cons] at h
    refine Gives.bind (descriptorEntry_within hS h.1.1 h.1.2) fun entry hentry => ?_
    refine Gives.bind (ih h.2) fun others hothers => ?_
    exact .ok (List.forall_mem_cons.mpr ⟨hentry, hothers⟩)

theorem descriptor_within (h : v.Within S) : Gives (Within S) (descriptor v) := by
  cases v with
  | mapping entries =>
    refine Gives.bind (descriptorEntries_within hS fun e he => ?_) fun properties hproperties =>
      .ok (hS.tree_one _ (hS.tuple (gather_within (List.forall_mem_singleton.mpr
        (hS.list hproperties)))))
    have hcomponent : ∀ w ∈ [e.1, e.2], w.Within S := fun w hw =>
      h.component (List.mem_flatMap.mpr ⟨e, he, hw⟩)
    simp only [List.forall_mem_cons] at hcomponent
    exact ⟨hcomponent.1, hcomponent.2.1⟩
  | _ => exact .error _

theorem objectCall_within (name : Text) (h : ∀ w ∈ vs, w.Within S) :
    (objectCall name vs).Within S :=
  memberCall_within hS (hS.text _) name h

theorem propertyExpression_within (h : v.Within S) : (propertyExpression v).Within S := by
  cases v with
  | text t => exact literal_within hS (hS.literal _ _)
  | _ => exact h

theorem defineProperty_within {object name properties : Value} (hobject : object.Within S)
    (hname : name.Within S) (hproperties : properties.Within S) :
    Gives (Within S) (defineProperty object name properties) := by
  refine Gives.bind (descriptor_within hS hproperties) fun described hdescribed => ?_
  refine .ok (objectCall_within hS _ ?_)
  simp only [List.forall_mem_cons]
  exact ⟨hobject, propertyExpression_within hS hname, hdescribed, List.forall_mem_nil _⟩

theorem objectCreate_within (hv : v.Within S) (hw : w.Within S) : (objectCreate v w).Within S := by
  refine objectCall_within hS _ (List.forall_mem_singleton.mpr (hS.list ?_))
  split_ifs
  · exact List.forall_mem_singleton.mpr hv
  · exact List.forall_mem_cons.mpr ⟨hv, List.forall_mem_singleton.mpr hw⟩

theorem assignState_within (state : Number) : (assignState state).Within S :=
  statement_within hS (assignment_within hS (Name.referTo_within hS _)
    (numberLiteral_within hS state))

end Idiom

namespace Builder

section

include hS

/-- The keys of a mapping are parts of it. -/
theorem gatherKeys_within {entries : List (Value × Value)} (h : (Value.mapping entries).Within S) :
    Gives (Within S) (gatherKeys entries) := by
  unfold gatherKeys
  split
  · split
    · exact .error _
    · exact .ok (hS.tuple (elements_within hS rfl h))
  · exact .error _

/-- What is gathered was there before, or is a text. -/
theorem gatherOf_within (h : v.Within S) : Gives (Within S) (gatherOf v) := by
  unfold gatherOf
  split_ifs
  · split
    · exact .ok (hS.tuple (gather_within fun w => h.component))
    · exact .ok (hS.tuple (gather_within fun w => h.component))
    · exact .ok (hS.tuple (List.forall_mem_map.mpr fun c _ => hS.text [c]))
    · exact gatherKeys_within hS h
    · exact .error _
  · exact .ok (hS.tuple (List.forall_mem_nil _))

theorem operator_within (v : Value) : Gives (Within S) (operator v) := by
  unfold operator
  split
  · exact .ok (hS.token _)
  · exact .error _

theorem definition_within (h : ∀ w ∈ vs, w.Within S) : Gives (Within S) (definition vs) := by
  unfold definition
  split
  · simp only [List.forall_mem_cons] at h
    exact Idiom.defineProperty_within hS h.1 h.2.1 h.2.2.1
  · exact .error _

/-- What a text is read as has no location. -/
theorem literalValue_within (v : Value) : Gives (Within S) (v.toText.bind Built.literalValue) := by
  refine Gives.bind (P := fun _ => True) (fun _ _ => trivial) fun t _ => ?_
  unfold Built.literalValue
  split
  · next value _ =>
    cases value with
    | null => exact .ok hS.none
    | boolean b => exact .ok (hS.bool b)
    | number x => exact .ok (hS.number x)
    | string t => exact .ok (hS.text t)
  · exact .error _

end

include hS in
/-- No builder leaves a class that carries names from one shape to the other. -/
theorem build_within (b : Builder) (h : ∀ w ∈ vs, w.Within S) : Gives (Within S) (b.build vs) := by
  -- One case for each builder, in the order of the table.  A builder is within the class because
  -- its rule is, and the rule gets its arguments through `unary_within` and its siblings.
  cases b with
  | node p => exact p.build_within hS h
  | nameToken => exact unary_within h fun v hv => Name.token_within hS hv
  | gathered => exact unary_within h fun v => gatherOf_within hS
  | operatorToken => exact unary_within h fun v _ => operator_within hS v
  | identifierToken => exact unary_within h fun v hv => .ok (hS.identifier hv)
  | propertyNameToken => exact onText_within (Token.propertyName_within hS)
  | stringToken => exact unary_within h fun v _ => Token.data_within hS v
  | booleanToken => exact unary_within h fun v _ => .ok (hS.token _)
  | nullToken => exact nullary_within (hS.literal _ _)
  | numberText => exact onNumber_within fun x => hS.text _
  | numberToken => exact onNumber_within fun x => hS.literal _ _
  | emptyList => exact nullary_within (hS.list (List.forall_mem_nil _))
  | statementList => exact .ok (hS.tuple (gather_within h))
  | stringLiteral =>
    exact unary_within h fun v _ =>
      (Token.data_within hS v).map fun w hw => Idiom.literal_within hS hw
  | booleanLiteral => exact unary_within h fun v _ => .ok (Idiom.booleanLiteral_within hS _)
  | trueLiteral => exact nullary_within (Idiom.booleanLiteral_within hS true)
  | falseLiteral => exact nullary_within (Idiom.booleanLiteral_within hS false)
  | nullLiteral => exact nullary_within (Idiom.literal_within hS (hS.literal _ _))
  | numberLiteral => exact onNumber_within (Idiom.numberLiteral_within hS)
  | undefinedExpression => exact nullary_within (Name.referTo_within hS _)
  | emptyParameterList => exact nullary_within (Parameters.listOf_within hS (List.forall_mem_nil _))
  | emptyArgumentList => exact nullary_within (Idiom.argumentList_within hS (List.forall_mem_nil _))
  | emptyArrayLiteral =>
    exact nullary_within (hS.tree_one _ (hS.tuple (List.forall_mem_nil _)))
  | assignmentExpression => exact binary_within h fun v w => Idiom.assignment_within hS
  | voidZero => exact nullary_within (Idiom.voidZero_within hS)
  | emptyBlock => exact nullary_within (hS.tree_one _ (hS.tuple (List.forall_mem_nil _)))
  | assignmentStatement =>
    exact binary_within h fun v w hv hw =>
      Idiom.statement_within hS (Idiom.assignment_within hS hv hw)
  | callStatement => exact binaryOr_within h hS.none fun v w => Idiom.callStatement_within hS
  | yieldStatement =>
    exact binaryOr_within h (hS.bool false) fun v w => Idiom.yieldStatement_within hS
  | useStrictDirective =>
    exact nullary_within (Idiom.statement_within hS (Idiom.literal_within hS (hS.literal _ _)))
  | parameterListWithRest => exact unary_within h fun v _ => Parameters.listWithRest_within hS v
  | parameterReference => exact unary_within h fun v _ => Parameters.reference_within hS v
  | parameterName => exact unary_within h fun v _ => Parameters.nameOf_within hS v
  | forwardedArguments => exact unary_within h fun v => Parameters.forwardList_within hS
  | argumentsForArity => exact unary_within h fun v => Parameters.forwardFor_within hS
  | scopedExpression => exact unary_within h fun v hv => .ok (Idiom.scopedExpression_within hS hv)
  | scopedBlock => exact unary_within h fun v hv => .ok (Idiom.scopedBlock_within hS hv)
  | scopedStatements => exact .ok (Idiom.scopedStatements_within hS h)
  | boundCall => exact binary_within h fun v w => Idiom.boundCall_within hS
  | callCall => exact withRest_within h fun v w rest => Idiom.callCall_within hS
  | callCallStatement => exact withRest_within h fun v w rest => Idiom.callCallStatement_within hS
  | propertyDescriptor => exact unary_within h fun v => Idiom.descriptor_within hS
  | defineProperty => exact definition_within hS h
  | objectCreate => exact binaryOr_within h hS.none fun v w => Idiom.objectCreate_within hS
  | objectFreeze =>
    exact unary_within h fun v hv =>
      .ok (Idiom.objectCall_within hS _ (List.forall_mem_singleton.mpr hv))
  | objectPreventExtensions =>
    exact unary_within h fun v hv =>
      .ok (Idiom.objectCall_within hS _ (List.forall_mem_singleton.mpr hv))
  | assignStateStatement => exact onNumber_within (Idiom.assignState_within hS)
  | literalValue => exact unary_within h fun v _ => literalValue_within hS v

/-! ### Origins -/

end Builder

namespace Value

/-- The node of a name in its other shape, at the same location. -/
def otherName? : Value → Option Value
  | node .bindingIdentifier fields l => some (node .identifierExpression fields l)
  | node .identifierExpression fields l => some (node .bindingIdentifier fields l)
  | _ => Option.none

/-- A name keeps its location in its other shape. -/
theorem location?_of_otherName? {n w : Value} (h : n.otherName? = some w) :
    n.location? = w.location? := by
  unfold otherName? at h
  split at h
  · obtain rfl := Option.some.inj h
    rfl
  · obtain rfl := Option.some.inj h
    rfl
  · cases h

/-- The other shape of the other shape is the first one. -/
theorem otherName?_symm {n w : Value} (h : n.otherName? = some w) : w.otherName? = some n := by
  unfold otherName? at h
  split at h
  · obtain rfl := Option.some.inj h
    rfl
  · obtain rfl := Option.some.inj h
    rfl
  · cases h

/-- The value is part of one of the others. -/
def IsPartOfAny (w : Value) (vs : List Value) : Prop := ∃ v ∈ vs, w.IsPartOf v

/-- How a value in a result comes about. -/
inductive ComesFrom (w : Value) (vs : List Value) : Prop where
  /-- It has no location. -/
  | synthetic (h : w.IsUnlocated)
  /-- It was given. -/
  | given (h : w.IsPartOfAny vs)
  /-- It is a name that was given in its other shape. -/
  | converted {n : Value} (hn : n.otherName? = some w) (h : n.IsPartOfAny vs)

/-- Where a name comes from, its other shape comes from too. -/
theorem ComesFrom.other (h : w.ComesFrom vs) (hw : w.otherName? = some v) : v.ComesFrom vs := by
  cases h with
  | synthetic h =>
    refine .synthetic fun l hl => h l ?_
    rw [location?_of_otherName? hw, hl]
  | given h => exact .converted hw h
  | converted hn h =>
    obtain rfl := Option.some.inj ((otherName?_symm hn).symm.trans hw)
    exact .given h

/-- The location of a value that comes from others is one of theirs. -/
theorem ComesFrom.location (h : w.ComesFrom vs) {l : Value} (hl : w.location? = some l) :
    l = none ∨ ∃ u : Value, u.IsPartOfAny vs ∧ u.location? = some l := by
  cases h with
  | synthetic h => exact .inl (h l hl)
  | given h => exact .inr ⟨w, h, hl⟩
  | converted hn h => exact .inr ⟨_, h, (location?_of_otherName? hn).trans hl⟩

end Value

/-- What comes from given values is a class that no builder leaves. -/
theorem carries_comesFrom (vs : List Value) : Carries fun w => w.ComesFrom vs where
  unlocated _ h := .synthetic h
  binding _ _ h := h.other rfl
  reference _ _ h := h.other rfl

/-- So is what has no location. -/
theorem carries_isUnlocated : Carries IsUnlocated where
  unlocated _ h := h
  binding _ _ h := h
  reference _ _ h := h

theorem isSynthetic_passedOn : Term.PassedOn IsSynthetic where
  list _ h := carries_isUnlocated.list h
  tuple _ h := carries_isUnlocated.tuple h
  mapping _ h := carries_isUnlocated.mapping h

namespace Builder

/-- **Builders make up no locations.**  Every part of what a builder returns has no location, or is
part of an argument, or is a name that is part of an argument in its other shape.  So every location
in the result is one of a token or a node in the arguments, and what nested calls make of values
without locations has no location anywhere. -/
theorem build_locations :
    (∀ (b : Builder) (args : List Value) (v : Value), b.build args = .ok v →
      ∀ w : Value, w.IsPartOf v → w.ComesFrom args ∧
        ∀ l, w.location? = some l → l = .none ∨
          ∃ u : Value, u.IsPartOfAny args ∧ u.location? = some l) ∧
    ∀ (env : Environment) (t : Term) (v : Value), t.Nests IsSynthetic (fun _ _ => True) env →
      t.eval env = .ok v → v.IsSynthetic := by
  constructor
  · intro b args v hv w hw
    have hgiven : ∀ a ∈ args, a.Within fun w => w.ComesFrom args :=
      fun a ha w hw => .given ⟨a, ha, hw⟩
    have horigin := b.build_within (carries_comesFrom args) hgiven v hv w hw
    exact ⟨horigin, fun l hl => horigin.location hl⟩
  · intro env t v ht hv
    refine ht.of_eval (fun v h => h) isSynthetic_passedOn (fun b vs w hw hvs => ?_) hv
    exact b.build_within carries_isUnlocated hvs w hw

/-- Line 3 of the file `f`. -/
def thirdLine : Value := .span (.string "f") (.int 3) (.int 1) (.int 3) (.int 2) .none

/-- A name that is referred to there becomes a rest parameter at the same place; without a location
it becomes one without a location. -/
theorem build_locations_restParameter :
    ((Value.node .bindingIdentifier [Token.identifier []] thirdLine).ComesFrom
        [.node .identifierExpression [Token.identifier []] thirdLine] ∧
      ∃ u : Value, u.IsPartOfAny [.node .identifierExpression [Token.identifier []] thirdLine] ∧
        u.location? = some thirdLine) ∧
    (Value.tree .restParameter [.tree .bindingIdentifier [Token.identifier []]]).IsSynthetic := by
  have hpart := build_locations.1 (.node .restParameter)
    [.node .identifierExpression [Token.identifier []] thirdLine]
    (.tree .restParameter [.node .bindingIdentifier [Token.identifier []] thirdLine]) rfl
    (.node .bindingIdentifier [Token.identifier []] thirdLine)
    (.inside (List.mem_cons_of_mem _ List.mem_cons_self) .refl)
  have hnest : (Term.call (.node .restParameter) [.value (.text [])]).Nests IsSynthetic
      (fun _ _ => True) [] :=
    .call (List.forall_mem_singleton.mpr (.value (carries_isUnlocated.text []))) fun _ _ => trivial
  refine ⟨⟨hpart.1, (hpart.2 thirdLine rfl).resolve_left ?_⟩, build_locations.2 [] _ _ hnest rfl⟩
  rintro ⟨⟩

end Builder

end EcmaTree
