import EcmaTree.Proofs.Build.Nesting
import EcmaTree.Proofs.Tree.Parts
import EcmaTree.Proofs.Tree.Typing

/-!
# Builders make up no locations

Take a class of values that holds whatever has no location, and with a declared name also the
reference to it at the same location, and the other way round.  No builder leaves such a class: if
all parts of its arguments are in it, then so are all parts of what it returns.  That is shown here
for names, arguments and productions (`Production.build_within`).

For the parts of the arguments, closed up in this way, it says where every location in the result
comes from; for the values without a location it says that everything made of synthetic values is
synthetic.
-/

namespace EcmaTree

open Value

/-! ### Results -/

/-- If there is a result, it has the property. -/
def Gives {α : Type} (P : α → Prop) (r : Except BuildError α) : Prop := ∀ a, r = .ok a → P a

namespace Gives

variable {α β : Type} {P : α → Prop} {Q : β → Prop}

theorem ok {a : α} (h : P a) : Gives P (.ok a) := by
  rintro _ ⟨⟩
  exact h

theorem error (e : BuildError) : Gives P (.error e) := by
  rintro _ ⟨⟩

/-- A step after another one may count on what that one gives. -/
theorem bind {x : Except BuildError α} {f : α → Except BuildError β} (hx : Gives P x)
    (hf : ∀ a, P a → Gives Q (f a)) : Gives Q (x >>= f) := by
  intro b hb
  obtain ⟨a, ha, hab⟩ := bind_eq_ok.mp hb
  exact hf a (hx a ha) b hab

theorem map {x : Except BuildError α} {f : α → β} (hx : Gives P x) (hf : ∀ a, P a → Q (f a)) :
    Gives Q (x.map f) := by
  cases x with
  | error e => exact error e
  | ok a => exact ok (hf a (hx a rfl))

/-- A form that any result is put into may have the property by itself. -/
theorem map_of_forall {x : Except BuildError α} {f : α → β} (hf : ∀ a, Q (f a)) :
    Gives Q (x.map f) :=
  map (P := fun _ => True) (fun _ _ => trivial) fun a _ => hf a

/-- If each member gives something of the class, so does the list. -/
theorem mapM {f : α → Except BuildError β} {l : List α} (hf : ∀ a ∈ l, Gives Q (f a)) :
    Gives (fun bs => ∀ b ∈ bs, Q b) (l.mapM f) := by
  induction l with
  | nil => exact ok (List.forall_mem_nil _)
  | cons a l ih =>
    rw [List.forall_mem_cons] at hf
    rw [List.mapM_cons]
    refine bind hf.1 fun b hb => bind (ih hf.2) fun bs hbs => ?_
    exact ok (List.forall_mem_cons.mpr ⟨hb, hbs⟩)

end Gives

/-! ### Classes of values -/

/-- The class holds what has no location, and names in both of their shapes as nodes. -/
structure Carries (S : Value → Prop) : Prop where
  /-- What has no location is in the class. -/
  unlocated : ∀ v, v.IsUnlocated → S v
  /-- A reference can be declared. -/
  binding : ∀ fields l, S (.node .identifierExpression fields l) →
    S (.node .bindingIdentifier fields l)
  /-- A declared name can be referred to. -/
  reference : ∀ fields l, S (.node .bindingIdentifier fields l) →
    S (.node .identifierExpression fields l)

variable {S : Value → Prop} (hS : Carries S)

namespace Carries

include hS

theorem isolated {v : Value} (hv : v.IsUnlocated) (hcomponents : ∀ c ∈ v.components, c.Within S) :
    v.Within S :=
  within_iff.mpr ⟨hS.unlocated v hv, hcomponents⟩

theorem none : Value.none.Within S := hS.isolated (by rintro l ⟨⟩) (List.forall_mem_nil _)

theorem bool (b : Bool) : (Value.bool b).Within S :=
  hS.isolated (by rintro l ⟨⟩) (List.forall_mem_nil _)

theorem text (t : Text) : (Value.text t).Within S :=
  hS.isolated (by rintro l ⟨⟩) (List.forall_mem_nil _)

theorem number (x : Number) : (Value.number x).Within S :=
  hS.isolated (by rintro l ⟨⟩) (List.forall_mem_nil _)

theorem list {vs : List Value} (h : ∀ v ∈ vs, v.Within S) : (Value.list vs).Within S :=
  hS.isolated (by rintro l ⟨⟩) h

theorem tuple {vs : List Value} (h : ∀ v ∈ vs, v.Within S) : (Value.tuple vs).Within S :=
  hS.isolated (by rintro l ⟨⟩) h

theorem mapping {entries : List (Value × Value)}
    (h : ∀ e ∈ entries, e.1.Within S ∧ e.2.Within S) : (Value.mapping entries).Within S := by
  refine hS.isolated (by rintro l ⟨⟩) fun c hc => ?_
  obtain ⟨e, he, hc⟩ := List.mem_flatMap.mp hc
  rcases List.mem_pair.mp hc with rfl | rfl
  · exact (h e he).1
  · exact (h e he).2

theorem tree (p : Production) {fields : List Value} (h : ∀ v ∈ fields, v.Within S) :
    (Value.tree p fields).Within S :=
  hS.isolated (by rintro l ⟨⟩; rfl) (List.forall_mem_cons.mpr ⟨hS.none, h⟩)

theorem tree_one (p : Production) {v : Value} (hv : v.Within S) : (Value.tree p [v]).Within S :=
  hS.tree p (List.forall_mem_singleton.mpr hv)

theorem tree_two (p : Production) {v w : Value} (hv : v.Within S) (hw : w.Within S) :
    (Value.tree p [v, w]).Within S :=
  hS.tree p (List.forall_mem_cons.mpr ⟨hv, List.forall_mem_singleton.mpr hw⟩)

theorem token (kind : TokenKind) : (Value.token kind .none).Within S :=
  hS.isolated (by rintro l ⟨⟩; rfl) (List.forall_mem_singleton.mpr hS.none)

theorem identifier {name : Value} (h : name.Within S) : (Value.identifier name .none).Within S :=
  hS.isolated (by rintro l ⟨⟩; rfl)
    (List.forall_mem_cons.mpr ⟨h, List.forall_mem_singleton.mpr hS.none⟩)

theorem literal (kind : TokenKind) (spelling : Text) : (Token.literal kind spelling).Within S :=
  hS.isolated (by rintro l ⟨⟩; rfl)
    (List.forall_mem_cons.mpr ⟨hS.text spelling, List.forall_mem_singleton.mpr hS.none⟩)

end Carries

variable {v : Value} {vs : List Value}

/-! ### Names and tokens -/

namespace Name

include hS

theorem token_within (h : v.Within S) : Gives (Within S) (token v) := by
  cases v with
  | text t => exact .ok (hS.identifier h)
  | identifier n l => exact .ok h
  | _ => exact .error _

/-- A name turned into a declaration stays within, since the location goes along. -/
theorem binding_within (h : v.Within S) : Gives (Within S) (binding v) := by
  -- a node of the other kind keeps its components, so only the node itself has to be carried over
  cases v with
  | text t => exact .ok (hS.tree_one _ (hS.identifier h))
  | identifier n l => exact .ok (hS.tree_one _ h)
  | node p fields l =>
    cases p with
    | bindingIdentifier => exact .ok h
    | identifierExpression =>
      exact .ok (within_iff.mpr ⟨hS.binding _ _ h.self, fun _ => h.component⟩)
    | _ => exact .error _
  | _ => exact .error _

/-- A name turned into a reference stays within, since the location goes along. -/
theorem reference_within (h : v.Within S) : Gives (Within S) (reference v) := by
  cases v with
  | text t => exact .ok (hS.tree_one _ (hS.identifier h))
  | identifier n l => exact .ok (hS.tree_one _ h)
  | node p fields l =>
    cases p with
    | identifierExpression => exact .ok h
    | bindingIdentifier =>
      exact .ok (within_iff.mpr ⟨hS.reference _ _ h.self, fun _ => h.component⟩)
    | _ => exact .error _
  | _ => exact .error _

theorem referTo_within (name : Text) : (referTo name).Within S :=
  hS.tree_one _ (hS.identifier (hS.text name))

theorem operand_within (h : v.Within S) : (operand v).Within S := by
  cases v with
  | text t => exact referTo_within hS t
  | identifier n l => exact hS.tree_one _ h
  | _ => exact h

end Name

namespace Token

include hS

theorem propertyName_within (name : Text) : (propertyName name).Within S := by
  unfold propertyName
  split_ifs
  · exact hS.identifier (hS.text name)
  · exact hS.literal _ _
  · exact hS.literal _ _

theorem data_within (v : Value) : Gives (Within S) (data v) := by
  intro token htoken
  obtain ⟨t, -, rfl⟩ := map_eq_ok.mp (mapError_eq_ok.mp htoken)
  exact hS.literal _ _

end Token

/-! ### Arguments -/

theorem members_within {items : List Value} (hitems : v.members? = some items) (h : v.Within S) :
    ∀ w ∈ items, w.Within S := by
  cases v with
  | list others =>
    obtain rfl := Option.some.inj hitems
    exact fun w => h.component
  | tuple others =>
    obtain rfl := Option.some.inj hitems
    exact fun w => h.component
  | _ => cases hitems

/-- Opening a leading sequence keeps everything within. -/
theorem gather_within (h : ∀ w ∈ vs, w.Within S) : ∀ w ∈ gather vs, w.Within S := by
  cases vs with
  | nil => exact h
  | cons head rest =>
    rw [List.forall_mem_cons] at h
    cases hitems : head.members? with
    | none =>
      rw [gather, hitems]
      exact List.forall_mem_cons.mpr h
    | some items =>
      rw [gather, hitems]
      exact List.forall_mem_append.mpr ⟨members_within hitems h.1, h.2⟩

include hS in
/-- What comes out of an iteration is within. -/
theorem elements_within {items : List Value} (hitems : v.elements? = some items)
    (h : v.Within S) : ∀ w ∈ items, w.Within S := by
  cases v with
  | list others =>
    obtain rfl := Option.some.inj hitems
    exact fun w => h.component
  | tuple others =>
    obtain rfl := Option.some.inj hitems
    exact fun w => h.component
  -- A text has its code points for elements, and a mapping its keys.
  | text t =>
    obtain rfl := Option.some.inj hitems
    exact List.forall_mem_map.mpr fun c _ => hS.text [c]
  | mapping entries =>
    obtain rfl := Option.some.inj hitems
    refine List.forall_mem_map.mpr fun e he => h.component ?_
    exact List.mem_flatMap.mpr ⟨e, he, List.mem_cons_self⟩
  | _ => cases hitems

include hS in
/-- What a slot takes is within if the argument is. -/
theorem Intake.take_within (i : Intake) (h : v.Within S) : Gives (Within S) (i.take v) := by
  -- A coercion that looks at the value first is split on that question.
  cases i with
  | value => exact .ok h
  | name => exact Name.token_within hS h
  | label =>
    show Gives _ (if v.isTruthy then Name.token v else .ok .none)
    split_ifs
    · exact Name.token_within hS h
    · exact .ok hS.none
  | binding => exact Name.binding_within hS h
  | declared =>
    show Gives _ (if v.isDeclarable then .ok v else Name.binding v)
    split_ifs
    · exact .ok h
    · exact Name.binding_within hS h
  | key =>
    cases v with
    | text t => exact .ok (Token.propertyName_within hS t)
    | _ => exact .ok h
  | sequence =>
    cases hitems : v.elements? with
    | none =>
      simp only [take, hitems]
      exact .error _
    | some items =>
      simp only [take, hitems]
      exact .ok (hS.tuple (elements_within hS hitems h))
  | arguments =>
    cases v with
    | none =>
      have hempty := hS.tuple (List.forall_mem_nil _)
      exact .ok (hS.tree_one _ hempty)
    | _ => exact .ok h

namespace Slot

/-- Whatever can be left out stands for a value without a location. -/
def leavesOutPlain (slots : List Slot) : Bool :=
  slots.all fun slot => slot.default?.all fun v => v.isNone || v.isFlag

include hS in
/-- All fields of a node are within if the arguments are. -/
theorem takeAll_within {slots : List Slot} (hslots : leavesOutPlain slots = true)
    (h : ∀ w ∈ vs, w.Within S) : Gives (fun ws => ∀ w ∈ ws, w.Within S) (takeAll slots vs) := by
  induction slots generalizing vs with
  | nil =>
    cases vs with
    | nil => exact .ok h
    | cons v rest => exact .error _
  | cons slot slots ih =>
    obtain ⟨hslot, hothers⟩ := Bool.and_eq_true_iff.mp hslots
    -- the step is the same for an argument and for what stands in its place
    have hcons : ∀ (v : Value) (rest : List Value), v.Within S → (∀ w ∈ rest, w.Within S) →
        Gives (fun ws => ∀ w ∈ ws, w.Within S) (do
          let field ← slot.intake.take v
          let fields ← takeAll slots rest
          return field :: fields) := by
      intro v rest hv hrest
      refine Gives.bind (Intake.take_within hS slot.intake hv) fun field hfield => ?_
      refine Gives.bind (ih hothers hrest) fun fields hfields => ?_
      exact .ok (List.forall_mem_cons.mpr ⟨hfield, hfields⟩)
    cases vs with
    | cons v rest =>
      rw [List.forall_mem_cons] at h
      exact hcons v rest h.1 h.2
    | nil =>
      cases hdefault : slot.default? with
      | none =>
        simp only [takeAll, hdefault]
        exact .error _
      | some v =>
        simp only [takeAll, hdefault]
        refine hcons v [] ?_ h
        simp only [hdefault, Option.all_some] at hslot
        cases v with
        | none => exact hS.none
        | bool b => exact hS.bool b
        | _ => cases hslot

end Slot

/-! ### Rules for a fixed number of arguments -/

namespace Builder

theorem nullary_within (hv : v.Within S) : Gives (Within S) (nullary v vs) := by
  cases vs with
  | nil => exact .ok hv
  | cons w rest => exact .error _

theorem unary_within {rule : Value → Built} (h : ∀ w ∈ vs, w.Within S)
    (hrule : ∀ v : Value, v.Within S → Gives (Within S) (rule v)) :
    Gives (Within S) (unary rule vs) := by
  unfold unary
  split
  · exact hrule _ (h _ List.mem_cons_self)
  · exact .error _

theorem binary_within {rule : Value → Value → Value} (h : ∀ w ∈ vs, w.Within S)
    (hrule : ∀ v w : Value, v.Within S → w.Within S → (rule v w).Within S) :
    Gives (Within S) (binary rule vs) := by
  unfold binary
  split
  · simp only [List.forall_mem_cons] at h
    exact .ok (hrule _ _ h.1 h.2.1)
  · exact .error _

/-- The second argument, or what stands in for it, is within. -/
theorem binaryOr_within {default : Value} {rule : Value → Value → Value}
    (h : ∀ w ∈ vs, w.Within S) (hdefault : default.Within S)
    (hrule : ∀ v w : Value, v.Within S → w.Within S → (rule v w).Within S) :
    Gives (Within S) (binaryOr default rule vs) := by
  unfold binaryOr
  split
  · exact .ok (hrule _ _ (h _ List.mem_cons_self) hdefault)
  · simp only [List.forall_mem_cons] at h
    exact .ok (hrule _ _ h.1 h.2.1)
  · exact .error _

theorem withRest_within {rule : Value → Value → List Value → Value} (h : ∀ w ∈ vs, w.Within S)
    (hrule : ∀ (v w : Value) (rest : List Value), v.Within S → w.Within S →
      (∀ x ∈ rest, x.Within S) → (rule v w rest).Within S) :
    Gives (Within S) (withRest rule vs) := by
  unfold withRest
  split
  · simp only [List.forall_mem_cons] at h
    exact .ok (hrule _ _ _ h.1 h.2.1 h.2.2)
  · exact .error _

theorem onNumber_within {rule : Number → Value} (hrule : ∀ x, (rule x).Within S) :
    Gives (Within S) (onNumber rule vs) := by
  unfold onNumber unary
  split
  · exact Gives.map (P := fun _ => True) (fun _ _ => trivial) fun x _ => hrule x
  · exact .error _

theorem onText_within {rule : Text → Value} (hrule : ∀ t, (rule t).Within S) :
    Gives (Within S) (onText rule vs) := by
  unfold onText unary
  split
  · exact Gives.map (P := fun _ => True) (fun _ _ => trivial) fun t _ => hrule t
  · exact .error _

end Builder

/-! ### Productions -/

namespace Rule

include hS

theorem extendMember_within {tree : Value} (htree : tree.Within S) (h : ∀ w ∈ vs, w.Within S) :
    Gives (Within S) (extendMember tree vs) := by
  induction vs generalizing tree with
  | nil => exact .ok htree
  | cons name names ih =>
    rw [List.forall_mem_cons] at h
    refine Gives.bind (Name.token_within hS h.1) fun token htoken => ih ?_ h.2
    exact hS.tree_two _ htree htoken

theorem memberExpression_within (h : ∀ w ∈ vs, w.Within S) :
    Gives (Within S) (memberExpression vs) := by
  unfold memberExpression
  split
  · next operand name names =>
    rw [List.forall_mem_cons] at h
    exact extendMember_within hS (Name.operand_within hS h.1) h.2
  · exact .error _

theorem thisNode_within : thisNode.Within S := hS.tree _ (List.forall_mem_nil _)

theorem thisExpression_within (h : ∀ w ∈ vs, w.Within S) :
    Gives (Within S) (thisExpression vs) := by
  unfold thisExpression
  split
  · exact .ok (thisNode_within hS)
  · split_ifs
    · exact memberExpression_within hS (List.forall_mem_cons.mpr ⟨thisNode_within hS, h⟩)
    · exact .ok (thisNode_within hS)
  · exact .error _

theorem functionExpression_within (h : ∀ w ∈ vs, w.Within S) :
    Gives (Within S) (functionExpression vs) := by
  unfold functionExpression
  -- Two arguments, or four of which the name may be missing.
  split
  · next parameters body =>
    exact .ok (hS.tree _ (List.forall_mem_cons.mpr ⟨hS.none,
      List.forall_mem_cons.mpr ⟨hS.bool false, h⟩⟩))
  · next parameters body name isGenerator =>
    simp only [List.forall_mem_cons] at h
    obtain ⟨hparameters, hbody, hname, hgenerator, -⟩ := h
    split_ifs
    · refine .ok (hS.tree _ ?_)
      simp only [List.forall_mem_cons]
      exact ⟨hS.none, hgenerator, hparameters, hbody, List.forall_mem_nil _⟩
    · refine Gives.bind (Name.binding_within hS hname) fun binding hbinding => .ok (hS.tree _ ?_)
      simp only [List.forall_mem_cons]
      exact ⟨hbinding, hgenerator, hparameters, hbody, List.forall_mem_nil _⟩
  · exact .error _

theorem tryStatement_within (h : ∀ w ∈ vs, w.Within S) : Gives (Within S) (tryStatement vs) := by
  unfold tryStatement
  split
  · exact .error _
  · next body handler =>
    simp only [List.forall_mem_cons] at h
    obtain ⟨hbody, hhandler, -⟩ := h
    -- The second of two arguments is a handler or a finalizer, by its production.
    split_ifs
    · refine .ok (hS.tree _ ?_)
      simp only [List.forall_mem_cons]
      exact ⟨hbody, hhandler, hS.none, List.forall_mem_nil _⟩
    · refine .ok (hS.tree _ ?_)
      simp only [List.forall_mem_cons]
      exact ⟨hbody, hS.none, hhandler, List.forall_mem_nil _⟩
    · exact .error _
  · exact .ok (hS.tree _ h)
  · exact .error _

theorem declaration_within {target initializer : Value} (htarget : target.Within S)
    (hinitializer : initializer.Within S) : Gives (Within S) (declaration target initializer) :=
  Gives.bind (Intake.take_within hS .declared htarget) fun _ hlvalue =>
    .ok (hS.tree_two _ hlvalue hinitializer)

theorem declarationList_within {kind declared initializer : Value} (hkind : kind.Within S)
    (hdeclared : declared.Within S) (hinitializer : initializer.Within S) :
    Gives (Within S) (declarationList kind declared initializer) := by
  have hlist : ∀ declarations : List Value, (∀ d ∈ declarations, d.Within S) →
      (Value.tree .variableDeclarationList [kind, .tuple declarations]).Within S :=
    fun declarations hdeclarations => hS.tree_two _ hkind (hS.tuple hdeclarations)
  unfold declarationList
  split
  · next declarations hmembers => exact .ok (hlist _ (members_within hmembers hdeclared))
  · refine Gives.bind (declaration_within hS hdeclared hinitializer) fun single hsingle => ?_
    exact .ok (hlist _ (List.forall_mem_singleton.mpr hsingle))

theorem variableDeclarationList_within (h : ∀ w ∈ vs, w.Within S) :
    Gives (Within S) (variableDeclarationList vs) := by
  unfold variableDeclarationList
  split
  · simp only [List.forall_mem_cons] at h
    exact declarationList_within hS h.1 h.2.1 hS.none
  · simp only [List.forall_mem_cons] at h
    exact declarationList_within hS h.1 h.2.1 h.2.2.1
  · exact .error _

theorem declarationStatement_within {first declared initializer : Value} (hfirst : first.Within S)
    (hdeclared : declared.Within S) (hinitializer : initializer.Within S) :
    Gives (Within S) (declarationStatement first declared initializer) := by
  unfold declarationStatement
  split_ifs
  · exact .ok (hS.tree_one _ hfirst)
  · exact .error _
  · refine Gives.bind (declarationList_within hS hfirst hdeclared hinitializer) fun list hlist => ?_
    exact .ok (hS.tree_one _ hlist)

theorem variableStatement_within (h : ∀ w ∈ vs, w.Within S) :
    Gives (Within S) (variableStatement vs) := by
  unfold variableStatement
  split
  · exact declarationStatement_within hS (h _ List.mem_cons_self) hS.none hS.none
  · simp only [List.forall_mem_cons] at h
    exact declarationStatement_within hS h.1 h.2.1 hS.none
  · simp only [List.forall_mem_cons] at h
    exact declarationStatement_within hS h.1 h.2.1 h.2.2.1
  · exact .error _

end Rule

namespace Parameters

include hS

theorem listOf_within (h : ∀ w ∈ vs, w.Within S) : (listOf vs).Within S :=
  hS.tree_one _ (hS.tuple h)

theorem bindingElement_within (h : v.Within S) :
    (Value.tree .bindingElement [v, .none]).Within S :=
  hS.tree_two _ h hS.none

theorem bindingNode_within (name : Text) :
    (Value.tree .bindingIdentifier [Token.identifier name]).Within S :=
  hS.tree_one _ (hS.identifier (hS.text name))

theorem elementAt_within (withRest : Bool) (count i : Nat) :
    Gives (Within S) (elementAt withRest count i) := by
  refine Gives.map_of_forall fun name => ?_
  split_ifs
  · exact hS.tree_one _ (bindingNode_within hS name)
  · exact bindingElement_within hS (bindingNode_within hS name)

theorem positional_within (withRest : Bool) (count : Int) :
    Gives (Within S) (positional withRest count) :=
  Gives.map (Gives.mapM fun i _ => elementAt_within hS withRest count.toNat i) fun _ hws =>
    listOf_within hS hws

theorem nameOf_within (index : Value) :
    Gives (Within S) ((nameOf index).map Value.text) :=
  Gives.map_of_forall hS.text

theorem reference_within (index : Value) : Gives (Within S) (reference index) :=
  Gives.map_of_forall (Name.referTo_within hS)

theorem listOfNames_within (h : ∀ w ∈ vs, w.Within S) : Gives (Within S) (listOfNames vs) := by
  have hnamed : Gives (fun ws => ∀ w ∈ ws, w.Within S) (named vs) := by
    induction vs with
    | nil => exact .ok h
    | cons name names ih =>
      rw [List.forall_mem_cons] at h
      refine Gives.bind (Name.binding_within hS h.1) fun binding hbinding => ?_
      refine Gives.bind (ih h.2) fun others hothers => ?_
      exact .ok (List.forall_mem_cons.mpr ⟨bindingElement_within hS hbinding, hothers⟩)
  exact hnamed.map fun ws hws => listOf_within hS hws

/-- A parameter list is within, however its parameters are given. -/
theorem list_within (h : ∀ w ∈ vs, w.Within S) : Gives (Within S) (list vs) := by
  cases vs with
  | nil => exact .ok (listOf_within hS h)
  | cons first rest =>
    have hfirst := h first List.mem_cons_self
    cases first with
    | number x =>
      cases x with
      | int n => exact positional_within hS false n
      | float y => exact .error _
    | identifier n l => exact listOfNames_within hS (List.forall_mem_singleton.mpr hfirst)
    | text t => exact listOfNames_within hS h
    | list names => exact listOfNames_within hS fun w => hfirst.component
    | tuple names => exact listOfNames_within hS fun w => hfirst.component
    | _ => exact .error _

theorem listWithRest_within (v : Value) : Gives (Within S) (listWithRest v) :=
  Gives.bind (P := fun _ => True) (fun _ _ => trivial) fun n _ => positional_within hS true n

theorem spread_within (h : v.Within S) : Gives (Within S) (spread v) :=
  Gives.bind (Name.reference_within hS h) fun _ hreference =>
    .ok (hS.tree_one _ hreference)

theorem forward_within (h : v.Within S) : Gives (Within S) (forward v) := by
  unfold forward
  split
  · next identifier l =>
    exact spread_within hS (h.component (List.mem_cons_of_mem _ List.mem_cons_self))
  · next binding fields l =>
    split_ifs
    · exact Name.reference_within hS (h.component (List.mem_cons_of_mem _ List.mem_cons_self))
    · exact .ok h
  · split_ifs
    · exact Name.reference_within hS h
    · exact .ok h

theorem forwardAll_within (h : ∀ w ∈ vs, w.Within S) :
    Gives (fun ws => ∀ w ∈ ws, w.Within S) (forwardAll vs) := by
  induction vs with
  | nil => exact .ok h
  | cons parameter parameters ih =>
    rw [List.forall_mem_cons] at h
    refine Gives.bind (forward_within hS h.1) fun argument hargument => ?_
    refine Gives.bind (ih h.2) fun arguments harguments => ?_
    exact .ok (List.forall_mem_cons.mpr ⟨hargument, harguments⟩)

theorem forwardList_within (h : v.Within S) : Gives (Within S) (forwardList v) := by
  unfold forwardList
  split
  · next parameters l =>
    have hparameters : parameters.Within S :=
      h.component (List.mem_cons_of_mem _ List.mem_cons_self)
    split
    · exact .error _
    · next items hitems =>
      refine Gives.bind (forwardAll_within hS (elements_within hS hitems hparameters))
        fun args hargs => ?_
      exact .ok (hS.tree_one _ (hS.tuple hargs))
  · exact .error _

theorem forwardFor_within (h : v.Within S) : Gives (Within S) (forwardFor v) :=
  Gives.bind (list_within hS (List.forall_mem_singleton.mpr h)) fun _ hlist =>
    forwardList_within hS hlist

end Parameters

/-- What the slots of a production leave out is plain. -/
def Production.slotsPlain (p : Production) : Bool :=
  match p.recipe with
  | .slots slots => Slot.leavesOutPlain slots
  | _ => true

/-- No slot of any production has a default with a location in it. -/
theorem Production.slotsPlain_eq_true (p : Production) : p.slotsPlain = true := by
  cases p <;> rfl

include hS in
/-- No production leaves the class either. -/
theorem Production.build_within (p : Production) (h : ∀ w ∈ vs, w.Within S) :
    Gives (Within S) (p.build vs) := by
  cases hrecipe : p.recipe with
  | slots slots =>
    have hslots : Slot.leavesOutPlain slots = true := by
      have htable := p.slotsPlain_eq_true
      rwa [slotsPlain, hrecipe] at htable
    simp only [build, hrecipe]
    exact Gives.bind (Slot.takeAll_within hS hslots h) fun fields hfields => .ok (hS.tree p hfields)
  | gathered =>
    simp only [build, hrecipe]
    exact .ok (hS.tree_one p (hS.tuple (gather_within h)))
  | own rule =>
    -- Only these nine productions have a rule of their own.
    cases p with
    | bindingIdentifier => exact Builder.unary_within h fun v hv => Name.binding_within hS hv
    | identifierExpression => exact Builder.unary_within h fun v hv => Name.reference_within hS hv
    | formalParameterList => exact Parameters.list_within hS h
    | functionExpression => exact Rule.functionExpression_within hS h
    | memberExpression => exact Rule.memberExpression_within hS h
    | thisExpression => exact Rule.thisExpression_within hS h
    | tryStatement => exact Rule.tryStatement_within hS h
    | variableDeclarationList => exact Rule.variableDeclarationList_within hS h
    | variableStatement => exact Rule.variableStatement_within hS h
    | _ => cases hrecipe

end EcmaTree
