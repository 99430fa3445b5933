import EcmaTree.Proofs.Build.BuilderAssembly
import EcmaTree.Proofs.Build.Nesting

/-!
# Builders make well-typed trees

Given arguments of a form that it documents, a builder returns a value of the type that it promises,
and every node in it has fields of their declared types.  The one thing that goes wrong is that a
builder of synthetic parameters cannot write a name with the digits of its number
(`Builder.build_of_not_namesFit`).  The arguments of a call may themselves be made by calls, so
every nesting of such calls is well-typed, however deep (`Builder.build_wellTyped`).
-/

namespace EcmaTree

open Value

namespace Builder

/-- A builder returns what it promises for all arguments that it accepts. -/
theorem build_hasType {b : Builder} {args : List Value} (h : b.Accepts args) :
    ∃ v, b.build args = .ok v ∧ v.HasType b.returns := by
  obtain ⟨⟨form, hform, hargs⟩, hfit⟩ := h
  by_cases hb : b = .forwardedArguments
  · -- the one builder that takes a tree apart, so that it does not assemble what it is handed
    subst hb
    obtain rfl := List.mem_singleton.mp hform
    obtain ⟨v, _, rfl, hv, rfl⟩ := CallForm.takes_exactly_cons.mp hargs
    exact Parameters.forwardList_hasType hv
  · obtain ⟨v, hv, htype⟩ := build_assembles hb hform hargs hfit
    exact ⟨v, hv, htype.1⟩

/-- A name that cannot be written is not made up. -/
theorem build_of_not_namesFit {b : Builder} {args : List Value} (h : ¬b.NamesFit args) :
    b.build args = .error (.writing .tooManyDigits) := by
  unfold NamesFit at h
  -- One case for each builder of synthetic parameters; no other one makes up names.
  split at h
  · next n =>
    show (Parameters.nameOf (.int n)).map Name.referTo = _
    rw [Parameters.nameOf_int_of_le (not_lt.mp h)]
    rfl
  · next n =>
    show (Parameters.nameOf (.int n)).map Value.text = _
    rw [Parameters.nameOf_int_of_le (not_lt.mp h)]
    rfl
  · exact Parameters.positional_eq_error true (not_le.mp h)
  · next n =>
    show (Parameters.positional false n).bind Parameters.forwardList = _
    rw [Parameters.positional_eq_error false (not_le.mp h)]
    rfl
  · exact Parameters.positional_eq_error false (not_le.mp h)
  · exact absurd trivial h

/-- Sequences and mappings of well-typed values are well-typed. -/
theorem isWellTyped_passedOn : Term.PassedOn IsWellTyped where
  list vs h := isWellTyped_iff_forall_trees.mpr fun t ht => h t (List.mem_filter.mp ht).1
  tuple vs h := isWellTyped_iff_forall_trees.mpr fun t ht => h t (List.mem_filter.mp ht).1
  mapping ws h := by
    refine isWellTyped_iff_forall_trees.mpr fun t ht => ?_
    obtain ⟨w, hw, rfl⟩ := List.mem_map.mp (List.mem_filter.mp ht).1
    exact (h w hw).2

/-- **Builders are total on what they document and build well-typed trees only.**  On arguments of a
documented form a builder fails just if it would have to make up a name with more digits than are
written.  What it returns otherwise is of its declared type, down to the last field of the last
node.  So every nesting of such calls over well-typed values has a well-typed value. -/
theorem build_wellTyped (env : Environment) (t : Term) :
    (∀ (b : Builder) (args : List Value), b.Documents args →
      (b.NamesFit args → ∃ v, b.build args = .ok v ∧ v.HasType b.returns) ∧
      (¬b.NamesFit args → b.build args = .error (.writing .tooManyDigits))) ∧
    (t.Nests IsWellTyped Accepts env → ∃ v, t.eval env = .ok v ∧ v.IsWellTyped) := by
  refine ⟨fun b args h => ⟨fun hfit => build_hasType ⟨h, hfit⟩, build_of_not_namesFit⟩,
    fun h => ?_⟩
  refine h.exists_eval (fun v hv => hv) isWellTyped_passedOn fun b vs hallowed _ => ?_
  obtain ⟨w, hw, htype⟩ := build_hasType hallowed
  exact ⟨w, hw, htype.2⟩

/-- The reference to a parameter whose number has more digits than are written: the call is of the
documented form, and fails. -/
theorem build_wellTyped_unwritten :
    Documents .parameterReference [Value.unwritten] ∧
      build .parameterReference [Value.unwritten] = .error (.writing .tooManyDigits) := by
  have hnumber : ∀ n : ℤ, (Value.int n).HasType [.wholeNumber] :=
    fun n => ⟨rfl, isWellTyped_of_trees_eq_nil rfl⟩
  have hbuild : ∀ v : Value, v.display = .error .tooManyDigits →
      build .parameterReference [v] = .error (.writing .tooManyDigits) := by
    intro v hv
    rw [build, unary, Parameters.reference, Parameters.nameOf, hv]
    rfl
  exact ⟨⟨_, List.mem_singleton_self _, hnumber _, rfl⟩, hbuild _ Value.display_unwritten⟩

/-- The statement `var x = f(a);` around the expression `f`, made by nested calls. -/
def declaredCall : Term :=
  .call (.node .variableStatement) [
    .value (.tokenKind .varKeyword), .value (.text (Text.ofString "x")),
    .call (.node .callExpression) [
      .value (Name.referTo (Text.ofString "f")),
      .call (.node .argumentList) [.list [.value (Name.referTo (Text.ofString "a"))]]]]

/-- A rest parameter, and a statement that is made by nested calls. -/
theorem build_wellTyped_declaredCall :
    (∃ v, build (.node .restParameter) [Name.referTo (Text.ofString "r")] = .ok v ∧
      v.HasType [.nodeOf .restParameter]) ∧
    ∃ v, declaredCall.eval [] = .ok v ∧ v.IsWellTyped := by
  obtain ⟨hcalls, hnestings⟩ := build_wellTyped [] declaredCall
  refine ⟨(hcalls (.node .restParameter) _ (by decide)).1 trivial, hnestings ?_⟩
  have hleaf : ∀ v : Value, v.IsWellTyped → (Term.value v).Nests IsWellTyped Accepts [] :=
    fun v h => .value h
  have hlist : (Term.list [.value (Name.referTo (Text.ofString "a"))]).Nests IsWellTyped Accepts
      [] := .list (List.forall_mem_singleton.mpr (hleaf _ (by decide)))
  have hargs : (Term.call (.node .argumentList)
      [.list [.value (Name.referTo (Text.ofString "a"))]]).Nests IsWellTyped Accepts [] := by
    refine .call (List.forall_mem_singleton.mpr hlist) fun vs hvs => ?_
    obtain rfl := Except.ok.inj hvs
    exact ⟨by decide, trivial⟩
  have hcall : (Term.call (.node .callExpression) [.value (Name.referTo (Text.ofString "f")),
      .call (.node .argumentList) [.list [.value (Name.referTo (Text.ofString "a"))]]]).Nests
        IsWellTyped Accepts [] := by
    refine .call (List.forall_mem_cons.mpr ⟨hleaf _ (by decide),
      List.forall_mem_singleton.mpr hargs⟩) fun vs hvs => ?_
    obtain rfl := Except.ok.inj hvs
    exact ⟨by decide, trivial⟩
  refine .call (List.forall_mem_cons.mpr ⟨hleaf _ (by decide), List.forall_mem_cons.mpr
    ⟨hleaf _ (by decide), List.forall_mem_singleton.mpr hcall⟩⟩) fun vs hvs => ?_
  obtain rfl := Except.ok.inj hvs
  exact ⟨by decide, trivial⟩

end Builder

end EcmaTree
