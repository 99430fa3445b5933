import EcmaTree.Proofs.Build.BuilderAssembly
import Mathlib.Data.List.Perm.Subperm

/-!
# Builders keep the trees they are given

Whatever trees a call of a documented form hands over, as arguments, in a sequence or as the values
of a mapping, a walk through the result comes upon them again, as often as they were handed over and
each with all of its own walk (`Builder.build_keeps_trees`).  For that a builder has to put every
tree into a field where a walk looks for it.
-/

namespace EcmaTree

open Value

namespace Value

/-- Every node is the first one of its own walk. -/
theorem sublist_flatMap_preorder {ts : List Value} (h : ∀ t ∈ ts, t.isNode = true) :
    List.Sublist ts (ts.flatMap preorder) := by
  induction ts with
  | nil => exact List.Sublist.refl _
  | cons t ts ih =>
    rw [List.forall_mem_cons] at h
    obtain ⟨p, fields, l, rfl⟩ := isNode_iff.mp h.1
    rw [List.flatMap_cons, preorder_node, List.cons_append]
    exact ((ih h.2).trans (List.sublist_append_right _ _)).cons_cons _

end Value

namespace CallForm

theorem isNode_of_mem_passedAs {v t : Value} {τ : DeclaredType} (h : t ∈ v.passedAs τ) :
    t.isNode = true :=
  isNode_of_mem_trees ((v.passedAs_sublist τ).subset h)

/-- Only nodes are handed over. -/
theorem isNode_of_mem_passed {form : CallForm} {args : List Value} {t : Value}
    (h : t ∈ form.passed args) : t.isNode = true := by
  induction form generalizing args with
  | done => cases args <;> cases h
  | each τ =>
    obtain ⟨v, -, hv⟩ := List.mem_flatMap.mp h
    exact isNode_of_mem_passedAs hv
  | one τ form ih =>
    cases args with
    | nil => cases h
    | cons v args =>
      rcases List.mem_append.mp h with hv | hrest
      · exact isNode_of_mem_passedAs hv
      · exact ih hrest

end CallForm

namespace Builder

/-- **No builder loses a child.**  Every builder, but the one that passes parameters on, returns a
value with a walk that holds each tree handed over in a call of a documented form at least as many
times as it was handed over, and with it all the nodes of that tree.  That the names it makes up can
be written is asked of builders of synthetic parameters only, which are handed no trees. -/
theorem build_keeps_trees {b : Builder} (hb : b ≠ .forwardedArguments) {form : CallForm}
    (hform : form ∈ b.forms) {args : List Value} (hargs : form.Takes args)
    (hfit : b.NamesFit args) :
    ∃ v, b.build args = .ok v ∧ (form.passed args).Subperm v.nodes ∧
      ((form.passed args).flatMap preorder).Subperm v.nodes := by
  obtain ⟨v, hv, -, hwalks⟩ := build_assembles hb hform hargs hfit
  have hself : List.Sublist (form.passed args) ((form.passed args).flatMap preorder) :=
    sublist_flatMap_preorder fun t ht => CallForm.isNode_of_mem_passed ht
  exact ⟨v, hv, (hself.trans hwalks).subperm, hwalks.subperm⟩

/-- A statement that comes in a sequence and once more behind it is there twice, and so is what is
in it. -/
theorem build_keeps_trees_block :
    ∃ v, build (.node .block) [.list [Idiom.useStrict], Idiom.useStrict] = .ok v ∧
      List.Subperm [Idiom.useStrict, Idiom.useStrict] v.nodes ∧
      List.Subperm (Idiom.useStrict.preorder ++ Idiom.useStrict.preorder) v.nodes :=
  have hform : CallForm.one [.trees] (.each [.tree]) ∈ (node .block).forms := by decide
  build_keeps_trees (by decide) hform (by decide) trivial

end Builder

end EcmaTree
