import EcmaTree.Build.Builder
import EcmaTree.Build.Property
import EcmaTree.Proofs.Build.SyntheticNames
import Mathlib.Data.List.Forall2

/-!
# Synthetic parameters and their arguments

Four builders work the names of synthetic parameters out for themselves: two make parameter lists
and two make the arguments that pass these on.  They agree at every position and for every number of
parameters (`Builder.parameters_match_arguments`): an argument is the reference to its parameter,
and a rest parameter, which only the last one can be, is passed on as a spread.
-/

namespace EcmaTree

namespace Parameters

/-! ### The lists -/

/-- The parameters with the given names, the last of them a rest parameter. -/
def restLast (names : List Text) : List Value :=
  names.mapIdx fun i name => if i + 1 = names.length then restElement name else element name

/-- References as arguments, the last of them in a spread. -/
def spreadLast (references : List Value) : List Value :=
  references.mapIdx fun i reference =>
    if i + 1 = references.length then .tree .spreadExpression [reference] else reference

/-- Without a rest parameter the parameters at all positions look alike. -/
theorem map_parameterAt_false (count : ℕ) :
    (List.range count).map (parameterAt false count) = (names count).map element := by
  rw [names, List.map_map]
  rfl

/-- The last parameter is the one at the last position. -/
theorem map_parameterAt_true (count : ℕ) :
    (List.range count).map (parameterAt true count) = restLast (names count) := by
  apply List.ext_getElem
  · simp [restLast, names]
  · intro i h h'
    simp only [restLast, List.getElem_mapIdx, length_names, getElem_names, List.getElem_map,
      List.getElem_range, parameterAt, Bool.true_and, decide_eq_true_eq]

theorem hasRestParameter_listOf (parameters : List Value) :
    (listOf parameters).property .hasRestParameter
      = .ok (.bool ((parameters.getLast?.map (Value.isNodeOf .restParameter)).getD false)) := rfl

theorem hasRestParameter_elements (names : List Text) :
    (listOf (names.map element)).property .hasRestParameter = .ok (.bool false) := by
  rw [hasRestParameter_listOf, List.getLast?_map]
  cases names.getLast? <;> rfl

theorem hasRestParameter_restLast (names : List Text) :
    (listOf (restLast names)).property .hasRestParameter
      = .ok (.bool (decide (0 < names.length))) := by
  rw [hasRestParameter_listOf, restLast, List.getLast?_mapIdx]
  cases names with
  | nil => rfl
  | cons name names =>
    rw [List.getLast?_cons, Option.map_some, Option.map_some, if_pos (by simp)]
    simp [restElement, Value.tree, Value.isNodeOf, Value.production?]

/-! ### Forwarding -/

theorem forward_element (name : Text) : forward (element name) = .ok (Name.referTo name) := rfl

theorem forward_restElement (name : Text) :
    forward (restElement name) = .ok (.tree .spreadExpression [Name.referTo name]) := rfl

theorem forwardAll_eq_ok {parameters args : List Value}
    (h : List.Forall₂ (fun p a => forward p = .ok a) parameters args) :
    forwardAll parameters = .ok args := by
  induction h with
  | nil => rfl
  | cons hfirst _ ih =>
    rw [forwardAll, hfirst, ih]
    rfl

/-- Parameters that are passed on one by one are passed on together. -/
theorem forwardList_node {parameters args : List Value}
    (h : List.Forall₂ (fun p a => forward p = .ok a) parameters args) (location : Value) :
    forwardList (.node .formalParameterList [.tuple parameters] location)
      = .ok (.tree .argumentList [.tuple args]) := by
  show (do
    let arguments ← forwardAll parameters
    return Value.tree .argumentList [.tuple arguments]) = _
  rw [forwardAll_eq_ok h]
  rfl

theorem forwardList_listOf {parameters args : List Value}
    (h : List.Forall₂ (fun p a => forward p = .ok a) parameters args) :
    forwardList (listOf parameters) = .ok (.tree .argumentList [.tuple args]) :=
  forwardList_node h .none

theorem forward_elements (names : List Text) :
    List.Forall₂ (fun p a => forward p = .ok a) (names.map element) (names.map Name.referTo) := by
  rw [List.forall₂_map_left_iff, List.forall₂_map_right_iff, List.forall₂_same]
  exact fun name _ => forward_element name

/-- The last parameter and the last argument are at the same place. -/
theorem forward_restLast (names : List Text) :
    List.Forall₂ (fun p a => forward p = .ok a) (restLast names)
      (spreadLast (names.map Name.referTo)) := by
  rw [List.forall₂_iff_get]
  refine ⟨by simp [restLast, spreadLast], fun i h h' => ?_⟩
  simp only [restLast, spreadLast, List.get_eq_getElem, List.getElem_mapIdx, List.getElem_map,
    List.length_map]
  split_ifs
  · exact forward_restElement _
  · exact forward_element _

end Parameters

namespace Builder

open Parameters

/-- **Synthetic parameters and the arguments that pass them on match.**  For every whole number, up
to the length of the longest list, there are as many names, none if it is negative, all of them
different identifiers and none the reserved one.  The parameter list has a parameter for each name,
and with a rest parameter the same but for the last one.  The arguments are the references to the
parameters in order, however they are made, and with a rest parameter the last one is a spread of
its reference. -/
theorem parameters_match_arguments (n : ℤ) (hn : n ≤ 10 ^ wholeDigitLimit) :
    ∃ (names : List Text) (references : List Value),
      (names.length : ℤ) = max n 0 ∧ references.length = names.length ∧ names.Nodup ∧
      (∀ i : Fin names.length,
        build .parameterName [.int i.val] = .ok (.text names[i]) ∧
        names[i].isIdentifierName = true ∧ names[i] ≠ Predefined.state) ∧
      (∀ i : Fin references.length,
        build .parameterReference [.int i.val] = .ok references[i]) ∧
      build (.node .formalParameterList) [.int n] = .ok (listOf (names.map element)) ∧
      build .parameterListWithRest [.int n] = .ok (listOf (restLast names)) ∧
      (listOf (names.map element)).property .hasRestParameter = .ok (.bool false) ∧
      (listOf (restLast names)).property .hasRestParameter = .ok (.bool (decide (1 ≤ n))) ∧
      build .argumentsForArity [.int n] = .ok (.tree .argumentList [.tuple references]) ∧
      build .forwardedArguments [listOf (names.map element)]
        = .ok (.tree .argumentList [.tuple references]) ∧
      build .forwardedArguments [listOf (restLast names)]
        = .ok (.tree .argumentList [.tuple (spreadLast references)]) := by
  -- the two lists, which are made from the same names
  have hlist : build (.node .formalParameterList) [.int n]
      = .ok (listOf ((Parameters.names n.toNat).map element)) := by
    rw [← map_parameterAt_false]
    exact positional_eq false hn
  have hrest : build .parameterListWithRest [.int n]
      = .ok (listOf (restLast (Parameters.names n.toNat))) := by
    rw [← map_parameterAt_true]
    exact positional_eq true hn
  have hforward := forwardList_listOf (forward_elements (Parameters.names n.toNat))
  -- every position can be written, since the last one can
  have hname : ∀ i < n.toNat, nameOf (.int i) = .ok (nameAt i) := by
    intro i hi
    have hcount : n.toNat ≤ 10 ^ wholeDigitLimit := by
      rw [Int.toNat_le, Nat.cast_pow]
      exact hn
    exact nameOf_natCast (hi.trans_le hcount)
  have hpositive : 0 < (Parameters.names n.toNat).length ↔ 1 ≤ n := by
    rw [length_names]
    omega
  refine ⟨Parameters.names n.toNat, (Parameters.names n.toNat).map Name.referTo, ?_,
    List.length_map _, nodup_names _, fun i => ⟨?_, ?_, ?_⟩, fun i => ?_, hlist, hrest,
    hasRestParameter_elements _, ?_, ?_, hforward, forwardList_listOf (forward_restLast _)⟩
  · rw [length_names, Int.toNat_eq_max]
  · have hi : i.val < n.toNat := i.isLt.trans_eq (length_names _)
    show (nameOf (.int i.val)).map Value.text = _
    rw [Fin.getElem_fin, getElem_names, hname i hi]
    rfl
  · rw [Fin.getElem_fin, getElem_names]
    exact isIdentifierName_nameAt i
  · rw [Fin.getElem_fin, getElem_names]
    exact nameAt_ne_state i
  · have hi : i.val < n.toNat := i.isLt.trans_eq ((List.length_map _).trans (length_names _))
    show (nameOf (.int i.val)).map Name.referTo = _
    rw [Fin.getElem_fin, List.getElem_map, getElem_names, hname i hi]
    rfl
  · rw [hasRestParameter_restLast, decide_eq_decide.mpr hpositive]
  · show (build (.node .formalParameterList) [.int n]).bind forwardList = _
    rw [hlist]
    exact hforward

/-- Two parameters, of which the list with a rest parameter has that for the second. -/
theorem parameters_match_arguments_two :
    (2 : ℤ) ≤ 10 ^ wholeDigitLimit ∧
      ∃ names : List Text, names.length = 2 ∧
        build .parameterListWithRest [.int 2] = .ok (listOf (restLast names)) ∧
        (listOf (restLast names)).property .hasRestParameter = .ok (.bool true) := by
  have hn : (2 : ℤ) ≤ 10 ^ wholeDigitLimit :=
    calc (2 : ℤ) ≤ 10 ^ 1 := by decide
      _ ≤ 10 ^ wholeDigitLimit := pow_le_pow_right₀ (by decide) (by decide)
  obtain ⟨names, _, hlength, -, -, -, -, -, hrest, -, hhas, -⟩ := parameters_match_arguments 2 hn
  exact ⟨hn, names, Int.ofNat.inj hlength, hrest, hhas⟩

end Builder

end EcmaTree
