import EcmaTree.Proofs.Build.Gathering
import Mathlib.Tactic.Push

/-!
# Calls through `call` as statements

`f.call(this, a, b)` can be built as an expression, and as a statement at once.  The statement form
hands its arguments on to the expression form as one tuple.  The rule for children finds that tuple
in front (`gather`) and leaves its members alone, so that a list in front of the arguments of a
statement stays what it is, where the expression form opens it.

The arguments of the statement form are trees, and for trees there is no difference; neither is
there for any arguments without a sequence in front.  With one in front there always is: a sequence
and its members could be the same arguments only if the sequence were its own only member, and no
value is equal to a sequence of just itself (`Value.equal_eq_false_of_members`).
-/

namespace EcmaTree

open Value

/-! ### Equal sequences -/

namespace Value

/-- Only lists of the same length are equal member by member. -/
theorem length_eq_of_equalAll {xs ys : List Value} (h : equalAll xs ys = true) :
    xs.length = ys.length := by
  induction xs generalizing ys with
  | nil => cases ys <;> simp [equalAll] at h ⊢
  | cons x xs ih =>
    cases ys with
    | nil => simp [equalAll] at h
    | cons y ys =>
      rw [equalAll, Bool.and_eq_true] at h
      rw [List.length_cons, List.length_cons, ih h.2]

/-- A sequence equals only sequences. -/
theorem exists_members_of_equal {v w : Value} {xs : List Value} (h : v.equal w = true)
    (hv : v.members? = some xs) : ∃ ys, w.members? = some ys ∧ equalAll xs ys = true := by
  cases v with
  | list _ =>
    obtain rfl := Option.some.inj hv
    cases w with
    | list ys => exact ⟨ys, rfl, h⟩
    | _ => cases h
  | tuple _ =>
    obtain rfl := Option.some.inj hv
    cases w with
    | tuple ys => exact ⟨ys, rfl, h⟩
    | _ => cases h
  | _ => cases hv

/-- A sequence of just one value is not equal to that value. -/
theorem equal_eq_false_of_members {v w : Value} (hv : v.members? = some [w]) :
    v.equal w = false := by
  by_contra h
  -- `w` is a sequence too, of one member that it is equal to: there is no end to this
  obtain ⟨ys, hw, hys⟩ := exists_members_of_equal (Bool.of_not_eq_false h) hv
  obtain ⟨y, rfl⟩ := List.length_eq_one_iff.mp (length_eq_of_equalAll hys).symm
  rw [equalAll, Bool.and_eq_true] at hys
  have hlt : sizeOf y < sizeOf w := by
    cases w with
    | list _ | tuple _ =>
      cases hw
      simp
      omega
    | _ => cases hw
  rw [equal_eq_false_of_members hw] at hys
  cases hys.1
termination_by sizeOf w

/-- Opening a sequence in front of others changes them. -/
theorem equalAll_append_eq_false {v : Value} {items : List Value} (hv : v.members? = some items)
    (rest : List Value) : equalAll (v :: rest) (items ++ rest) = false := by
  -- both have the same length only if one value stands for itself, and a sequence is not its own
  -- member
  by_contra h
  rw [Bool.not_eq_false] at h
  have hlength : items.length = 1 := by
    have := length_eq_of_equalAll h
    rw [List.length_cons, List.length_append] at this
    omega
  obtain ⟨w, rfl⟩ := List.length_eq_one_iff.mp hlength
  rw [List.singleton_append, equalAll, equal_eq_false_of_members hv, Bool.false_and] at h
  cases h

end Value

/-! ### The two forms -/

namespace Builder

/-- A call through `call` as a statement holds the arguments as they stand, where the call as an
expression holds what they stand for. -/
theorem callCallStatement_build (callee receiver : Value) (args : List Value) :
    build .callCallStatement (callee :: receiver :: args)
      = .ok (Idiom.statement ((ListBuilder.callCall callee receiver).holding args)) := by
  show Except.ok (Idiom.statement (Idiom.callCall callee receiver [.tuple args])) = _
  rw [Idiom.callCall, gather_tuple, List.append_nil, Idiom.memberCall, Idiom.argumentList,
    gather_tuple, List.append_nil]
  rfl

/-- The statement around the expression holds what the arguments stand for. -/
theorem callCall_build_statement (callee receiver : Value) (args : List Value) :
    (build .callCall (callee :: receiver :: args) >>= fun call =>
        build (.node .expressionStatement) [call])
      = .ok (Idiom.statement ((ListBuilder.callCall callee receiver).holding (gather args))) := by
  have h : build .callCall (callee :: receiver :: args)
      = .ok ((ListBuilder.callCall callee receiver).holding (gather args)) :=
    (ListBuilder.callCall callee receiver).build_eq args
  rw [h]
  rfl

/-- The statement with the arguments as they stand is not the one with a sequence opened. -/
theorem statement_equal_gather {args : List Value} {v : Value} (hv : v ∈ args.head?)
    (hmembers : v.members? ≠ Option.none) (callee receiver : Value) :
    (Idiom.statement ((ListBuilder.callCall callee receiver).holding args)).equal
      (Idiom.statement ((ListBuilder.callCall callee receiver).holding (gather args))) = false := by
  obtain ⟨rest, rfl⟩ := List.head?_eq_some_iff.mp hv
  obtain ⟨items, hitems⟩ := Option.ne_none_iff_exists'.mp hmembers
  have hgather : gather (v :: rest) = items ++ rest := by rw [gather, hitems]
  have hargs : equalAll (v :: rest) (items ++ rest) = false := equalAll_append_eq_false hitems rest
  rw [hgather]
  simp only [Idiom.statement, ListBuilder.holding, Value.tree, equal, equalAll, hargs,
    Bool.false_and, Bool.and_false]

/-- **A call as a statement.**  It holds its arguments as they stand, a sequence among them
unopened.  It is the statement of the call as an expression for all arguments that do not begin with
a sequence, all trees among them.  With a sequence in front, which the expression opens, the two are
not even equal as values. -/
theorem callCallStatement_agrees (callee receiver : Value) (args : List Value) :
    ∃ made stated, build .callCallStatement (callee :: receiver :: args) = .ok made ∧
      made = Idiom.statement ((ListBuilder.callCall callee receiver).holding args) ∧
      (build .callCall (callee :: receiver :: args) >>= fun call =>
        build (.node .expressionStatement) [call]) = .ok stated ∧
      ((∀ v ∈ args.head?, v.members? = Option.none) ∧ made = stated ∨
        (∃ v ∈ args.head?, v.members? ≠ Option.none) ∧ made.equal stated = false) := by
  refine ⟨_, _, callCallStatement_build callee receiver args, rfl,
    callCall_build_statement callee receiver args, ?_⟩
  by_cases h : ∀ v ∈ args.head?, v.members? = Option.none
  · have hargs : gather args = args := gather_of_head? h
    exact .inl ⟨h, by rw [hargs]⟩
  · push Not at h
    obtain ⟨v, hv, hmembers⟩ := h
    exact .inr ⟨⟨v, hv, hmembers⟩, statement_equal_gather hv hmembers callee receiver⟩

/-- `f.call(this, a)` from the list of `a`: the statement holds the list, and is another one than
that of the expression. -/
theorem callCallStatement_list :
    ∃ made stated,
      build .callCallStatement
          [Name.referTo [CodePoint.ofChar 'f'], Rule.thisNode,
            .list [Name.referTo [CodePoint.ofChar 'a']]] = .ok made ∧
      (build .callCall
          [Name.referTo [CodePoint.ofChar 'f'], Rule.thisNode,
            .list [Name.referTo [CodePoint.ofChar 'a']]] >>= fun call =>
        build (.node .expressionStatement) [call]) = .ok stated ∧
      made ≠ stated ∧ made.equal stated = false :=
  ⟨_, _, rfl, rfl, nofun, rfl⟩

end Builder

end EcmaTree
