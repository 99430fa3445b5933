import EcmaTree.Build.Builder
import Mathlib.Data.List.Basic
import Mathlib.Tactic.Common

/-!
# Children as one sequence or as several arguments

`gather` looks at the first argument only.  If it is a sequence, then its members and the other
arguments are the children, and it makes no difference how many of them stand in the sequence; a
tuple of what has been gathered already stands for just that (`gather_tuple_gather`), so a builder
may hand it to another one.

Every builder that takes its children in this way has the same law (`ListBuilder.build_uniform`): it
depends on the children alone, which end up in the result in their order.
-/

namespace EcmaTree

open Value

/-! ### The rule -/

@[simp]
theorem gather_list (ys zs : List Value) : gather (.list ys :: zs) = ys ++ zs := rfl

@[simp]
theorem gather_tuple (ys zs : List Value) : gather (.tuple ys :: zs) = ys ++ zs := rfl

/-- Arguments that do not begin with a sequence stand for themselves. -/
theorem gather_of_head? {xs : List Value} (h : ∀ x ∈ xs.head?, x.members? = Option.none) :
    gather xs = xs := by
  cases xs with
  | nil => rfl
  | cons x xs => rw [gather, h x rfl]

/-- What has been gathered stands for itself, in a tuple. -/
@[simp]
theorem gather_tuple_gather (args : List Value) : gather [.tuple (gather args)] = gather args := by
  rw [gather_tuple, List.append_nil]

namespace Builder

/-- A sequence as the only argument stands for its members, gathered once more. -/
theorem gatherOf_of_members {v : Value} {items : List Value} (h : v.members? = some items) :
    gatherOf v = .ok (.tuple (gather items)) := by
  cases v with
  | list others =>
    obtain rfl := Option.some.inj h
    cases others <;> rfl
  | tuple others =>
    obtain rfl := Option.some.inj h
    cases others <;> rfl
  | _ => cases h

/-- Gathering always gives a tuple. -/
theorem exists_of_gatherOf {v w : Value} (h : gatherOf v = .ok w) : ∃ items, w = .tuple items := by
  unfold gatherOf gatherKeys at h
  repeat' split at h
  all_goals first
    | exact ⟨_, (Except.ok.inj h).symm⟩
    | cases h

/-- Gathering what was gathered, as the one argument, gives it back. -/
theorem gathered_idempotent (v : Value) :
    (gathered.build [v] >>= fun r => gathered.build [.tuple [r]]) = gathered.build [v] := by
  show (gatherOf v >>= fun r => gatherOf (.tuple [r])) = gatherOf v
  cases h : gatherOf v with
  | error e => rfl
  | ok w =>
    obtain ⟨items, rfl⟩ := exists_of_gatherOf h
    show gatherOf (.tuple [.tuple items]) = _
    rw [gatherOf_of_members rfl, gather_tuple, List.append_nil]

end Builder

/-! ### The builders with the rule -/

/-- The builders that take children as one sequence or as several arguments.  A call through `call`
has two arguments in front of them. -/
inductive ListBuilder where
  /-- An argument list. -/
  | argumentList
  /-- An array literal. -/
  | arrayLiteral
  /-- A comma expression. -/
  | commaExpression
  /-- An object literal. -/
  | objectLiteral
  /-- A block. -/
  | block
  /-- A tuple of statements. -/
  | statementList
  /-- Statements in a scope of their own. -/
  | scopedStatements
  /-- A call through `call`. -/
  | callCall (callee receiver : Value)

namespace ListBuilder

/-- What the builder makes of arguments for children. -/
def build : ListBuilder → List Value → Built
  | argumentList, args => Builder.build (.node .argumentList) args
  | arrayLiteral, args => Builder.build (.node .arrayLiteralExpression) args
  | commaExpression, args => Builder.build (.node .commaExpression) args
  | objectLiteral, args => Builder.build (.node .objectLiteralExpression) args
  | block, args => Builder.build (.node .block) args
  | statementList, args => Builder.build .statementList args
  | scopedStatements, args => Builder.build .scopedStatements args
  | callCall callee receiver, args => Builder.build .callCall (callee :: receiver :: args)

/-- The result with exactly these children, in this order. -/
def holding : ListBuilder → List Value → Value
  | argumentList, xs => .tree .argumentList [.tuple xs]
  | arrayLiteral, xs => .tree .arrayLiteralExpression [.tuple xs]
  | commaExpression, xs => .tree .commaExpression [.tuple xs]
  | objectLiteral, xs => .tree .objectLiteralExpression [.tuple xs]
  | block, xs => .tree .block [.tuple xs]
  | statementList, xs => .tuple xs
  | scopedStatements, xs => Idiom.scopedBlock (.tree .block [.tuple xs])
  | callCall callee receiver, xs =>
    .tree .callExpression [
      .tree .memberExpression [Name.operand callee, Token.identifier Predefined.call],
      .tree .argumentList [.tuple (receiver :: xs)]]

/-- The arguments matter only for the children that they stand for. -/
theorem build_eq (b : ListBuilder) (args : List Value) :
    b.build args = .ok (b.holding (gather args)) := by
  cases b with
  | scopedStatements =>
    show Except.ok (Idiom.scopedBlock (Idiom.block [.tuple (gather args)])) = _
    rw [Idiom.block, gather_tuple_gather]
    rfl
  | callCall callee receiver =>
    show Except.ok (Idiom.memberCall callee Predefined.call [.tuple (receiver :: gather args)]) = _
    rw [Idiom.memberCall, Idiom.argumentList, gather_tuple, List.append_nil]
    rfl
  | _ => rfl

/-- **The rule is the same everywhere.**  Each of these builders returns the result that holds the
children `ys ++ zs`, whether they come as a list or a tuple of the first ones with the others behind
it, all in one list, or, if the first one is no sequence, one by one.  Gathering is idempotent, and
statements in a scope of their own are the block of the statements in one. -/
theorem build_uniform :
    (∀ (b : ListBuilder) (ys zs : List Value),
      b.build (.list ys :: zs) = .ok (b.holding (ys ++ zs)) ∧
      b.build (.tuple ys :: zs) = .ok (b.holding (ys ++ zs)) ∧
      b.build [.list (ys ++ zs)] = .ok (b.holding (ys ++ zs)) ∧
      ((∀ x ∈ (ys ++ zs).head?, x.members? = Option.none) →
        b.build (ys ++ zs) = .ok (b.holding (ys ++ zs)))) ∧
    (∀ v : Value,
      (Builder.gathered.build [v] >>= fun r => Builder.gathered.build [.tuple [r]])
        = Builder.gathered.build [v]) ∧
    ∀ items : List Value,
      Builder.scopedStatements.build items
        = Builder.build (.node .block) items >>= fun made => Builder.scopedBlock.build [made] := by
  refine ⟨fun b ys zs => ⟨?_, ?_, ?_, fun h => ?_⟩, Builder.gathered_idempotent, fun items => ?_⟩
  · rw [build_eq, gather_list]
  · rw [build_eq, gather_tuple]
  · rw [build_eq, gather_list, List.append_nil]
  · rw [build_eq, gather_of_head? h]
  · exact build_eq .scopedStatements items

/-- A call with two arguments, one by one. -/
theorem build_uniform_callCall :
    (callCall (.text []) .none).build [Rule.thisNode, Rule.thisNode]
      = .ok ((callCall (.text []) .none).holding [Rule.thisNode, Rule.thisNode]) :=
  (build_uniform.1 (callCall (.text []) .none) [Rule.thisNode] [Rule.thisNode]).2.2.2
    (by rintro x ⟨⟩; rfl)

end ListBuilder

end EcmaTree
