import EcmaTree.Build.Builder
import EcmaTree.Proofs.Build.Naming
import Mathlib.Data.List.Induction

/-!
# Chains of member expressions

The builder of member expressions takes any number of names and puts one member around the other.
It goes through the names from the left, so names in front are inside
(`Rule.extendMember_append`), and it stops at the first one that has no token
(`Rule.extendMember_outcome`).  Only what stands innermost is brought into shape: a text or an
identifier token becomes a reference there, and a chain that was built before stays as it is, which
is why chains can be built in parts (`Builder.memberExpression_composes`).

What has been built is taken apart again by `Value.peelMembers`, from the outside in.
-/

namespace EcmaTree

open DeclaredType

/-- The tokens of the given number of synthetic member expressions, from the outside in, and the
operand of the innermost one. -/
def Value.peelMembers : ℕ → Value → Option (List Value × Value)
  | 0, v => some ([], v)
  | count + 1, node .memberExpression [operand, name] none =>
    (peelMembers count operand).map fun (names, start) => (name :: names, start)
  | _ + 1, _ => Option.none

namespace Rule

/-- Members with the given tokens, the first one innermost. -/
def memberChain (start : Value) (tokens : List Value) : Value :=
  tokens.foldl (fun operand token => .tree .memberExpression [operand, token]) start

theorem memberChain_concat (start : Value) (tokens : List Value) (token : Value) :
    memberChain start (tokens ++ [token])
      = .tree .memberExpression [memberChain start tokens, token] := by
  simp only [memberChain, List.foldl_append, List.foldl_cons, List.foldl_nil]

theorem peelMembers_memberChain (start : Value) (tokens : List Value) :
    (memberChain start tokens).peelMembers tokens.length = some (tokens.reverse, start) := by
  -- peeling starts with the last token
  induction tokens using List.reverseRecOn with
  | nil => rfl
  | append_singleton tokens token ih =>
    have hpeel : (Value.tree .memberExpression [memberChain start tokens, token]).peelMembers
          (tokens.length + 1)
        = ((memberChain start tokens).peelMembers tokens.length).map fun (tokens, start) =>
            (token :: tokens, start) := rfl
    rw [memberChain_concat, List.length_append, List.length_singleton, hpeel, ih, Option.map_some,
      List.reverse_append, List.reverse_singleton, List.singleton_append]

theorem operand_member (operand token : Value) :
    Name.operand (.tree .memberExpression [operand, token])
      = .tree .memberExpression [operand, token] := rfl

/-- Only the operand itself is ever made a reference, never a chain around it. -/
theorem operand_memberChain {start : Value} (h : Name.operand start = start)
    (tokens : List Value) : Name.operand (memberChain start tokens) = memberChain start tokens := by
  induction tokens generalizing start with
  | nil => exact h
  | cons token tokens ih => exact ih (operand_member start token)

/-- A chain can be extended in two steps. -/
theorem extendMember_append (tree : Value) (front back : List Value) :
    extendMember tree (front ++ back)
      = extendMember tree front >>= fun inner => extendMember inner back := by
  induction front generalizing tree with
  | nil => rfl
  | cons name front ih =>
    rw [List.cons_append, extendMember, extendMember, bind_assoc]
    congr 1
    funext token
    exact ih _

/-- Either every name has a token, or the first name without one is the reason why there is no
chain. -/
theorem extendMember_outcome (tree : Value) (names : List Value) :
    (∃ tokens, List.Forall₂ (fun name token => Name.token name = .ok token) names tokens ∧
      extendMember tree names = .ok (memberChain tree tokens)) ∨
    ∃ front name back, names = front ++ name :: back ∧
      (∀ v ∈ front, tokenName.admits v = true) ∧ tokenName.admits name = false ∧
      extendMember tree names = .error (.notAName name.kindName) := by
  induction names generalizing tree with
  | nil => exact .inl ⟨[], .nil, rfl⟩
  | cons name names ih =>
    rcases Name.token_outcome name with ⟨hname, token, htoken⟩ | ⟨hname, herror⟩
    · have hstep : extendMember tree (name :: names)
          = extendMember (.tree .memberExpression [tree, token]) names := by
        rw [extendMember, htoken]
        rfl
      rw [hstep]
      -- The chain goes on from the member for the first name.
      rcases ih (.tree .memberExpression [tree, token]) with
        ⟨tokens, htokens, hchain⟩ | ⟨front, bad, back, rfl, hfront, hbad, herror⟩
      · exact .inl ⟨token :: tokens, .cons htoken htokens, hchain⟩
      · have hall : ∀ v ∈ name :: front, tokenName.admits v = true :=
          List.forall_mem_cons.mpr ⟨hname, hfront⟩
        exact .inr ⟨name :: front, bad, back, rfl, hall, hbad, herror⟩
    · refine .inr ⟨[], name, names, rfl, List.forall_mem_nil _, hname, ?_⟩
      rw [extendMember, herror]
      rfl

end Rule

namespace Builder

theorem memberExpression_build (operand first : Value) (rest : List Value) :
    build (.node .memberExpression) (operand :: first :: rest)
      = Rule.extendMember (Name.operand operand) (first :: rest) := rfl

/-- What is built in front of further members stays as it is. -/
theorem operand_of_extendMember {tree inner first : Value} {front : List Value}
    (h : Rule.extendMember tree (first :: front) = .ok inner) : Name.operand inner = inner := by
  rcases Rule.extendMember_outcome tree (first :: front) with
    ⟨_, htokens, hchain⟩ | ⟨_, _, _, -, -, -, herror⟩
  · obtain ⟨token, tokens, -, -, rfl⟩ := List.forall₂_cons_left_iff.mp htokens
    rw [h] at hchain
    rw [Except.ok.inj hchain]
    exact Rule.operand_memberChain (Rule.operand_member tree token) tokens
  · rw [h] at herror
    cases herror

/-- **Member chains compose.**  A chain can be built in two parts, wherever it is cut.  If every
name is a text or an identifier token, then there is a chain, which has the tokens of the names, the
last name outermost, and starts from the operand, or from the reference to it if this is a text or
an identifier token too.  Otherwise there is none, and the first name that is neither is the
reason. -/
theorem memberExpression_composes (operand first : Value) :
    (∀ (front : List Value) (next : Value) (back : List Value),
      build (.node .memberExpression) (operand :: first :: (front ++ next :: back))
        = build (.node .memberExpression) (operand :: first :: front) >>= fun inner =>
            build (.node .memberExpression) (inner :: next :: back)) ∧
    ∀ rest : List Value,
      ((∀ name ∈ first :: rest, tokenName.admits name = true) ∧
        ∃ tokens start tree,
          List.Forall₂ (fun name token => build .nameToken [name] = .ok token)
            (first :: rest) tokens ∧
          build (.node .memberExpression) (operand :: first :: rest) = .ok tree ∧
          tree.peelMembers (first :: rest).length = some (tokens.reverse, start) ∧
          (tokenName.admits operand = true ∧
              build (.node .identifierExpression) [operand] = .ok start ∨
            tokenName.admits operand = false ∧ start = operand)) ∨
      ∃ front name back, first :: rest = front ++ name :: back ∧
        (∀ v ∈ front, tokenName.admits v = true) ∧ tokenName.admits name = false ∧
        ∃ error, build (.node .memberExpression) (operand :: first :: rest) = .error error ∧
          error = .notAName name.kindName ∧
          error.message = Text.ofString "expected a name or IdentifierToken, got "
            ++ Text.ofString name.kindName := by
  constructor
  · intro front next back
    rw [memberExpression_build, memberExpression_build, ← List.cons_append,
      Rule.extendMember_append]
    cases h : Rule.extendMember (Name.operand operand) (first :: front) with
    | error e => rfl
    | ok inner =>
      -- a chain as the operand of further members is not made a reference
      have hinner := operand_of_extendMember h
      show Rule.extendMember inner (next :: back)
        = Rule.extendMember (Name.operand inner) (next :: back)
      rw [hinner]
  · intro rest
    rw [memberExpression_build]
    rcases Rule.extendMember_outcome (Name.operand operand) (first :: rest) with
      ⟨tokens, htokens, hchain⟩ | ⟨front, name, back, hnames, hfront, hname, herror⟩
    · have hadmits := Name.admits_of_tokens htokens
      have hpeel := Rule.peelMembers_memberChain (Name.operand operand) tokens
      rw [← htokens.length_eq] at hpeel
      have hstart : tokenName.admits operand = true ∧
            build (.node .identifierExpression) [operand] = .ok (Name.operand operand) ∨
          tokenName.admits operand = false ∧ Name.operand operand = operand :=
        Name.operand_outcome operand
      exact .inl ⟨hadmits, tokens, _, _, htokens, hchain, hpeel, hstart⟩
    · exact .inr ⟨front, name, back, hnames, hfront, hname, _, herror, rfl, rfl⟩

end Builder

end EcmaTree
