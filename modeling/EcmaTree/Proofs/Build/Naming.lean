import EcmaTree.Proofs.Build.Signature
import Mathlib.Data.List.Forall2

/-!
# Names and their tokens

A text and an identifier token both stand for an identifier token, and no other value does
(`Name.token_outcome`).  Where such a name is declared, the node that is made for it is synthetic
and holds just that token (`Name.binding_of_token`); where it is an operand it becomes a reference,
which no other value does (`Name.operand_outcome`).
-/

namespace EcmaTree

open DeclaredType

theorem DeclaredType.admits_tokenName_iff {v : Value} :
    tokenName.admits v = true ↔ (∃ t, v = .text t) ∨ ∃ name l, v = .identifier name l := by
  cases v <;> simp [tokenName, admits, Shape.holds, Value.isText]

namespace Name

variable {v t : Value}

/-- What becomes of a value where an identifier token belongs. -/
theorem token_outcome (v : Value) :
    (tokenName.admits v = true ∧ ∃ t, token v = .ok t) ∨
      (tokenName.admits v = false ∧ token v = .error (.notAName v.kindName)) := by
  cases v with
  | text name => exact .inl ⟨rfl, _, rfl⟩
  | identifier name l => exact .inl ⟨rfl, _, rfl⟩
  | _ => exact .inr ⟨rfl, rfl⟩

theorem exists_token (h : tokenName.admits v = true) : ∃ t, token v = .ok t := by
  rcases token_outcome v with ⟨-, ht⟩ | ⟨hv, -⟩
  · exact ht
  · rw [h] at hv
    cases hv

theorem exists_tokens {names : List Value} (h : ∀ v ∈ names, tokenName.admits v = true) :
    ∃ tokens, List.Forall₂ (fun v t => token v = .ok t) names tokens := by
  induction names with
  | nil => exact ⟨[], .nil⟩
  | cons v names ih =>
    rw [List.forall_mem_cons] at h
    obtain ⟨t, ht⟩ := exists_token h.1
    obtain ⟨tokens, htokens⟩ := ih h.2
    exact ⟨t :: tokens, .cons ht htokens⟩

/-- Only texts and identifier tokens have a token. -/
theorem admits_of_token (h : token v = .ok t) : tokenName.admits v = true := by
  rcases token_outcome v with ⟨hv, -⟩ | ⟨-, herror⟩
  · exact hv
  · rw [h] at herror
    cases herror

theorem admits_of_tokens {names tokens : List Value}
    (h : List.Forall₂ (fun v t => token v = .ok t) names tokens) :
    ∀ v ∈ names, tokenName.admits v = true := by
  have hboth := h.imp fun v t ht => And.intro (admits_of_token ht) ht
  exact ((List.forall₂_and_left _ _).mp hboth).1

theorem binding_of_token (h : token v = .ok t) :
    binding v = .ok (.tree .bindingIdentifier [t]) := by
  rcases admits_tokenName_iff.mp (admits_of_token h) with ⟨name, rfl⟩ | ⟨name, l, rfl⟩
  all_goals
    obtain rfl := Except.ok.inj h
    rfl

/-- A text or an identifier token as an operand is a reference, and any other value is itself. -/
theorem operand_outcome (v : Value) :
    (tokenName.admits v = true ∧ reference v = .ok (operand v)) ∨
      (tokenName.admits v = false ∧ operand v = v) := by
  cases v with
  | text name => exact .inl ⟨rfl, rfl⟩
  | identifier name l => exact .inl ⟨rfl, rfl⟩
  | _ => exact .inr ⟨rfl, rfl⟩

end Name

end EcmaTree
