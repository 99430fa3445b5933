import EcmaTree.Proofs.Build.Naming

/-!
# Parameters from names

A parameter list can be built from names, which are texts and identifier tokens.  In one list they
all become parameters, each with the token of its name and without a default
(`Parameters.listOfNames_eq_ok`).  Given one by one they make the same parameter list if a text
comes first.

The builder tells by its first argument what it was given, and takes an identifier token for a
parameter list of its own.  So a token in front of other names is the only parameter, and the names
behind it are lost (`Builder.parameterList_of_names`).
-/

namespace EcmaTree

open DeclaredType

namespace Parameters

/-- The parameter for a token, without a default. -/
def elementOf (token : Value) : Value :=
  .tree .bindingElement [.tree .bindingIdentifier [token], .none]

theorem named_eq_ok {names tokens : List Value}
    (h : List.Forall₂ (fun name token => Name.token name = .ok token) names tokens) :
    named names = .ok (tokens.map elementOf) := by
  induction h with
  | nil => rfl
  | cons hfirst _ ih =>
    rw [named, Name.binding_of_token hfirst, ih]
    rfl

theorem listOfNames_eq_ok {names tokens : List Value}
    (h : List.Forall₂ (fun name token => Name.token name = .ok token) names tokens) :
    listOfNames names = .ok (listOf (tokens.map elementOf)) := by
  rw [listOfNames, named_eq_ok h]
  rfl

/-- The first name decides which names are taken. -/
theorem list_of_names {first : Value} (h : tokenName.admits first = true) (rest : List Value) :
    list (first :: rest)
      = listOfNames (if first.isText then first :: rest else [first]) := by
  rcases admits_tokenName_iff.mp h with ⟨t, rfl⟩ | ⟨name, l, rfl⟩
  · rfl
  · rfl

end Parameters

namespace Builder

open Parameters

/-- **Parameter lists from names.**  A list of names, each a text or an identifier token, makes a
parameter with the token of each name, in order and without defaults.  Given one by one, the names
make the same if the first one is a text, and otherwise a parameter list with just the first name;
the two are the same iff the first name is a text or the only one. -/
theorem parameterList_of_names {first : Value} {rest : List Value}
    (h : ∀ name ∈ first :: rest, tokenName.admits name = true) :
    ∃ tokens,
      List.Forall₂ (fun name token => build .nameToken [name] = .ok token) (first :: rest) tokens ∧
      build (.node .formalParameterList) [.list (first :: rest)]
        = .ok (listOf (tokens.map elementOf)) ∧
      build (.node .formalParameterList) (first :: rest)
        = .ok (listOf ((if first.isText then tokens else tokens.take 1).map elementOf)) ∧
      (build (.node .formalParameterList) (first :: rest)
          = build (.node .formalParameterList) [.list (first :: rest)] ↔
        first.isText = true ∨ rest = []) := by
  obtain ⟨_, htokens⟩ := Name.exists_tokens h
  obtain ⟨token, tokens, htoken, hrest, rfl⟩ := List.forall₂_cons_left_iff.mp htokens
  have hlist : build (.node .formalParameterList) [.list (first :: rest)]
      = .ok (listOf ((token :: tokens).map elementOf)) := listOfNames_eq_ok htokens
  have hbuild : build (.node .formalParameterList) (first :: rest)
      = listOfNames (if first.isText then first :: rest else [first]) :=
    list_of_names (h first List.mem_cons_self) rest
  refine ⟨token :: tokens, htokens, hlist, ?_⟩
  by_cases htext : first.isText = true
  · have hall : build (.node .formalParameterList) (first :: rest)
        = .ok (listOf ((token :: tokens).map elementOf)) := by
      rw [hbuild, if_pos htext]
      exact listOfNames_eq_ok htokens
    rw [if_pos htext, hlist, hall]
    exact ⟨rfl, iff_of_true rfl (.inl htext)⟩
  · have hone : build (.node .formalParameterList) (first :: rest)
        = .ok (listOf ([token].map elementOf)) := by
      rw [hbuild, if_neg htext]
      exact listOfNames_eq_ok (.cons htoken .nil)
    rw [if_neg htext, hlist, hone, Except.ok.injEq, or_iff_right htext]
    refine ⟨rfl, ?_, ?_⟩
    · -- one parameter is all there is only if there is one name
      intro hsame
      have hnil : tokens = [] := by simpa [listOf, Value.tree] using hsame
      rw [hnil] at hrest
      exact List.forall₂_nil_right_iff.mp hrest
    · rintro rfl
      rw [List.forall₂_nil_left_iff.mp hrest]

/-- A text and an identifier token behind it. -/
theorem parameterList_of_names_text :
    let first := Value.string "a"
    let rest := [Value.identifier (.string "b") .none]
    (∀ name ∈ first :: rest, tokenName.admits name = true) ∧
      ∃ tokens,
        List.Forall₂ (fun name token => build .nameToken [name] = .ok token)
          (first :: rest) tokens ∧
        build (.node .formalParameterList) [.list (first :: rest)]
          = .ok (listOf (tokens.map elementOf)) ∧
        build (.node .formalParameterList) (first :: rest)
          = .ok (listOf ((if first.isText then tokens else tokens.take 1).map elementOf)) ∧
        (build (.node .formalParameterList) (first :: rest)
            = build (.node .formalParameterList) [.list (first :: rest)] ↔
          first.isText = true ∨ rest = []) := by
  intro first rest
  have h : ∀ name ∈ first :: rest, tokenName.admits name = true := by decide
  exact ⟨h, parameterList_of_names h⟩

/-- An identifier token and a text behind it: one by one the text is lost. -/
theorem parameterList_of_names_token :
    let first := Value.identifier (.string "a") .none
    let rest := [Value.string "b"]
    (∀ name ∈ first :: rest, tokenName.admits name = true) ∧
      ∃ made listed,
        build (.node .formalParameterList) (first :: rest) = .ok made ∧
        build (.node .formalParameterList) [.list (first :: rest)] = .ok listed ∧
        made = listOf [elementOf first] ∧
        listed = listOf [elementOf first, elementOf (Token.identifier (Text.ofString "b"))] ∧
        made ≠ listed ∧ made.equal listed = false := by
  intro first rest
  have h : ∀ name ∈ first :: rest, tokenName.admits name = true := by decide
  exact ⟨h, _, _, rfl, rfl, rfl, rfl, nofun, rfl⟩

end Builder

end EcmaTree
