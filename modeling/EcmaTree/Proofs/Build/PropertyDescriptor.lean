import EcmaTree.Proofs.Build.Gathering
import EcmaTree.Proofs.Build.PropertyName
import EcmaTree.Proofs.Literal.StringNormalForm

/-!
# Property descriptors

A mapping becomes an object literal with one property for each of its entries, in their order
(`Idiom.descriptorEntries_eq_ok`).  The key of a property is the token of a property name, which is
an identifier, a number or a string.  Tokens of different kinds are never equal, identifiers and
numbers are spelled like their names, and strings tell all names apart that have no surrogate pair;
so two such names have equal tokens only if they are the same (`Token.eq_of_equal_propertyName`),
and no property takes the place of another (`Builder.descriptor_keeps_entries`).

This is about tokens, and says nothing about the keys that they stand for at run time: a long number
as a name has a token of its own, and is the same key as its text in exponent notation.
-/

namespace EcmaTree

/-! ### Tokens of different names -/

namespace Token

theorem equal_identifier_iff {s t : Text} :
    (identifier s).equal (identifier t) = true ↔ s = t := by
  simp [identifier, Value.equal, Value.isNone]

theorem equal_literal_iff {k k' : TokenKind} {s t : Text} :
    (literal k s).equal (literal k' t) = true ↔ k = k' ∧ s = t := by
  simp [literal, Value.equal, Value.isNone]

/-- String tokens of texts without surrogate pairs are equal iff the texts are. -/
theorem equal_string_iff {s t : Text} (hs : ¬s.HasSurrogatePair) (ht : ¬t.HasSurrogatePair) :
    (string s).equal (string t) = true ↔ s = t := by
  rw [string, string, equal_literal_iff, and_iff_right rfl, Text.stringLiteral_eq_iff,
    ← Text.joinSurrogates_eq_joinSurrogates_iff, (Text.joinSurrogates_eq_self_iff s).mpr hs,
    (Text.joinSurrogates_eq_self_iff t).mpr ht]

/-- The three kinds of tokens that a property name can have. -/
theorem propertyName_cases (name : Text) :
    propertyName name = identifier name ∨ propertyName name = literal .number name ∨
      propertyName name = string name := by
  unfold propertyName
  split_ifs
  · exact .inl rfl
  · exact .inr (.inl rfl)
  · exact .inr (.inr rfl)

/-- Names without surrogate pairs have equal tokens only if they are the same. -/
theorem eq_of_equal_propertyName {s t : Text} (hs : ¬s.HasSurrogatePair)
    (ht : ¬t.HasSurrogatePair) (h : (propertyName s).equal (propertyName t) = true) : s = t := by
  -- tokens of two kinds are not equal, which leaves three of the nine cases
  rcases propertyName_cases s with hs' | hs' | hs' <;>
    rcases propertyName_cases t with ht' | ht' | ht' <;> rw [hs', ht'] at h
  · exact equal_identifier_iff.mp h
  · cases h
  · cases h
  · cases h
  · exact (equal_literal_iff.mp h).2
  · cases (equal_literal_iff.mp h).1
  · cases h
  · cases (equal_literal_iff.mp h).1
  · exact (equal_string_iff hs ht).mp h

/-- Different names have unequal tokens. -/
theorem pairwise_propertyName {keys : List Text} (hkeys : keys.Nodup)
    (hpairs : ∀ key ∈ keys, ¬key.HasSurrogatePair) :
    (keys.map propertyName).Pairwise fun t u => t.equal u = false := by
  rw [List.pairwise_map]
  refine List.Pairwise.imp_of_mem ?_ hkeys
  intro s t hs ht hne
  rw [← Bool.not_eq_true]
  intro hequal
  exact hne (eq_of_equal_propertyName (hpairs s hs) (hpairs t ht) hequal)

end Token

/-! ### The entries of a descriptor -/

namespace Idiom

/-- The property for a key and its value. -/
def propertyOf (entry : Text × Value) : Value :=
  .tree .propertyNameAssignment [Token.propertyName entry.1, descriptorValue entry.2]

/-- Each entry becomes a property, in the order of the entries. -/
theorem descriptorEntries_eq_ok (entries : List (Text × Value)) :
    descriptorEntries (entries.map fun e => (.text e.1, e.2))
      = .ok (entries.map propertyOf) := by
  induction entries with
  | nil => rfl
  | cons e entries ih =>
    rw [List.map_cons, descriptorEntries, ih]
    rfl

/-- A mapping from texts becomes an object literal. -/
theorem descriptor_mapping (entries : List (Text × Value)) :
    descriptor (.mapping (entries.map fun e => (.text e.1, e.2)))
      = .ok (.tree .objectLiteralExpression [.tuple (entries.map propertyOf)]) := by
  rw [descriptor, descriptorEntries_eq_ok]
  show Except.ok (Value.tree .objectLiteralExpression
    [.tuple (gather [.list (entries.map propertyOf)])]) = _
  rw [gather_list, List.append_nil]

/-- A tree in front of the other arguments is one of three. -/
theorem defineProperty_of_tree {object properties described : Value}
    (hobject : object.isNode = true) (h : descriptor properties = .ok described) (name : Text) :
    defineProperty object (.text name) properties
      = .ok (.tree .callExpression [
          .tree .memberExpression [
            Name.referTo Predefined.object, Token.identifier Predefined.defineProperty],
          .tree .argumentList [.tuple [object, stringLiteral name, described]]]) := by
  have hgather : gather [object, stringLiteral name, described]
      = [object, stringLiteral name, described] := by
    -- a tree is no sequence, so nothing is opened
    cases object with
    | node p fields l => rfl
    | _ => cases hobject
  rw [defineProperty, h]
  show Except.ok (objectCall Predefined.defineProperty [object, stringLiteral name, described]) = _
  rw [objectCall, memberCall, argumentList, hgather]
  rfl

end Idiom

namespace Builder

/-- **Property descriptors keep every entry.**  A mapping from different texts without surrogate
pairs becomes an object literal of one property for each entry, in the order of the mapping.  The
key of a property is the token of the name, and no two keys are equal; its value is the given one if
this is a tree, and the literal `true` or `false` otherwise.  With a tree and another such text as a
name it becomes a call of `Object.defineProperty` with three arguments: the tree, a string literal
that stands for the name, and the object literal. -/
theorem descriptor_keeps_entries {entries : List (Text × Value)}
    (hkeys : (entries.map Prod.fst).Nodup)
    (hpairs : ∀ key ∈ entries.map Prod.fst, ¬key.HasSurrogatePair) :
    let mapping := Value.mapping (entries.map fun e => (.text e.1, e.2))
    ∃ (token : Text → Value) (described : Value),
      (∀ key, build .propertyNameToken [.text key] = .ok (token key)) ∧
      ((entries.map Prod.fst).map token).Pairwise (fun t u => t.equal u = false) ∧
      build .propertyDescriptor [mapping] = .ok described ∧
      described = .tree .objectLiteralExpression [.tuple (entries.map fun e =>
        .tree .propertyNameAssignment
          [token e.1, if e.2.isNode then e.2 else Idiom.booleanLiteral e.2.isTruthy])] ∧
      ∀ (object : Value) (name : Text), object.isNode = true → ¬name.HasSurrogatePair →
        ∃ spelling,
          (Token.literal .string spelling).property .literalValue = .ok (.text name) ∧
          build .defineProperty [object, .text name, mapping]
            = .ok (.tree .callExpression [
                .tree .memberExpression [Name.referTo (Text.ofString "Object"),
                  Token.identifier (Text.ofString "defineProperty")],
                .tree .argumentList [.tuple [object,
                  .tree .literalExpression [Token.literal .string spelling], described]]]) := by
  intro mapping
  have hdescribed := Idiom.descriptor_mapping entries
  refine ⟨Token.propertyName, _, propertyNameToken_build, Token.pairwise_propertyName hkeys hpairs,
    hdescribed, rfl, ?_⟩
  intro object name hobject hname
  refine ⟨name.stringLiteral, ?_, Idiom.defineProperty_of_tree hobject hdescribed name⟩
  rw [property_literalValue_stringLiteral, (Text.pairsJoined_eq_self_iff name).mpr hname]

/-- A descriptor with keys of all three kinds. -/
theorem descriptor_keeps_entries_kinds :
    let entries : List (Text × Value) := [(Text.ofString "enumerable", .bool true),
      (Text.ofString "0", Rule.thisNode), (Text.ofString "a-b", .none)]
    let mapping := Value.mapping (entries.map fun e => (.text e.1, e.2))
    (entries.map Prod.fst).Nodup ∧ (∀ key ∈ entries.map Prod.fst, ¬key.HasSurrogatePair) ∧
      ∃ (token : Text → Value) (described : Value),
        (∀ key, build .propertyNameToken [.text key] = .ok (token key)) ∧
        ((entries.map Prod.fst).map token).Pairwise (fun t u => t.equal u = false) ∧
        build .propertyDescriptor [mapping] = .ok described ∧
        described = .tree .objectLiteralExpression [.tuple (entries.map fun e =>
          .tree .propertyNameAssignment
            [token e.1, if e.2.isNode then e.2 else Idiom.booleanLiteral e.2.isTruthy])] ∧
        ∀ (object : Value) (name : Text), object.isNode = true → ¬name.HasSurrogatePair →
          ∃ spelling,
            (Token.literal .string spelling).property .literalValue = .ok (.text name) ∧
            build .defineProperty [object, .text name, mapping]
              = .ok (.tree .callExpression [
                  .tree .memberExpression [Name.referTo (Text.ofString "Object"),
                    Token.identifier (Text.ofString "defineProperty")],
                  .tree .argumentList [.tuple [object,
                    .tree .literalExpression [Token.literal .string spelling], described]]]) := by
  intro entries mapping
  have hkeys : (entries.map Prod.fst).Nodup := by decide
  have hjoined : ∀ key ∈ entries.map Prod.fst, key.pairsJoined = key := by decide
  have hpairs : ∀ key ∈ entries.map Prod.fst, ¬key.HasSurrogatePair := by
    intro key hkey
    exact (Text.pairsJoined_eq_self_iff key).mp (hjoined key hkey)
  exact ⟨hkeys, hpairs, descriptor_keeps_entries hkeys hpairs⟩

end Builder

end EcmaTree
