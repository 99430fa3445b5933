import EcmaTree.Build.Builder
import EcmaTree.Proofs.Tree.Typing
import EcmaTree.Proofs.Tree.Writing

/-!
# The signatures of builders

What each builder is made for: the forms of argument lists that it documents, with the declared type
of every argument, and the type of what it returns.  A call of a documented form hands over trees
(`CallForm.passed`).  Names are not counted among them, since a name goes into the tree in the shape
that its place asks for, whatever shape it comes in.

Children come as one sequence with any trees behind it, or one by one (`CallForm.children`).  A
declaration list takes an initializer behind a single name or pattern, and none behind a sequence of
declarations or a list that is there already.

Apart from the forms there is one thing that a call may fail for: the name of a synthetic parameter
has to be written, with all the digits of its number (`Builder.NamesFit`).
-/

namespace EcmaTree

namespace DeclaredType

/-- A value of the type, or nothing. -/
def orNothing (τ : DeclaredType) : DeclaredType := .nothing :: τ

/-- A name that becomes an identifier token. -/
def tokenName : DeclaredType := [.text, .identifierToken]

/-- A property key. -/
def key : DeclaredType := [.text, .token]

/-- What can be declared: a name or a pattern. -/
def target : DeclaredType := [.name, .nodeOf .objectPattern, .nodeOf .arrayPattern]

end DeclaredType

open DeclaredType

/-! ### Forms of calls -/

/-- The trees that an argument of the declared type hands over; a name hands over none. -/
def Value.passedAs (v : Value) (τ : DeclaredType) : List Value :=
  if τ.contains .name && v.isName then [] else v.trees

/-- The form of an argument list. -/
inductive CallForm where
  /-- No more arguments. -/
  | done
  /-- Any number of arguments of one type. -/
  | each (type : DeclaredType)
  /-- One argument, and then others. -/
  | one (type : DeclaredType) (others : CallForm)
deriving DecidableEq

namespace CallForm

/-- Arguments of the given types. -/
def exactly (types : List DeclaredType) : CallForm := types.foldr one done

/-- Arguments of the given types, and any first few of the optional ones. -/
def upTo (required optional : List DeclaredType) : List CallForm :=
  optional.inits.map fun more => exactly (required ++ more)

/-- Arguments of the given types, and then children: one by one, or a sequence and more of them. -/
def children (leading : List DeclaredType) : List CallForm :=
  [leading.foldr one (each [.tree]), leading.foldr one (one [.trees] (each [.tree]))]

/-- The arguments are of the form, and all trees among them are well-typed. -/
def Takes : CallForm → List Value → Prop
  | done, args => args = []
  | each τ, args => ∀ v ∈ args, v.HasType τ
  | one _ _, [] => False
  | one τ form, v :: args => v.HasType τ ∧ form.Takes args

instance decidableTakes : (form : CallForm) → (args : List Value) → Decidable (form.Takes args)
  | done, [] => isTrue rfl
  | done, _ :: _ => isFalse (List.cons_ne_nil _ _)
  | each τ, args => inferInstanceAs (Decidable (∀ v ∈ args, v.HasType τ))
  | one _ _, [] => isFalse id
  | one τ form, v :: args =>
    have := decidableTakes form args
    inferInstanceAs (Decidable (v.HasType τ ∧ form.Takes args))

/-- The trees that arguments of the form hand over, in order. -/
def passed : CallForm → List Value → List Value
  | one τ form, v :: args => v.passedAs τ ++ form.passed args
  | each τ, args => args.flatMap fun v => v.passedAs τ
  | _, _ => []

end CallForm

/-! ### The table -/

open CallForm in
/-- The documented forms of the arguments of the builder of a production. -/
def Production.forms : Production → List CallForm
  | argumentList => children []
  | arrayLiteralExpression => children []
  | arrayPattern => [exactly [[.trees]]]
  | binaryOperator => [exactly [[.tree], [.token], [.tree]]]
  | bindingElement => upTo [[.name]] [orNothing [.tree]]
  | bindingIdentifier => [exactly [[.name]]]
  | block => children []
  | breakStatement => upTo [] [orNothing tokenName]
  | callExpression => upTo [[.tree]] [orNothing [.nodeOf .argumentList]]
  | cascadeExpression => [exactly [[.tree], [.trees]]]
  | caseClause => [exactly [[.tree], [.trees]]]
  | catchClause => [exactly [[.name], [.nodeOf .block]]]
  | classDeclaration => [exactly [[.name], orNothing [.tree], [.trees]]]
  | commaExpression => children []
  | conditionalExpression => [exactly [[.tree], [.tree], [.tree]]]
  | continueStatement => upTo [] [orNothing tokenName]
  | defaultClause => [exactly [[.trees]]]
  | doWhileStatement => [exactly [[.tree], [.tree]]]
  | emptyStatement => [exactly []]
  | expressionStatement => [exactly [[.tree]]]
  | finallyClause => [exactly [[.nodeOf .block]]]
  | forInStatement => [exactly [[.tree], [.tree], [.tree]]]
  | forOfStatement => [exactly [[.nodeOf .variableDeclarationList], [.tree], [.tree]]]
  | forStatement => [
    exactly [orNothing [.tree], orNothing [.tree], orNothing [.tree], [.tree]]]
  | formalParameterList => [
    each [.text], exactly [[.identifierToken]], exactly [[.wholeNumber]], exactly [[.texts]]]
  | functionExpression => [
    exactly [[.nodeOf .formalParameterList], [.nodeOf .block]],
    exactly [[.nodeOf .formalParameterList], [.nodeOf .block], orNothing [.name], [.flag]]]
  | getAccessor => [exactly [key, [.nodeOf .block]]]
  | identifierExpression => [exactly [[.name]]]
  | ifStatement => upTo [[.tree], [.tree]] [orNothing [.tree]]
  | labelledStatement => [exactly [tokenName, [.tree]]]
  | literalExpression => [exactly [[.token]]]
  | memberExpression => [
    one [.text, .identifierToken, .tree] (one tokenName (each tokenName))]
  | memberLookupExpression => [exactly [[.tree], [.tree]]]
  | newExpression => upTo [[.tree]] [orNothing [.nodeOf .argumentList]]
  | objectLiteralExpression => children []
  | objectPattern => [exactly [[.trees]]]
  | objectPatternField => [exactly [[.name], orNothing [.tree]]]
  | parenExpression => [exactly [[.tree]]]
  | postfixExpression => [exactly [[.tree], [.token]]]
  | program => [exactly [[.trees]]]
  | propertyNameAssignment => [exactly [key, [.tree]]]
  | restParameter => [exactly [[.name]]]
  | returnStatement => upTo [] [orNothing [.tree]]
  | setAccessor => [exactly [key, tokenName, [.nodeOf .block]]]
  | spreadExpression => [exactly [[.tree]]]
  | spreadPatternElement => [exactly [[.tree]]]
  | switchStatement => [exactly [[.tree], [.trees]]]
  | thisExpression => upTo [] [orNothing tokenName]
  | throwStatement => [exactly [[.tree]]]
  | tryStatement => [
    exactly [[.nodeOf .block], [.nodeOf .catchClause, .nodeOf .finallyClause]],
    exactly [[.nodeOf .block], orNothing [.nodeOf .catchClause],
      orNothing [.nodeOf .finallyClause]]]
  | unaryExpression => [exactly [[.token], [.tree]]]
  | variableDeclaration => upTo [target] [orNothing [.tree]]
  | variableDeclarationList =>
    upTo [[.tokenKind], [.trees]] [[.nothing]]
      ++ upTo [[.tokenKind], target] [orNothing [.tree]]
  | variableStatement =>
    upTo [[.nodeOf .variableDeclarationList]] [[.nothing], [.nothing]]
      ++ upTo [[.tokenKind], [.trees]] [[.nothing]]
      ++ upTo [[.tokenKind], target] [orNothing [.tree]]
  | whileStatement => [exactly [[.tree], [.tree]]]
  | withStatement => [exactly [[.tree], [.tree]]]
  | yieldExpression => upTo [orNothing [.tree]] [[.flag]]

/-- The type of what the builder of a production returns: a node of the production, unless a name
makes a member of the word `this`. -/
def Production.returns : Production → DeclaredType
  | thisExpression => [.tree]
  | p => [.nodeOf p]

namespace Builder

open CallForm in
/-- The documented forms of the arguments of a builder.  No form promises that a text can be read as
a literal. -/
def forms : Builder → List CallForm
  | node p => p.forms
  | nameToken => [exactly [tokenName]]
  | gathered => [exactly [[.trees]]]
  | operatorToken => [exactly [[.tokenKind]]]
  | identifierToken => [exactly [[.text]]]
  | propertyNameToken => [exactly [[.text]]]
  | stringToken => [exactly [[.text]]]
  | booleanToken => [exactly [[.flag]]]
  | nullToken => [exactly []]
  | numberText => [exactly [[.number]]]
  | numberToken => [exactly [[.number]]]
  | emptyList => [exactly []]
  | statementList => children []
  | stringLiteral => [exactly [[.text]]]
  | booleanLiteral => [exactly [[.flag]]]
  | trueLiteral => [exactly []]
  | falseLiteral => [exactly []]
  | nullLiteral => [exactly []]
  | numberLiteral => [exactly [[.number]]]
  | undefinedExpression => [exactly []]
  | emptyParameterList => [exactly []]
  | emptyArgumentList => [exactly []]
  | emptyArrayLiteral => [exactly []]
  | assignmentExpression => [exactly [[.tree], [.tree]]]
  | voidZero => [exactly []]
  | emptyBlock => [exactly []]
  | assignmentStatement => [exactly [[.tree], [.tree]]]
  | callStatement => upTo [[.tree]] [orNothing [.nodeOf .argumentList]]
  | yieldStatement => upTo [orNothing [.tree]] [[.flag]]
  | useStrictDirective => [exactly []]
  | parameterListWithRest => [exactly [[.wholeNumber]]]
  | parameterReference => [exactly [[.wholeNumber]]]
  | parameterName => [exactly [[.wholeNumber]]]
  | forwardedArguments => [exactly [[.nodeOf .formalParameterList]]]
  | argumentsForArity => [exactly [[.wholeNumber]]]
  | scopedExpression => [exactly [[.nodeOf .block]]]
  | scopedBlock => [exactly [[.nodeOf .block]]]
  | scopedStatements => children []
  | boundCall => [exactly [[.tree], [.tree]]]
  | callCall => children [[.tree], [.tree]]
  | callCallStatement => [one [.tree] (one [.tree] (each [.tree]))]
  | propertyDescriptor => [exactly [[.descriptor]]]
  | defineProperty => [exactly [[.tree], [.text, .tree], [.descriptor]]]
  | objectCreate => upTo [[.tree]] [orNothing [.nodeOf .objectLiteralExpression]]
  | objectFreeze => [exactly [[.tree]]]
  | objectPreventExtensions => [exactly [[.tree]]]
  | assignStateStatement => [exactly [[.wholeNumber]]]
  | literalValue => []

/-- The type of what a builder returns. -/
def returns : Builder → DeclaredType
  | node p => p.returns
  | nameToken => [.identifierToken]
  | gathered => [.children]
  | operatorToken => [.token]
  | identifierToken => [.identifierToken]
  | propertyNameToken => [.token]
  | stringToken => [.token]
  | booleanToken => [.token]
  | nullToken => [.token]
  | numberText => [.text]
  | numberToken => [.token]
  | emptyList => [.trees]
  | statementList => [.children]
  | stringLiteral => [.nodeOf .literalExpression]
  | booleanLiteral => [.nodeOf .literalExpression]
  | trueLiteral => [.nodeOf .literalExpression]
  | falseLiteral => [.nodeOf .literalExpression]
  | nullLiteral => [.nodeOf .literalExpression]
  | numberLiteral => [.nodeOf .literalExpression]
  | undefinedExpression => [.nodeOf .identifierExpression]
  | emptyParameterList => [.nodeOf .formalParameterList]
  | emptyArgumentList => [.nodeOf .argumentList]
  | emptyArrayLiteral => [.nodeOf .arrayLiteralExpression]
  | assignmentExpression => [.nodeOf .binaryOperator]
  | voidZero => [.nodeOf .parenExpression]
  | emptyBlock => [.nodeOf .block]
  | assignmentStatement => [.nodeOf .expressionStatement]
  | callStatement => [.nodeOf .expressionStatement]
  | yieldStatement => [.nodeOf .expressionStatement]
  | useStrictDirective => [.nodeOf .expressionStatement]
  | parameterListWithRest => [.nodeOf .formalParameterList]
  | parameterReference => [.nodeOf .identifierExpression]
  | parameterName => [.text]
  | forwardedArguments => [.nodeOf .argumentList]
  | argumentsForArity => [.nodeOf .argumentList]
  | scopedExpression => [.nodeOf .callExpression]
  | scopedBlock => [.nodeOf .expressionStatement]
  | scopedStatements => [.nodeOf .expressionStatement]
  | boundCall => [.nodeOf .callExpression]
  | callCall => [.nodeOf .callExpression]
  | callCallStatement => [.nodeOf .expressionStatement]
  | propertyDescriptor => [.nodeOf .objectLiteralExpression]
  | defineProperty => [.nodeOf .callExpression]
  | objectCreate => [.nodeOf .callExpression]
  | objectFreeze => [.nodeOf .callExpression]
  | objectPreventExtensions => [.nodeOf .callExpression]
  | assignStateStatement => [.nodeOf .expressionStatement]
  | literalValue => []

/-- The arguments are of a form that the builder documents. -/
def Documents (b : Builder) (args : List Value) : Prop := ∃ form ∈ b.forms, form.Takes args

instance (b : Builder) (args : List Value) : Decidable (b.Documents args) :=
  inferInstanceAs (Decidable (∃ form ∈ b.forms, form.Takes args))

/-- The names of all synthetic parameters that the builder makes up for the arguments can be
written.  Only builders of synthetic parameters make up names. -/
def NamesFit : Builder → List Value → Prop
  | parameterReference, [.number (.int n)] => n.natAbs < 10 ^ wholeDigitLimit
  | parameterName, [.number (.int n)] => n.natAbs < 10 ^ wholeDigitLimit
  | parameterListWithRest, [.number (.int n)] => n ≤ 10 ^ wholeDigitLimit
  | argumentsForArity, [.number (.int n)] => n ≤ 10 ^ wholeDigitLimit
  | node .formalParameterList, [.number (.int n)] => n ≤ 10 ^ wholeDigitLimit
  | _, _ => True

/-- The arguments are documented, and all names that are made up for them can be written. -/
def Accepts (b : Builder) (args : List Value) : Prop := b.Documents args ∧ b.NamesFit args

end Builder

end EcmaTree
