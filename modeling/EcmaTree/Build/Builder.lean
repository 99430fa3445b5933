import EcmaTree.Build.Idiom
import EcmaTree.Tree.Equality

/-!
# The catalog of builders

Every operation that scripts can call, by name. `Builder.build` applies one to its arguments; it
is total, and an error says why there is no result. A builder of a production is
`Builder.node`; the others make tokens, sequences and idioms, or bring a name into shape.
-/

namespace EcmaTree

/-- An operation on values. -/
inductive Builder where
  /-- The node of a production. -/
  | node (production : Production)
  /-- A name as an identifier token. -/
  | nameToken
  /-- The children that one sequence of arguments stands for. -/
  | gathered
  /-- An operator token. -/
  | operatorToken
  /-- An identifier token. -/
  | identifierToken
  /-- The token of a property key. -/
  | propertyNameToken
  /-- A string token. -/
  | stringToken
  /-- The keyword for a truth value. -/
  | booleanToken
  /-- The token `null`. -/
  | nullToken
  /-- The text of a number. -/
  | numberText
  /-- A number token. -/
  | numberToken
  /-- The empty list. -/
  | emptyList
  /-- A tuple of statements. -/
  | statementList
  /-- A string literal. -/
  | stringLiteral
  /-- The literal for a truth value. -/
  | booleanLiteral
  /-- The expression `true`. -/
  | trueLiteral
  /-- The expression `false`. -/
  | falseLiteral
  /-- The expression `null`. -/
  | nullLiteral
  /-- A number literal. -/
  | numberLiteral
  /-- The expression `undefined`. -/
  | undefinedExpression
  /-- No parameters. -/
  | emptyParameterList
  /-- No arguments. -/
  | emptyArgumentList
  /-- The expression `[]`. -/
  | emptyArrayLiteral
  /-- The expression `target = source`. -/
  | assignmentExpression
  /-- The expression `(void 0)`. -/
  | voidZero
  /-- A block without statements. -/
  | emptyBlock
  /-- The statement `target = source;`. -/
  | assignmentStatement
  /-- The statement `operand(args);`. -/
  | callStatement
  /-- The statement `yield expression;`. -/
  | yieldStatement
  /-- The directive `"use strict";`. -/
  | useStrictDirective
  /-- Synthetic parameters, the last one a rest parameter. -/
  | parameterListWithRest
  /-- The reference to a synthetic parameter. -/
  | parameterReference
  /-- The name of a synthetic parameter. -/
  | parameterName
  /-- The arguments that pass on a parameter list. -/
  | forwardedArguments
  /-- The arguments that pass on a number of synthetic parameters. -/
  | argumentsForArity
  /-- The expression `(function() block).call(this)`. -/
  | scopedExpression
  /-- The statement `(function() block).call(this);`. -/
  | scopedBlock
  /-- Statements in a scope of their own. -/
  | scopedStatements
  /-- The expression `callee.bind(receiver)`. -/
  | boundCall
  /-- The expression `callee.call(receiver, args)`. -/
  | callCall
  /-- The statement `callee.call(receiver, args);`. -/
  | callCallStatement
  /-- The object literal for a property descriptor. -/
  | propertyDescriptor
  /-- The expression `Object.defineProperty(object, name, descriptor)`. -/
  | defineProperty
  /-- The expression `Object.create(prototype, properties)`. -/
  | objectCreate
  /-- The expression `Object.freeze(object)`. -/
  | objectFreeze
  /-- The expression `Object.preventExtensions(object)`. -/
  | objectPreventExtensions
  /-- The statement `$state = state;`. -/
  | assignStateStatement
  /-- The value of a literal text. -/
  | literalValue
deriving DecidableEq

namespace Builder

/-- A rule without arguments. -/
def nullary (result : Value) : List Value → Built
  | [] => .ok result
  | _ => .error .unsuitable

/-- A rule for one argument. -/
def unary (rule : Value → Built) : List Value → Built
  | [v] => rule v
  | _ => .error .unsuitable

/-- A rule for one text. -/
def onText (rule : Text → Value) : List Value → Built :=
  unary fun v => v.toText.map rule

/-- A rule for one number. -/
def onNumber (rule : Number → Value) : List Value → Built :=
  unary fun v => v.toNumber.map rule

/-- A rule for two arguments. -/
def binary (rule : Value → Value → Value) : List Value → Built
  | [v, w] => .ok (rule v w)
  | _ => .error .unsuitable

/-- A rule for two arguments of which the second may be left out. -/
def binaryOr (default : Value) (rule : Value → Value → Value) : List Value → Built
  | [v] => .ok (rule v default)
  | [v, w] => .ok (rule v w)
  | _ => .error .unsuitable

/-- A rule for two arguments and the arguments behind them. -/
def withRest (rule : Value → Value → List Value → Value) : List Value → Built
  | v :: w :: rest => .ok (rule v w rest)
  | _ => .error .unsuitable

/-- The operator token of a token kind. -/
def operator : Value → Built
  | .tokenKind kind => .ok (.token kind .none)
  | _ => .error .unsuitable

/-- The tuple of the keys of a mapping, which is taken as arguments only if it has something at the
key zero, and no sequence. -/
def gatherKeys (entries : List (Value × Value)) : Built :=
  match entries.find? fun e => e.1.countsAs (.int 0) with
  | some (_, head) =>
    match head.members? with
    | some _ => .error .unsuitable
    | none => .ok (.tuple (entries.map Prod.fst))
  | none => .error .unsuitable

/-- The tuple of the children that a sequence of arguments stands for. A value that does not count
as true is no arguments at all. -/
def gatherOf (v : Value) : Built :=
  if v.isTruthy then
    match v with
    | .list items => .ok (.tuple (gather items))
    | .tuple items => .ok (.tuple (gather items))
    | .text t => .ok (.tuple (t.map fun c => .text [c]))
    | .mapping entries => gatherKeys entries
    | _ => .error .unsuitable
  else .ok (.tuple [])

/-- The rule for `Object.defineProperty`, which has three arguments. -/
def definition : List Value → Built
  | [object, name, properties] => Idiom.defineProperty object name properties
  | _ => .error .unsuitable

/-- What a builder makes of its arguments. -/
def build : Builder → List Value → Built
  | node p => p.build
  | nameToken => unary Name.token
  | gathered => unary gatherOf
  | operatorToken => unary operator
  | identifierToken => unary fun v => .ok (.identifier v .none)
  | propertyNameToken => onText Token.propertyName
  | stringToken => unary Token.data
  | booleanToken => unary fun v => .ok (Token.boolean v.isTruthy)
  | nullToken => nullary Token.null
  | numberText => onNumber fun x => .text x.source
  | numberToken => onNumber Token.number
  | emptyList => nullary (.list [])
  | statementList => fun args => .ok (.tuple (gather args))
  | stringLiteral => unary fun v => (Token.data v).map Idiom.literal
  | booleanLiteral => unary fun v => .ok (Idiom.booleanLiteral v.isTruthy)
  | trueLiteral => nullary (Idiom.booleanLiteral true)
  | falseLiteral => nullary (Idiom.booleanLiteral false)
  | nullLiteral => nullary Idiom.nullLiteral
  | numberLiteral => onNumber Idiom.numberLiteral
  | undefinedExpression => nullary Idiom.undefined
  | emptyParameterList => nullary (Parameters.listOf [])
  | emptyArgumentList => nullary (Idiom.argumentList [])
  | emptyArrayLiteral => nullary (.tree .arrayLiteralExpression [.tuple []])
  | assignmentExpression => binary Idiom.assignment
  | voidZero => nullary Idiom.voidZero
  | emptyBlock => nullary (.tree .block [.tuple []])
  | assignmentStatement => binary Idiom.assignmentStatement
  | callStatement => binaryOr .none Idiom.callStatement
  | yieldStatement => binaryOr (.bool false) Idiom.yieldStatement
  | useStrictDirective => nullary Idiom.useStrict
  | parameterListWithRest => unary Parameters.listWithRest
  | parameterReference => unary Parameters.reference
  | parameterName => unary fun index => (Parameters.nameOf index).map Value.text
  | forwardedArguments => unary Parameters.forwardList
  | argumentsForArity => unary Parameters.forwardFor
  | scopedExpression => unary fun block => .ok (Idiom.scopedExpression block)
  | scopedBlock => unary fun block => .ok (Idiom.scopedBlock block)
  | scopedStatements => fun args => .ok (Idiom.scopedStatements args)
  | boundCall => binary Idiom.boundCall
  | callCall => withRest Idiom.callCall
  | callCallStatement => withRest Idiom.callCallStatement
  | propertyDescriptor => unary Idiom.descriptor
  | defineProperty => definition
  | objectCreate => binaryOr .none Idiom.objectCreate
  | objectFreeze => unary fun v => .ok (Idiom.objectFreeze v)
  | objectPreventExtensions => unary fun v => .ok (Idiom.objectPreventExtensions v)
  | assignStateStatement => onNumber Idiom.assignState
  | literalValue => unary fun v => v.toText.bind Built.literalValue

end Builder

end EcmaTree
