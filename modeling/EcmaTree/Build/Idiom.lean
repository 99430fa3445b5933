import EcmaTree.Build.Predefined
import EcmaTree.Build.Production

/-!
# Idioms of generated code

Small trees that are needed again and again: literals, the directive for strict mode, calls
through `call` and `bind`, blocks with a scope of their own, property descriptors and the
functions of `Object`. Each is one fixed arrangement of nodes around the trees that are given.
-/

namespace EcmaTree.Idiom

/-! ### Literals and simple statements -/

/-- A literal token as an expression. -/
def literal (token : Value) : Value := .tree .literalExpression [token]

/-- A string literal. -/
def stringLiteral (t : Text) : Value := literal (Token.string t)

/-- A number literal. -/
def numberLiteral (x : Number) : Value := literal (Token.number x)

/-- The literal `true` or `false`. -/
def booleanLiteral (b : Bool) : Value := literal (Token.boolean b)

/-- The expression `null`. -/
def nullLiteral : Value := literal Token.null

/-- The expression `undefined`. -/
def undefined : Value := Name.referTo Predefined.undefined

/-- The expression `(void 0)`, which means `undefined` wherever it stands. -/
def voidZero : Value :=
  .tree .parenExpression [
    .tree .unaryExpression [.token .voidKeyword .none, numberLiteral (.int 0)]]

/-- An expression as a statement. -/
def statement (expression : Value) : Value := .tree .expressionStatement [expression]

/-- The expression `target = source`. -/
def assignment (target source : Value) : Value :=
  .tree .binaryOperator [target, .token .equal .none, source]

/-- The statement `target = source;`. -/
def assignmentStatement (target source : Value) : Value := statement (assignment target source)

/-- The directive `"use strict";`. -/
def useStrict : Value := statement (stringLiteral Predefined.useStrict)

/-- An argument list, from its arguments as one sequence or as several. -/
def argumentList (args : List Value) : Value := .tree .argumentList [.tuple (gather args)]

/-- The statement `operand(args);`, without arguments if there is no argument list. -/
def callStatement (operand args : Value) : Value :=
  statement (.tree .callExpression [operand, if args.isNone then argumentList [] else args])

/-- The statement `yield expression;`. -/
def yieldStatement (expression isDelegating : Value) : Value :=
  statement (.tree .yieldExpression [expression, isDelegating])

/-! ### Calls through function members -/

/-- The expression `operand.name`, where a text or an identifier token as operand is a reference. -/
def member (operand : Value) (name : Text) : Value :=
  .tree .memberExpression [Name.operand operand, Token.identifier name]

/-- The expression `operand.name(args)`, the arguments as one sequence or as several. -/
def memberCall (operand : Value) (name : Text) (args : List Value) : Value :=
  .tree .callExpression [member operand name, argumentList args]

/-- The expression `callee.call(receiver, args)`, the arguments as one sequence or as several. -/
def callCall (callee receiver : Value) (args : List Value) : Value :=
  memberCall callee Predefined.call [.tuple (receiver :: gather args)]

/-- The statement `callee.call(receiver, args);`, the arguments one by one. -/
def callCallStatement (callee receiver : Value) (args : List Value) : Value :=
  statement (callCall callee receiver [.tuple args])

/-- The expression `callee.bind(receiver)`; a function as callee is put into parentheses. -/
def boundCall (callee receiver : Value) : Value :=
  memberCall
    (if callee.isNodeOf .functionExpression then .tree .parenExpression [callee] else callee)
    Predefined.bind [receiver]

/-! ### Scopes -/

/-- The expression `(function() block).call(this)`. -/
def scopedExpression (block : Value) : Value :=
  callCall
    (.tree .parenExpression [
      .tree .functionExpression [.none, .bool false, Parameters.listOf [], block]])
    Rule.thisNode []

/-- The statement `(function() block).call(this);`. -/
def scopedBlock (block : Value) : Value := statement (scopedExpression block)

/-- A block, from its statements as one sequence or as several. -/
def block (statements : List Value) : Value := .tree .block [.tuple (gather statements)]

/-- The statements in a scope of their own, given as one sequence or as several. -/
def scopedStatements (statements : List Value) : Value :=
  scopedBlock (block [.tuple (gather statements)])

/-! ### Properties and objects -/

/-- The value of a property in a descriptor: a tree as it is, and `true` or `false` for anything
else. -/
def descriptorValue (v : Value) : Value := if v.isNode then v else booleanLiteral v.isTruthy

/-- The entry of a property descriptor. -/
def descriptorEntry (name value : Value) : Built := do
  let key ← Intake.key.take name
  return .tree .propertyNameAssignment [key, descriptorValue value]

/-- The entries of a property descriptor, in order. -/
def descriptorEntries : List (Value × Value) → Except BuildError (List Value)
  | [] => .ok []
  | (name, value) :: rest => do
    let entry ← descriptorEntry name value
    let entries ← descriptorEntries rest
    return entry :: entries

/-- The object literal for a property descriptor. -/
def descriptor : Value → Built
  | .mapping entries => do
    let properties ← descriptorEntries entries
    return .tree .objectLiteralExpression [.tuple (gather [.list properties])]
  | _ => .error .unsuitable

/-- A call of a function of `Object`, the arguments as one sequence or as several. -/
def objectCall (name : Text) (args : List Value) : Value :=
  memberCall (.text Predefined.object) name args

/-- A property name as an expression: a text is a string literal. -/
def propertyExpression : Value → Value
  | .text name => stringLiteral name
  | v => v

/-- The expression `Object.defineProperty(object, name, descriptor)`. -/
def defineProperty (object name properties : Value) : Built := do
  let described ← descriptor properties
  return objectCall Predefined.defineProperty [object, propertyExpression name, described]

/-- The expression `Object.create(prototype, properties)`; properties can be left out. -/
def objectCreate (prototype properties : Value) : Value :=
  objectCall Predefined.create
    [.list (if properties.isNone then [prototype] else [prototype, properties])]

/-- The expression `Object.freeze(object)`. -/
def objectFreeze (object : Value) : Value := objectCall Predefined.freeze [object]

/-- The expression `Object.preventExtensions(object)`. -/
def objectPreventExtensions (object : Value) : Value :=
  objectCall Predefined.preventExtensions [object]

/-! ### Generators -/

/-- The statement `$state = state;`. -/
def assignState (state : Number) : Value :=
  assignmentStatement (Name.referTo Predefined.state) (numberLiteral state)

end EcmaTree.Idiom
