import EcmaTree.Build.Parameters

/-!
# One builder per production

`Production.build` makes a synthetic node of a production from the arguments of its builder.
Most productions take their arguments slot by slot, one for each field in the order of the
fields; the productions that hold nothing but children take them as one sequence or as several
arguments; the others have a rule of their own. `Production.recipe` is the table of these rules.
-/

namespace EcmaTree

/-! ### Productions with a rule of their own -/

namespace Rule

/-- A chain of member expressions: every name is a member of what is in front of it. -/
def extendMember (tree : Value) : List Value → Built
  | [] => .ok tree
  | name :: names => do
    let token ← Name.token name
    extendMember (.tree .memberExpression [tree, token]) names

/-- The expression `operand.name`, and further members behind it. -/
def memberExpression : List Value → Built
  | operand :: name :: names => extendMember (Name.operand operand) (name :: names)
  | _ => .error .unsuitable

/-- The word `this`. -/
def thisNode : Value := .tree .thisExpression []

/-- The expression `this`, or a member of it if a name is given that counts as true. -/
def thisExpression : List Value → Built
  | [] => .ok thisNode
  | [name] => if name.isTruthy then memberExpression [thisNode, name] else .ok thisNode
  | _ => .error .unsuitable

/-- A function from its parameters and its body, its name, and whether it is a generator. Only
nothing at all counts as no name. -/
def functionExpression : List Value → Built
  | [parameters, body] =>
    .ok (.tree .functionExpression [.none, .bool false, parameters, body])
  | [parameters, body, name, isGenerator] =>
    if name.isNone then .ok (.tree .functionExpression [.none, isGenerator, parameters, body])
    else do
      let binding ← Name.binding name
      return .tree .functionExpression [binding, isGenerator, parameters, body]
  | _ => .error .unsuitable

/-- A try statement. The kind of a single handler decides its place; of two handlers the first
is the catch clause and the second the finally clause, and either may be nothing. -/
def tryStatement : List Value → Built
  | [] => .error .unsuitable
  | [body, handler] =>
    if handler.isNodeOf .catchClause then .ok (.tree .tryStatement [body, handler, .none])
    else if handler.isNodeOf .finallyClause then .ok (.tree .tryStatement [body, .none, handler])
    else .error (.notAHandler handler.kindName)
  | [body, catchClause, finallyClause] =>
    .ok (.tree .tryStatement [body, catchClause, finallyClause])
  | _ :: handlers => .error (.handlerCount handlers.length)

/-- A declaration of one name or pattern. -/
def declaration (target initializer : Value) : Built := do
  let lvalue ← Intake.declared.take target
  return .tree .variableDeclaration [lvalue, initializer]

/-- A declaration list from a sequence of declarations, or from one name or pattern. -/
def declarationList (kind declared initializer : Value) : Built :=
  match declared.members? with
  | some declarations => .ok (.tree .variableDeclarationList [kind, .tuple declarations])
  | none => do
    let single ← declaration declared initializer
    return .tree .variableDeclarationList [kind, .tuple [single]]

/-- A declaration list; the initializer may be left out. -/
def variableDeclarationList : List Value → Built
  | [kind, declared] => declarationList kind declared .none
  | [kind, declared, initializer] => declarationList kind declared initializer
  | _ => .error .unsuitable

/-- A variable statement from a declaration list, or from what a declaration list is made of. -/
def declarationStatement (first declared initializer : Value) : Built :=
  if first.isNodeOf .variableDeclarationList then .ok (.tree .variableStatement [first])
  else if declared.isNone then .error .noDeclarationTarget
  else do
    let declarations ← declarationList first declared initializer
    return .tree .variableStatement [declarations]

/-- A variable statement; what is declared may be left out. -/
def variableStatement : List Value → Built
  | [first] => declarationStatement first .none .none
  | [first, declared] => declarationStatement first declared .none
  | [first, declared, initializer] => declarationStatement first declared initializer
  | _ => .error .unsuitable

end Rule

/-! ### The table -/

/-- How the builder of a production deals with its arguments. -/
inductive Recipe where
  /-- One argument for each field, in the order of the fields. -/
  | slots (slots : List Slot)
  /-- The children as one sequence or as several arguments. -/
  | gathered
  /-- A rule for the production alone. -/
  | own (rule : List Value → Built)

namespace Recipe

/-- A rule for one argument. -/
def one (rule : Value → Built) : Recipe :=
  own fun args =>
    match args with
    | [v] => rule v
    | _ => .error .unsuitable

end Recipe

namespace Production

/-- The rule for the arguments of the builder of a production. -/
def recipe : Production → Recipe
  | argumentList => .gathered
  | arrayLiteralExpression => .gathered
  | arrayPattern => .slots [.required .sequence]
  | binaryOperator => .slots [.given, .given, .given]
  | bindingElement => .slots [.required .binding, .orNothing]
  | bindingIdentifier => .one Name.binding
  | block => .gathered
  | breakStatement => .slots [.optional .label]
  | callExpression => .slots [.given, .optional .arguments]
  | cascadeExpression => .slots [.given, .required .sequence]
  | caseClause => .slots [.given, .required .sequence]
  | catchClause => .slots [.required .binding, .given]
  | classDeclaration => .slots [.required .binding, .given, .required .sequence]
  | commaExpression => .gathered
  | conditionalExpression => .slots [.given, .given, .given]
  | continueStatement => .slots [.optional .label]
  | defaultClause => .slots [.required .sequence]
  | doWhileStatement => .slots [.given, .given]
  | emptyStatement => .slots []
  | expressionStatement => .slots [.given]
  | finallyClause => .slots [.given]
  | forInStatement => .slots [.given, .given, .given]
  | forOfStatement => .slots [.given, .given, .given]
  | forStatement => .slots [.given, .given, .given, .given]
  | formalParameterList => .own Parameters.list
  | functionExpression => .own Rule.functionExpression
  | getAccessor => .slots [.required .key, .given]
  | identifierExpression => .one Name.reference
  | ifStatement => .slots [.given, .given, .orNothing]
  | labelledStatement => .slots [.required .name, .given]
  | literalExpression => .slots [.given]
  | memberExpression => .own Rule.memberExpression
  | memberLookupExpression => .slots [.given, .given]
  | newExpression => .slots [.given, .orNothing]
  | objectLiteralExpression => .gathered
  | objectPattern => .slots [.required .sequence]
  | objectPatternField => .slots [.required .binding, .given]
  | parenExpression => .slots [.given]
  | postfixExpression => .slots [.given, .given]
  | program => .slots [.required .sequence]
  | propertyNameAssignment => .slots [.required .key, .given]
  | restParameter => .slots [.required .binding]
  | returnStatement => .slots [.orNothing]
  | setAccessor => .slots [.required .key, .required .name, .given]
  | spreadExpression => .slots [.given]
  | spreadPatternElement => .slots [.given]
  | switchStatement => .slots [.given, .required .sequence]
  | thisExpression => .own Rule.thisExpression
  | throwStatement => .slots [.given]
  | tryStatement => .own Rule.tryStatement
  | unaryExpression => .slots [.given, .given]
  | variableDeclaration => .slots [.required .declared, .orNothing]
  | variableDeclarationList => .own Rule.variableDeclarationList
  | variableStatement => .own Rule.variableStatement
  | whileStatement => .slots [.given, .given]
  | withStatement => .slots [.given, .given]
  | yieldExpression => .slots [.given, ⟨.value, some (.bool false)⟩]

/-- The node that the builder of a production makes from its arguments. -/
def build (p : Production) (args : List Value) : Built :=
  match p.recipe with
  | .slots slots => do
    let fields ← Slot.takeAll slots args
    return .tree p fields
  | .gathered => .ok (.tree p [.tuple (gather args)])
  | .own rule => rule args

end Production

end EcmaTree
