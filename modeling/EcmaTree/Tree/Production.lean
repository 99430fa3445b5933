/-!
# Productions

One node kind per grammar production: what the kind is called, and which fields its nodes have.
`Production.all` is the catalog of productions and fixes their numbers. `Production.fields` gives
the fields of a production in order, each with the kind of value that belongs into it.
-/

namespace EcmaTree

/-- A grammar production. -/
inductive Production where
  /-- The arguments of a call. -/
  | argumentList
  /-- The form `[elements]`. -/
  | arrayLiteralExpression
  /-- The form `[elements]` as a target. -/
  | arrayPattern
  /-- The form `left operator right`; assignments are binary operators too. -/
  | binaryOperator
  /-- A formal parameter: a name or pattern, and its default. -/
  | bindingElement
  /-- A name where it is declared. -/
  | bindingIdentifier
  /-- Statements between braces. -/
  | block
  /-- The form `break name`. -/
  | breakStatement
  /-- The form `operand(args)`. -/
  | callExpression
  /-- Expressions evaluated against one operand. -/
  | cascadeExpression
  /-- The form `case expression:` and its statements. -/
  | caseClause
  /-- The form `catch (binding)` and its body. -/
  | catchClause
  /-- The form `class name extends super_class` and its elements. -/
  | classDeclaration
  /-- Expressions between commas. -/
  | commaExpression
  /-- The form `condition ? left : right`. -/
  | conditionalExpression
  /-- The form `continue name`. -/
  | continueStatement
  /-- The form `default:` and its statements. -/
  | defaultClause
  /-- The form `do body while (condition)`. -/
  | doWhileStatement
  /-- A lone semicolon. -/
  | emptyStatement
  /-- An expression as a statement. -/
  | expressionStatement
  /-- The form `finally` and its block. -/
  | finallyClause
  /-- The form `for (initializer in collection) body`. -/
  | forInStatement
  /-- The form `for (initializer of collection) body`. -/
  | forOfStatement
  /-- The form `for (initializer; condition; increment) body`. -/
  | forStatement
  /-- The parameters of a function. -/
  | formalParameterList
  /-- A function, with or without a name. -/
  | functionExpression
  /-- The form `get name() body`. -/
  | getAccessor
  /-- A name where it is referred to. -/
  | identifierExpression
  /-- The form `if (condition) if_clause else else_clause`. -/
  | ifStatement
  /-- The form `name: statement`. -/
  | labelledStatement
  /-- A literal token as an expression. -/
  | literalExpression
  /-- The form `operand.member_name`. -/
  | memberExpression
  /-- The form `operand[member_expression]`. -/
  | memberLookupExpression
  /-- The form `new operand(args)`, or `new operand` without arguments. -/
  | newExpression
  /-- Properties between braces. -/
  | objectLiteralExpression
  /-- Fields between braces, as a target. -/
  | objectPattern
  /-- The form `name: element` in an object pattern. -/
  | objectPatternField
  /-- The form `(expression)`. -/
  | parenExpression
  /-- The form `operand operator`. -/
  | postfixExpression
  /-- The elements of a program. -/
  | program
  /-- The form `name: value` in an object literal. -/
  | propertyNameAssignment
  /-- The form `...identifier` as a parameter. -/
  | restParameter
  /-- The form `return expression`. -/
  | returnStatement
  /-- The form `set name(parameter) body`. -/
  | setAccessor
  /-- The form `...expression`. -/
  | spreadExpression
  /-- The form `...lvalue` in a pattern. -/
  | spreadPatternElement
  /-- The form `switch (expression)` and its clauses. -/
  | switchStatement
  /-- The word `this`. -/
  | thisExpression
  /-- The form `throw value`. -/
  | throwStatement
  /-- The form `try body` with a catch clause, a finally clause or both. -/
  | tryStatement
  /-- The form `operator operand`. -/
  | unaryExpression
  /-- The form `lvalue = initializer` in a declaration list. -/
  | variableDeclaration
  /-- The form `var`, `let` or `const` and declarations. -/
  | variableDeclarationList
  /-- A declaration list as a statement. -/
  | variableStatement
  /-- The form `while (condition) body`. -/
  | whileStatement
  /-- The form `with (expression) body`. -/
  | withStatement
  /-- The form `yield expression`, or the delegating `yield`. -/
  | yieldExpression
deriving DecidableEq

/-- The kind of value that belongs into a field. -/
inductive FieldKind where
  /-- Any node. -/
  | tree
  /-- Any node, or none. -/
  | optionalTree
  /-- A sequence of nodes. -/
  | trees
  /-- A node of one production. -/
  | only (production : Production)
  /-- A node of one production, or none. -/
  | optionalOnly (production : Production)
  /-- A token of any kind. -/
  | token
  /-- An identifier token. -/
  | identifierToken
  /-- An identifier token, or none. -/
  | optionalIdentifierToken
  /-- A token kind. -/
  | tokenKind
  /-- A truth value. -/
  | flag
deriving DecidableEq

/-- A field of the nodes of a production. -/
structure Field where
  /-- The name of the field. -/
  name : String
  /-- What belongs into it. -/
  kind : FieldKind

namespace Production

/-- Every production, in the order of the catalog. -/
def all : List Production := [
  .argumentList, .arrayLiteralExpression, .arrayPattern, .binaryOperator, .bindingElement,
  .bindingIdentifier, .block, .breakStatement, .callExpression, .cascadeExpression, .caseClause,
  .catchClause, .classDeclaration, .commaExpression, .conditionalExpression, .continueStatement,
  .defaultClause, .doWhileStatement, .emptyStatement, .expressionStatement, .finallyClause,
  .forInStatement, .forOfStatement, .forStatement, .formalParameterList, .functionExpression,
  .getAccessor, .identifierExpression, .ifStatement, .labelledStatement, .literalExpression,
  .memberExpression, .memberLookupExpression, .newExpression, .objectLiteralExpression,
  .objectPattern, .objectPatternField, .parenExpression, .postfixExpression, .program,
  .propertyNameAssignment, .restParameter, .returnStatement, .setAccessor, .spreadExpression,
  .spreadPatternElement, .switchStatement, .thisExpression, .throwStatement, .tryStatement,
  .unaryExpression, .variableDeclaration, .variableDeclarationList, .variableStatement,
  .whileStatement, .withStatement, .yieldExpression]

/-- The name of a production. -/
def name : Production → String
  | argumentList => "ArgumentList"
  | arrayLiteralExpression => "ArrayLiteralExpression"
  | arrayPattern => "ArrayPattern"
  | binaryOperator => "BinaryOperator"
  | bindingElement => "BindingElement"
  | bindingIdentifier => "BindingIdentifier"
  | block => "Block"
  | breakStatement => "BreakStatement"
  | callExpression => "CallExpression"
  | cascadeExpression => "CascadeExpression"
  | caseClause => "CaseClause"
  | catchClause => "Catch"
  | classDeclaration => "ClassDeclaration"
  | commaExpression => "CommaExpression"
  | conditionalExpression => "ConditionalExpression"
  | continueStatement => "ContinueStatement"
  | defaultClause => "DefaultClause"
  | doWhileStatement => "DoWhileStatement"
  | emptyStatement => "EmptyStatement"
  | expressionStatement => "ExpressionStatement"
  | finallyClause => "Finally"
  | forInStatement => "ForInStatement"
  | forOfStatement => "ForOfStatement"
  | forStatement => "ForStatement"
  | formalParameterList => "FormalParameterList"
  | functionExpression => "FunctionExpression"
  | getAccessor => "GetAccessor"
  | identifierExpression => "IdentifierExpression"
  | ifStatement => "IfStatement"
  | labelledStatement => "LabelledStatement"
  | literalExpression => "LiteralExpression"
  | memberExpression => "MemberExpression"
  | memberLookupExpression => "MemberLookupExpression"
  | newExpression => "NewExpression"
  | objectLiteralExpression => "ObjectLiteralExpression"
  | objectPattern => "ObjectPattern"
  | objectPatternField => "ObjectPatternField"
  | parenExpression => "ParenExpression"
  | postfixExpression => "PostfixExpression"
  | program => "Program"
  | propertyNameAssignment => "PropertyNameAssignment"
  | restParameter => "RestParameter"
  | returnStatement => "ReturnStatement"
  | setAccessor => "SetAccessor"
  | spreadExpression => "SpreadExpression"
  | spreadPatternElement => "SpreadPatternElement"
  | switchStatement => "SwitchStatement"
  | thisExpression => "ThisExpression"
  | throwStatement => "ThrowStatement"
  | tryStatement => "TryStatement"
  | unaryExpression => "UnaryExpression"
  | variableDeclaration => "VariableDeclaration"
  | variableDeclarationList => "VariableDeclarationList"
  | variableStatement => "VariableStatement"
  | whileStatement => "WhileStatement"
  | withStatement => "WithStatement"
  | yieldExpression => "YieldExpression"

/-- The letters of a name in capitals, with an underscore in front of every capital but the
first. -/
def capitals : List Char → List Char
  | [] => []
  | c :: rest => if c.isUpper then '_' :: c :: capitals rest else c.toUpper :: capitals rest

/-- The tag of a production in the catalog. -/
def tag (p : Production) : String := String.ofList ((capitals p.name.toList).drop 1)

/-- The number of a production in the catalog, from one. -/
def number (p : Production) : Nat := p.ctorIdx + 1

/-- The fields of a production, in order. -/
def fields : Production → List Field
  | argumentList => [⟨"args", .trees⟩]
  | arrayLiteralExpression => [⟨"elements", .trees⟩]
  | arrayPattern => [⟨"elements", .trees⟩]
  | binaryOperator => [⟨"left", .tree⟩, ⟨"operator", .token⟩, ⟨"right", .tree⟩]
  | bindingElement => [⟨"binding", .tree⟩, ⟨"initializer", .optionalTree⟩]
  | bindingIdentifier => [⟨"identifier_token", .identifierToken⟩]
  | block => [⟨"statements", .trees⟩]
  | breakStatement => [⟨"name", .optionalIdentifierToken⟩]
  | callExpression => [⟨"operand", .tree⟩, ⟨"args", .only .argumentList⟩]
  | cascadeExpression => [⟨"operand", .tree⟩, ⟨"expressions", .trees⟩]
  | caseClause => [⟨"expression", .tree⟩, ⟨"statements", .trees⟩]
  | catchClause => [⟨"binding", .only .bindingIdentifier⟩, ⟨"catch_body", .only .block⟩]
  | classDeclaration => [
    ⟨"name", .only .bindingIdentifier⟩, ⟨"super_class", .optionalTree⟩, ⟨"elements", .trees⟩]
  | commaExpression => [⟨"expressions", .trees⟩]
  | conditionalExpression => [⟨"condition", .tree⟩, ⟨"left", .tree⟩, ⟨"right", .tree⟩]
  | continueStatement => [⟨"name", .optionalIdentifierToken⟩]
  | defaultClause => [⟨"statements", .trees⟩]
  | doWhileStatement => [⟨"body", .tree⟩, ⟨"condition", .tree⟩]
  | emptyStatement => []
  | expressionStatement => [⟨"expression", .tree⟩]
  | finallyClause => [⟨"block", .only .block⟩]
  | forInStatement => [⟨"initializer", .tree⟩, ⟨"collection", .tree⟩, ⟨"body", .tree⟩]
  | forOfStatement => [⟨"initializer", .tree⟩, ⟨"collection", .tree⟩, ⟨"body", .tree⟩]
  | forStatement => [
    ⟨"initializer", .optionalTree⟩, ⟨"condition", .optionalTree⟩, ⟨"increment", .optionalTree⟩,
    ⟨"body", .tree⟩]
  | formalParameterList => [⟨"parameters", .trees⟩]
  | functionExpression => [
    ⟨"name", .optionalOnly .bindingIdentifier⟩, ⟨"is_generator", .flag⟩,
    ⟨"formal_parameter_list", .only .formalParameterList⟩, ⟨"function_body", .only .block⟩]
  | getAccessor => [⟨"name", .token⟩, ⟨"body", .only .block⟩]
  | identifierExpression => [⟨"identifier_token", .identifierToken⟩]
  | ifStatement => [⟨"condition", .tree⟩, ⟨"if_clause", .tree⟩, ⟨"else_clause", .optionalTree⟩]
  | labelledStatement => [⟨"name", .identifierToken⟩, ⟨"statement", .tree⟩]
  | literalExpression => [⟨"literal_token", .token⟩]
  | memberExpression => [⟨"operand", .tree⟩, ⟨"member_name", .identifierToken⟩]
  | memberLookupExpression => [⟨"operand", .tree⟩, ⟨"member_expression", .tree⟩]
  | newExpression => [⟨"operand", .tree⟩, ⟨"args", .optionalOnly .argumentList⟩]
  | objectLiteralExpression => [⟨"property_name_and_values", .trees⟩]
  | objectPattern => [⟨"fields", .trees⟩]
  | objectPatternField => [⟨"name", .only .bindingIdentifier⟩, ⟨"element", .optionalTree⟩]
  | parenExpression => [⟨"expression", .tree⟩]
  | postfixExpression => [⟨"operand", .tree⟩, ⟨"operator", .token⟩]
  | program => [⟨"program_elements", .trees⟩]
  | propertyNameAssignment => [⟨"name", .token⟩, ⟨"value", .tree⟩]
  | restParameter => [⟨"identifier", .only .bindingIdentifier⟩]
  | returnStatement => [⟨"expression", .optionalTree⟩]
  | setAccessor => [⟨"name", .token⟩, ⟨"parameter", .identifierToken⟩, ⟨"body", .only .block⟩]
  | spreadExpression => [⟨"expression", .tree⟩]
  | spreadPatternElement => [⟨"lvalue", .tree⟩]
  | switchStatement => [⟨"expression", .tree⟩, ⟨"case_clauses", .trees⟩]
  | thisExpression => []
  | throwStatement => [⟨"value", .tree⟩]
  | tryStatement => [
    ⟨"body", .only .block⟩, ⟨"catch_block", .optionalOnly .catchClause⟩,
    ⟨"finally_block", .optionalOnly .finallyClause⟩]
  | unaryExpression => [⟨"operator", .token⟩, ⟨"operand", .tree⟩]
  | variableDeclaration => [⟨"lvalue", .tree⟩, ⟨"initializer", .optionalTree⟩]
  | variableDeclarationList => [⟨"declaration_type", .tokenKind⟩, ⟨"declarations", .trees⟩]
  | variableStatement => [⟨"declarations", .only .variableDeclarationList⟩]
  | whileStatement => [⟨"condition", .tree⟩, ⟨"body", .tree⟩]
  | withStatement => [⟨"expression", .tree⟩, ⟨"body", .tree⟩]
  | yieldExpression => [⟨"expression", .optionalTree⟩, ⟨"is_yield_for", .flag⟩]

/-- The names of the fields that need not be given when a node is made. Such a field is then
unset or absent, as its kind has it. -/
def omissible : Production → List String
  | bindingElement => ["initializer"]
  | yieldExpression => ["is_yield_for"]
  | _ => []

end Production

end EcmaTree
