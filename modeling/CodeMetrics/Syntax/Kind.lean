/-!
# Node kinds

The categories of syntax nodes that the metrics tell apart, with the type tags that ESTree documents use for them. A
node with any other tag is of kind `other` and keeps its tag.
-/

namespace CodeMetrics

/-- The category of a node. -/
inductive Kind where
  | program
  | blockStatement
  | expressionStatement
  | emptyStatement
  | returnStatement
  | throwStatement
  | breakStatement
  | continueStatement
  | debuggerStatement
  | labeledStatement
  | withStatement
  | ifStatement
  | switchStatement
  | switchCase
  | tryStatement
  | catchClause
  | forStatement
  | forInStatement
  | forOfStatement
  | whileStatement
  | doWhileStatement
  | variableDeclaration
  | variableDeclarator
  | functionDeclaration
  | classDeclaration
  | classBody
  | methodDefinition
  | propertyDefinition
  | importDeclaration
  | exportNamedDeclaration
  | exportDefaultDeclaration
  | exportAllDeclaration
  | tsInterfaceDeclaration
  | tsInterfaceBody
  | tsInterfaceHeritage
  | tsClassImplements
  | tsTypeAliasDeclaration
  | tsEnumDeclaration
  | tsParameterProperty
  | identifier
  | privateIdentifier
  | literal
  | templateLiteral
  | thisExpression
  | binaryExpression
  | logicalExpression
  | assignmentExpression
  | updateExpression
  | unaryExpression
  | conditionalExpression
  | callExpression
  | newExpression
  | memberExpression
  | arrayExpression
  | objectExpression
  | property
  | sequenceExpression
  | awaitExpression
  | functionExpression
  | arrowFunctionExpression
  | classExpression
  | other
  deriving DecidableEq, Repr, Inhabited

namespace Kind

/-- The type tag of a kind. -/
def tag : Kind → String
  | program => "Program"
  | blockStatement => "BlockStatement"
  | expressionStatement => "ExpressionStatement"
  | emptyStatement => "EmptyStatement"
  | returnStatement => "ReturnStatement"
  | throwStatement => "ThrowStatement"
  | breakStatement => "BreakStatement"
  | continueStatement => "ContinueStatement"
  | debuggerStatement => "DebuggerStatement"
  | labeledStatement => "LabeledStatement"
  | withStatement => "WithStatement"
  | ifStatement => "IfStatement"
  | switchStatement => "SwitchStatement"
  | switchCase => "SwitchCase"
  | tryStatement => "TryStatement"
  | catchClause => "CatchClause"
  | forStatement => "ForStatement"
  | forInStatement => "ForInStatement"
  | forOfStatement => "ForOfStatement"
  | whileStatement => "WhileStatement"
  | doWhileStatement => "DoWhileStatement"
  | variableDeclaration => "VariableDeclaration"
  | variableDeclarator => "VariableDeclarator"
  | functionDeclaration => "FunctionDeclaration"
  | classDeclaration => "ClassDeclaration"
  | classBody => "ClassBody"
  | methodDefinition => "MethodDefinition"
  | propertyDefinition => "PropertyDefinition"
  | importDeclaration => "ImportDeclaration"
  | exportNamedDeclaration => "ExportNamedDeclaration"
  | exportDefaultDeclaration => "ExportDefaultDeclaration"
  | exportAllDeclaration => "ExportAllDeclaration"
  | tsInterfaceDeclaration => "TSInterfaceDeclaration"
  | tsInterfaceBody => "TSInterfaceBody"
  | tsInterfaceHeritage => "TSInterfaceHeritage"
  | tsClassImplements => "TSClassImplements"
  | tsTypeAliasDeclaration => "TSTypeAliasDeclaration"
  | tsEnumDeclaration => "TSEnumDeclaration"
  | tsParameterProperty => "TSParameterProperty"
  | identifier => "Identifier"
  | privateIdentifier => "PrivateIdentifier"
  | literal => "Literal"
  | templateLiteral => "TemplateLiteral"
  | thisExpression => "ThisExpression"
  | binaryExpression => "BinaryExpression"
  | logicalExpression => "LogicalExpression"
  | assignmentExpression => "AssignmentExpression"
  | updateExpression => "UpdateExpression"
  | unaryExpression => "UnaryExpression"
  | conditionalExpression => "ConditionalExpression"
  | callExpression => "CallExpression"
  | newExpression => "NewExpression"
  | memberExpression => "MemberExpression"
  | arrayExpression => "ArrayExpression"
  | objectExpression => "ObjectExpression"
  | property => "Property"
  | sequenceExpression => "SequenceExpression"
  | awaitExpression => "AwaitExpression"
  | functionExpression => "FunctionExpression"
  | arrowFunctionExpression => "ArrowFunctionExpression"
  | classExpression => "ClassExpression"
  | other => "Other"

/-- Every kind, in the order of its declaration. -/
def all : List Kind :=
  [ .program, .blockStatement, .expressionStatement, .emptyStatement, .returnStatement, .throwStatement,
    .breakStatement, .continueStatement, .debuggerStatement, .labeledStatement, .withStatement, .ifStatement,
    .switchStatement, .switchCase, .tryStatement, .catchClause, .forStatement, .forInStatement,
    .forOfStatement, .whileStatement, .doWhileStatement, .variableDeclaration, .variableDeclarator,
    .functionDeclaration, .classDeclaration, .classBody, .methodDefinition, .propertyDefinition,
    .importDeclaration, .exportNamedDeclaration, .exportDefaultDeclaration, .exportAllDeclaration,
    .tsInterfaceDeclaration, .tsInterfaceBody, .tsInterfaceHeritage, .tsClassImplements,
    .tsTypeAliasDeclaration, .tsEnumDeclaration, .tsParameterProperty, .identifier, .privateIdentifier,
    .literal, .templateLiteral, .thisExpression, .binaryExpression, .logicalExpression, .assignmentExpression,
    .updateExpression, .unaryExpression, .conditionalExpression, .callExpression, .newExpression,
    .memberExpression, .arrayExpression, .objectExpression, .property, .sequenceExpression, .awaitExpression,
    .functionExpression, .arrowFunctionExpression, .classExpression, .other ]

/-- The kind that has a tag as its own. -/
def ofTag? (tag : String) : Option Kind := all.find? fun k => k.tag == tag

/-- The kind of a tag; unknown tags are `other`. -/
def ofTag (tag : String) : Kind := (ofTag? tag).getD .other

theorem mem_all (k : Kind) : k ∈ all := by cases k <;> decide

/-- Functions that are not part of a class. -/
def isFunction : Kind → Bool
  | functionDeclaration | functionExpression | arrowFunctionExpression => true
  | _ => false

/-- Declared and anonymous classes. -/
def isClass : Kind → Bool
  | classDeclaration | classExpression => true
  | _ => false

/-- Whatever can have a place in the inheritance graph. -/
def isType : Kind → Bool
  | tsInterfaceDeclaration => true
  | k => k.isClass

end Kind

end CodeMetrics
