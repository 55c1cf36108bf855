import VelocityScript.Catalogue
import VelocityScript.Script.Operator
import VelocityScript.Text.Position

/-!
# Script trees

The part of the script language that templates are written in.  What templates
cannot express is kept only as its kind and its span.
-/

namespace VelocityScript.Script

/-- What a name stands for. -/
inductive Binding where
  | unresolved
  | parameter
  | variableName
  | helper (moduleName exported : String) (kind : HelperKind)
  deriving DecidableEq

/-- A name in a script. -/
structure Identifier where
  name : String
  span : Span
  binding : Binding := .unresolved
  deriving DecidableEq

/-- Kinds of expressions that templates cannot express. -/
inductive OtherExpression where
  | commaList
  | arrowFunction
  | conditional
  | asType
  | satisfiesType
  | await
  | typeAssertion
  | postfixUnary
  | newObject
  | taggedTemplate
  | spread
  | regularExpression
  | null
  | super
  | functionExpression
  | classExpression
  | omitted
  | bigInteger
  deriving DecidableEq

/-- The name of the kind in messages. -/
def OtherExpression.syntaxName : OtherExpression → String
  | .commaList => "CommaListExpression"
  | .arrowFunction => "ArrowFunction"
  | .conditional => "ConditionalExpression"
  | .asType => "AsExpression"
  | .satisfiesType => "SatisfiesExpression"
  | .await => "AwaitExpression"
  | .typeAssertion => "TypeAssertionExpression"
  | .postfixUnary => "PostfixUnaryExpression"
  | .newObject => "NewExpression"
  | .taggedTemplate => "TaggedTemplateExpression"
  | .spread => "SpreadElement"
  | .regularExpression => "RegularExpressionLiteral"
  | .null => "NullKeyword"
  | .super => "SuperKeyword"
  | .functionExpression => "FunctionExpression"
  | .classExpression => "ClassExpression"
  | .omitted => "OmittedExpression"
  | .bigInteger => "BigIntLiteral"

/-- Kinds of object members that templates cannot express. -/
inductive OtherMember where
  | spread
  | getter
  | setter
  | method
  | shorthandWithDefault
  deriving DecidableEq

/-- The name of the kind in messages. -/
def OtherMember.syntaxName : OtherMember → String
  | .spread => "SpreadAssignment"
  | .getter => "GetAccessor"
  | .setter => "SetAccessor"
  | .method => "MethodDeclaration"
  | .shorthandWithDefault => "ShorthandPropertyAssignment"

mutual

inductive Expression where
  | identifier (identifier : Identifier)
  | receiver (span : Span)
  | number (text : String) (span : Span)
  | string (text : String) (span : Span)
  | boolean (truth : Bool) (span : Span)
  | template (head : String) (parts : List TemplatePart) (span : Span)
  | array (elements : List Expression) (span : Span)
  | object (members : List ObjectMember) (span : Span)
  | parenthesized (inner : Expression) (span : Span)
  | unary (operator : UnaryOperator) (operand : Expression) (span : Span)
  | binary (operator : BinaryOperator) (left right : Expression) (span : Span)
  | assignment (operator : AssignmentOperator) (target value : Expression)
      (span : Span)
  | member (object : Expression) (property : Identifier) (isPrivate : Bool)
      (span : Span)
  | index (object subscript : Expression) (span : Span)
  | call (callee : Expression) (arguments : List Expression)
      (returns : ReturnKind) (span : Span)
  | other (kind : OtherExpression) (span : Span)

/-- An interpolated expression and the text after it. -/
inductive TemplatePart where
  | mk (expression : Expression) (literal : String)

/-- The name of a property of an object. -/
inductive PropertyName where
  | identifier (identifier : Identifier)
  | string (text : String) (span : Span)
  | number (text : String) (span : Span)
  | computed (expression : Expression) (span : Span)
  | privateName (text : String) (span : Span)

inductive ObjectMember where
  | shorthand (identifier : Identifier)
  | property (name : PropertyName) (value : Expression) (span : Span)
  | other (kind : OtherMember) (span : Span)

end

def Expression.span : Expression → Span
  | .identifier name => name.span
  | .receiver span => span
  | .number _ span => span
  | .string _ span => span
  | .boolean _ span => span
  | .template _ _ span => span
  | .array _ span => span
  | .object _ span => span
  | .parenthesized _ span => span
  | .unary _ _ span => span
  | .binary _ _ _ span => span
  | .assignment _ _ _ span => span
  | .member _ _ _ span => span
  | .index _ _ span => span
  | .call _ _ _ span => span
  | .other _ span => span

/-- The name of the kind of an expression in messages. -/
def Expression.syntaxName : Expression → String
  | .identifier _ => "Identifier"
  | .receiver _ => "ThisKeyword"
  | .number _ _ => "NumericLiteral"
  | .string _ _ => "StringLiteral"
  | .boolean true _ => "TrueKeyword"
  | .boolean false _ => "FalseKeyword"
  | .template _ _ _ => "TemplateExpression"
  | .array _ _ => "ArrayLiteralExpression"
  | .object _ _ => "ObjectLiteralExpression"
  | .parenthesized _ _ => "ParenthesizedExpression"
  | .unary _ _ _ => "PrefixUnaryExpression"
  | .binary _ _ _ _ => "BinaryExpression"
  | .assignment _ _ _ _ => "BinaryExpression"
  | .member _ _ _ _ => "PropertyAccessExpression"
  | .index _ _ _ => "ElementAccessExpression"
  | .call _ _ _ _ => "CallExpression"
  | .other kind _ => kind.syntaxName

def PropertyName.span : PropertyName → Span
  | .identifier name => name.span
  | .string _ span => span
  | .number _ span => span
  | .computed _ span => span
  | .privateName _ span => span

mutual

/-- What a declaration binds: a name, or a pattern of names. -/
inductive BindingName where
  | identifier (identifier : Identifier)
  | array (elements : List BindingElement) (span : Span)
  | object (properties : List BindingName) (span : Span)

/-- An element of an array pattern; a hole binds nothing. -/
inductive BindingElement where
  | hole
  | bound (name : BindingName)

end

def BindingName.span : BindingName → Span
  | .identifier name => name.span
  | .array _ span => span
  | .object _ span => span

mutual

/-- The names that a pattern binds, in source order. -/
def BindingName.names : BindingName → List String
  | .identifier name => [name.name]
  | .array elements _ => elementNames elements
  | .object properties _ => patternNames properties

def elementNames : List BindingElement → List String
  | [] => []
  | .hole :: others => elementNames others
  | .bound name :: others => name.names ++ elementNames others

def patternNames : List BindingName → List String
  | [] => []
  | name :: others => name.names ++ patternNames others

end

inductive DeclarationKeyword where
  | const
  | let
  | var
  deriving DecidableEq

/-- One declared name or pattern and its initial value. -/
structure Declaration where
  name : BindingName
  initial : Option Expression
  span : Span

/-- What a loop over the elements of something assigns to. -/
inductive LoopHeader where
  | declaration (declared : Declaration)
  | expression (assigned : Expression)

/-- Kinds of statements that templates cannot express. -/
inductive OtherStatement where
  | empty
  | whileLoop
  | doLoop
  | throw
  | break
  | continue
  | switch
  | try
  | debugger
  | functionDeclaration
  | classDeclaration
  | interfaceDeclaration
  | typeAlias
  | enumDeclaration
  | moduleDeclaration
  | labeled
  | awaitedLoop
  | countingLoop
  | keyLoop
  | exportDeclaration
  | exportAssignment
  deriving DecidableEq

/-- The name of the kind in messages. -/
def OtherStatement.syntaxName : OtherStatement → String
  | .empty => "EmptyStatement"
  | .whileLoop => "WhileStatement"
  | .doLoop => "DoStatement"
  | .throw => "ThrowStatement"
  | .break => "BreakStatement"
  | .continue => "ContinueStatement"
  | .switch => "SwitchStatement"
  | .try => "TryStatement"
  | .debugger => "DebuggerStatement"
  | .functionDeclaration => "FunctionDeclaration"
  | .classDeclaration => "ClassDeclaration"
  | .interfaceDeclaration => "InterfaceDeclaration"
  | .typeAlias => "TypeAliasDeclaration"
  | .enumDeclaration => "EnumDeclaration"
  | .moduleDeclaration => "ModuleDeclaration"
  | .labeled => "LabeledStatement"
  | .awaitedLoop => "ForOfStatement"
  | .countingLoop => "ForStatement"
  | .keyLoop => "ForInStatement"
  | .exportDeclaration => "ExportDeclaration"
  | .exportAssignment => "ExportAssignment"

/-- Where a statement stands: its span, and the line breaks between the token
before it and its first one. -/
structure Placement where
  span : Span
  leadingNewlines : Nat
  deriving DecidableEq

inductive Statement where
  | block (statements : List Statement) (placement : Placement)
  | expression (evaluated : Expression) (placement : Placement)
  | branch (condition : Expression) (consequent : Statement)
      (alternative : Option Statement) (placement : Placement)
  | loop (header : LoopHeader) (iterable : Expression) (body : Statement)
      (placement : Placement)
  | result (returned : Option Expression) (placement : Placement)
  | declarations (keyword : DeclarationKeyword) (declared : List Declaration)
      (placement : Placement)
  | other (kind : OtherStatement) (placement : Placement)

/-- Where a statement stands. -/
def Statement.placement : Statement → Placement
  | .block _ placement => placement
  | .expression _ placement => placement
  | .branch _ _ _ placement => placement
  | .loop _ _ _ placement => placement
  | .result _ placement => placement
  | .declarations _ _ placement => placement
  | .other _ placement => placement

def Statement.span (statement : Statement) : Span :=
  statement.placement.span

/-- The name of the kind of a statement in messages. -/
def Statement.syntaxName : Statement → String
  | .block _ _ => "Block"
  | .expression _ _ => "ExpressionStatement"
  | .branch _ _ _ _ => "IfStatement"
  | .loop _ _ _ _ => "ForOfStatement"
  | .result _ _ => "ReturnStatement"
  | .declarations _ _ _ => "VariableStatement"
  | .other kind _ => kind.syntaxName

/-- The body of a function. -/
structure Block where
  statements : List Statement
  span : Span

/-- A parameter of a function.  The pseudo parameter that types the receiver
is marked. -/
structure Parameter where
  name : BindingName
  isReceiver : Bool
  span : Span

/-- A modifier of a function. -/
inductive Modifier where
  | exported
  | default
  | async
  | declared
  deriving DecidableEq

/-- The keyword of a modifier. -/
def Modifier.text : Modifier → String
  | .exported => "export"
  | .default => "default"
  | .async => "async"
  | .declared => "declare"

/-- A function declaration.  A signature has no body. -/
structure FunctionDeclaration where
  name : Option Identifier
  modifiers : List Modifier
  parameters : List Parameter
  body : Option Block
  isGenerator : Bool
  span : Span

/-- What an import binds. -/
inductive ImportSpecifier where
  | named (imported bound : String)
  | default (bound : String)
  | everything (bound : String)
  deriving DecidableEq

structure ImportDeclaration where
  moduleName : String
  specifiers : List ImportSpecifier
  span : Span

/-- An item of a module. -/
inductive Item where
  | imports (declared : ImportDeclaration)
  | function (declared : FunctionDeclaration)
  | typeDeclaration (span : Span)
  | statement (statement : Statement)

/-- A parsed source text. -/
structure Module where
  items : List Item

end VelocityScript.Script
