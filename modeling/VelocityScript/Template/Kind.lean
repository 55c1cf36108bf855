/-!
# Kinds of template nodes

The reserved directives belong to the template language, but no template
written here has them.
-/

namespace VelocityScript.Template

/-- The kind of a node. -/
inductive Kind where
  | file
  | setDirective
  | ifDirective
  | foreachDirective
  | includeDirective
  | parseDirective
  | stopDirective
  | breakDirective
  | evaluateDirective
  | defineDirective
  | macroDirective
  | identifier
  | variableReference
  | propertyReference
  | methodReference
  | block
  | conditionAndBlock
  | numericLiteral
  | stringLiteral
  | templateLiteral
  | booleanLiteral
  | listLiteral
  | rangeLiteral
  | mapLiteral
  | textNode
  | propertyAccess
  | indexAccess
  | propertyAssignment
  | callExpression
  | binaryExpression
  | unaryExpression
  | newLine
  | templateSpan
  | parenthesizedExpression
  deriving DecidableEq

namespace Kind

/-- The name of a kind in reports. -/
def text : Kind → String
  | .file => "File"
  | .setDirective => "SetDirective"
  | .ifDirective => "IfDirective"
  | .foreachDirective => "ForeachDirective"
  | .includeDirective => "IncludeDirective"
  | .parseDirective => "ParseDirective"
  | .stopDirective => "StopDirective"
  | .breakDirective => "BreakDirective"
  | .evaluateDirective => "EvaluateDirective"
  | .defineDirective => "DefineDirective"
  | .macroDirective => "MacroDirective"
  | .identifier => "Identifier"
  | .variableReference => "VariableReference"
  | .propertyReference => "PropertyReference"
  | .methodReference => "MethodReference"
  | .block => "Block"
  | .conditionAndBlock => "ConditionAndBlock"
  | .numericLiteral => "NumericLiteral"
  | .stringLiteral => "StringLiteral"
  | .templateLiteral => "TemplateLiteral"
  | .booleanLiteral => "BooleanLiteral"
  | .listLiteral => "ListLiteral"
  | .rangeLiteral => "RangeLiteral"
  | .mapLiteral => "MapLiteral"
  | .textNode => "TextNode"
  | .propertyAccess => "PropertyNotation"
  | .indexAccess => "IndexNotation"
  | .propertyAssignment => "PropertyAssignment"
  | .callExpression => "CallExpression"
  | .binaryExpression => "BinaryExpression"
  | .unaryExpression => "PrefixUnaryExpression"
  | .newLine => "NewLine"
  | .templateSpan => "TemplateSpan"
  | .parenthesizedExpression => "ParenthesizedExpression"

def all : List Kind :=
  [.file, .setDirective, .ifDirective, .foreachDirective, .includeDirective,
    .parseDirective, .stopDirective, .breakDirective, .evaluateDirective,
    .defineDirective, .macroDirective, .identifier, .variableReference,
    .propertyReference, .methodReference, .block, .conditionAndBlock,
    .numericLiteral, .stringLiteral, .templateLiteral, .booleanLiteral,
    .listLiteral, .rangeLiteral, .mapLiteral, .textNode, .propertyAccess,
    .indexAccess, .propertyAssignment, .callExpression, .binaryExpression,
    .unaryExpression, .newLine, .templateSpan, .parenthesizedExpression]

def ofText? (name : String) : Option Kind :=
  all.find? (·.text == name)

/-- Whether nodes of this kind start with `#` and a directive name. -/
def isDirective : Kind → Bool
  | .setDirective | .ifDirective | .foreachDirective | .includeDirective
  | .parseDirective | .stopDirective | .breakDirective | .evaluateDirective
  | .defineDirective | .macroDirective => true
  | _ => false

/-- Whether nodes of this kind are interpolated with `$`. -/
def isReference : Kind → Bool
  | .variableReference | .propertyReference | .methodReference => true
  | _ => false

def isLiteral : Kind → Bool
  | .numericLiteral | .stringLiteral | .templateLiteral | .booleanLiteral
  | .listLiteral | .rangeLiteral | .mapLiteral => true
  | _ => false

/-- Whether nodes of this kind are expressions, references and literals
included. -/
def isExpression (kind : Kind) : Bool :=
  kind.isReference || kind.isLiteral ||
    match kind with
    | .identifier | .propertyAccess | .indexAccess | .callExpression
    | .binaryExpression | .unaryExpression | .parenthesizedExpression => true
    | _ => false

end Kind

end VelocityScript.Template
