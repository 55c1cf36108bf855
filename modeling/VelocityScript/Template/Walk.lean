import VelocityScript.Template.Tree

/-!
# Kinds of the nodes of a template, in document order
-/

namespace VelocityScript.Template

def Path.kind : Path → Kind
  | .name _ => .identifier
  | .property _ _ _ => .propertyAccess
  | .index _ _ _ => .indexAccess
  | .call _ _ _ _ _ => .callExpression

def Path.referenceKind : Path → Kind
  | .name _ => .variableReference
  | .property _ _ _ => .propertyReference
  | .index _ _ _ => .propertyReference
  | .call _ _ _ _ _ => .methodReference

def Value.kind : Value → Kind
  | .reference path _ => path.referenceKind
  | .number _ _ => .numericLiteral
  | .string _ _ _ => .stringLiteral
  | .template _ _ _ => .templateLiteral
  | .boolean _ _ => .booleanLiteral
  | .list _ _ => .listLiteral
  | .range _ _ _ => .rangeLiteral
  | .map _ _ => .mapLiteral

def Expression.kind : Expression → Kind
  | .ofPath path => path.kind
  | .ofValue value => value.kind
  | .binary _ _ _ _ => .binaryExpression
  | .unary _ _ _ => .unaryExpression
  | .parenthesized _ _ => .parenthesizedExpression

mutual

/-- The kinds of a path and of the nodes below it. -/
def Path.kinds : Path → List Kind
  | .name _ => [.identifier]
  | .property base _ _ => .propertyAccess :: (base.kinds ++ [.identifier])
  | .index base subscript _ => .indexAccess :: (base.kinds ++ subscript.kinds)
  | .call base _ _ arguments _ =>
      .callExpression :: .propertyAccess ::
        (base.kinds ++ .identifier :: valueKinds arguments)

/-- The kinds of a value and of the nodes below it. -/
def Value.kinds : Value → List Kind
  | .reference path _ => path.referenceKind :: path.kinds
  | .number _ _ => [.numericLiteral]
  | .string _ _ _ => [.stringLiteral]
  | .template _ spans _ => .templateLiteral :: spanKinds spans
  | .boolean _ _ => [.booleanLiteral]
  | .list elements _ => .listLiteral :: valueKinds elements
  | .range first last _ => .rangeLiteral :: (first.kinds ++ last.kinds)
  | .map entries _ => .mapLiteral :: entryKinds entries

def TemplateSpan.kinds : TemplateSpan → List Kind
  | .mk value _ _ => .templateSpan :: value.kinds

/-- The kinds of the end of a range and of the nodes below it. -/
def RangeBound.kinds : RangeBound → List Kind
  | .number _ _ => [.numericLiteral]
  | .reference path _ => path.referenceKind :: path.kinds

def MapEntry.kinds : MapEntry → List Kind
  | .mk name value _ => .propertyAssignment :: (name.kinds ++ value.kinds)

/-- The kinds of several values. -/
def valueKinds : List Value → List Kind
  | [] => []
  | value :: others => value.kinds ++ valueKinds others

def spanKinds : List TemplateSpan → List Kind
  | [] => []
  | span :: others => span.kinds ++ spanKinds others

def entryKinds : List MapEntry → List Kind
  | [] => []
  | entry :: others => entry.kinds ++ entryKinds others

end

/-- The kinds of an expression and of the nodes below it. -/
def Expression.kinds : Expression → List Kind
  | .ofPath path => path.kinds
  | .ofValue value => value.kinds
  | .binary left _ right _ => .binaryExpression :: (left.kinds ++ right.kinds)
  | .unary _ operand _ => .unaryExpression :: operand.kinds
  | .parenthesized inner _ => .parenthesizedExpression :: inner.kinds

/-- The kinds of a place and of the nodes below it. -/
def Place.kinds (place : Place) : List Kind :=
  place.reference.value.kinds

mutual

/-- The kinds of an element and of the nodes below it. -/
def Element.kinds : Element → List Kind
  | .assign place value _ => .setDirective :: (place.kinds ++ value.kinds)
  | .branch first others otherwise _ =>
      .ifDirective ::
        (first.kinds ++ clauseKinds others ++ otherwiseKinds otherwise)
  | .loop _ iterable body _ =>
      .foreachDirective :: .variableReference :: .identifier ::
        (iterable.kinds ++ body.kinds)
  | .emit value => value.kinds
  | .text _ _ => [.textNode]
  | .newLine => [.newLine]

def Block.kinds : Block → List Kind
  | .mk elements _ => .block :: elementKinds elements

/-- The kinds of a clause and of the nodes below it. -/
def Clause.kinds : Clause → List Kind
  | .mk condition body _ => .conditionAndBlock :: (condition.kinds ++ body.kinds)

def elementKinds : List Element → List Kind
  | [] => []
  | element :: others => element.kinds ++ elementKinds others

/-- The kinds of several clauses. -/
def clauseKinds : List Clause → List Kind
  | [] => []
  | clause :: others => clause.kinds ++ clauseKinds others

/-- The kinds of the block that is taken when no condition holds. -/
def otherwiseKinds : Option Block → List Kind
  | none => []
  | some block => block.kinds

end

/-- The kinds of a node and of the nodes below it, in document order. -/
def Node.kinds : Node → List Kind
  | .ofFile file => .file :: file.block.kinds
  | .ofBlock block => block.kinds
  | .ofElement element => element.kinds
  | .ofClause clause => clause.kinds
  | .ofExpression expression => expression.kinds
  | .ofSpan span => span.kinds
  | .ofEntry entry => entry.kinds

end VelocityScript.Template
