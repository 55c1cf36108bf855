import VelocityScript.Diagnostic
import VelocityScript.Script.Tree

/-!
# Complaints of the lowering

What a script contains that has no form in a template.
-/

namespace VelocityScript.Lowering

open Script

/-- An end of a range. -/
inductive BoundSide where
  | first
  | last
  deriving DecidableEq

/-- The name of an end in messages. -/
def BoundSide.text : BoundSide → String
  | .first => "begin"
  | .last => "end"

/-- A reason why something cannot be lowered. -/
inductive Complaint where
  | notExported
  | extraModifiers
  | generatorFunction
  | missingBody
  | invalidIdentifier (name : String)
  | invalidNumber (text : String)
  | unaryOperator (operator : UnaryOperator)
  | binaryOperator (operator : BinaryOperator)
  | binaryStatement (operator : BinaryOperator)
  | assignmentOperator (operator : AssignmentOperator)
  | assignmentTarget (syntaxName : String)
  | privateProperty
  | privatePropertyName
  | computedPropertyName
  | callee (syntaxName : String)
  | expression (kind : OtherExpression)
  | expressionStatement (syntaxName : String)
  | statement (kind : OtherStatement)
  | objectMember (kind : OtherMember)
  | topLevel (syntaxName : String)
  | loopHeader
  | loopPattern
  | entryPatternSize
  | entryPatternNames
  | destructuring
  | missingReceiver
  | missingBound (side : BoundSide)
  | invalidBound (side : BoundSide)
  deriving DecidableEq

namespace Complaint

/-- The class of a complaint. -/
def code : Complaint → DiagnosticCode
  | .invalidIdentifier _ => .invalidIdentifier
  | .invalidNumber _ | .unaryOperator _ | .binaryOperator _
  | .binaryStatement _ | .assignmentOperator _ | .assignmentTarget _
  | .privateProperty | .privatePropertyName | .callee _ => .unsupportedSyntax
  | .computedPropertyName | .expression _ | .expressionStatement _
  | .statement _ | .objectMember _ | .topLevel _ => .notImplementedSyntax
  | .notExported | .extraModifiers | .generatorFunction | .missingBody
  | .loopHeader | .loopPattern | .entryPatternSize | .entryPatternNames
  | .destructuring | .missingReceiver | .missingBound _ | .invalidBound _ =>
      .structuralError

/-- Wording for a construct without a form in the template language. -/
def unsupported (syntaxName context : String) : String :=
  "Syntax " ++ syntaxName ++ " not supported " ++ context

/-- Wording for a construct that is not handled. -/
def notImplemented (syntaxName context : String) : String :=
  "Syntax " ++ syntaxName ++ " not implemented " ++ context

/-- The wording of a complaint. -/
def message : Complaint → String
  | .notExported => "Function without the export modifier not supported yet"
  | .extraModifiers =>
      "Function with modifiers except the export modifier and the default modifier, not supported"
  | .generatorFunction => "Generator function not supported"
  | .missingBody => "Function requires the body"
  | .invalidIdentifier name =>
      "The identifier '" ++ name ++ "' is an invalid name for VTL"
  | .invalidNumber text => "Invalid numeric text " ++ text
  | .unaryOperator operator =>
      "Operator " ++ operator.tokenName ++ " not supported in VTL"
  | .binaryOperator operator =>
      unsupported operator.tokenName "in the binary expression"
  | .binaryStatement operator =>
      "Operator " ++ operator.tokenName ++
        " not supported for VTL in the expression statement"
  | .assignmentOperator operator =>
      "Operator " ++ operator.tokenName ++
        " not supported for VTL in the assignment"
  | .assignmentTarget syntaxName =>
      unsupported syntaxName "for left of the assignment operator"
  | .privateProperty => unsupported "PrivateIdentifier" "in the property access"
  | .privatePropertyName =>
      unsupported "PrivateIdentifier" "for the property name"
  | .computedPropertyName =>
      notImplemented "ComputedPropertyName" "for the property name"
  | .callee syntaxName => unsupported syntaxName "in the call expression"
  | .expression kind => notImplemented kind.syntaxName "in the expression"
  | .expressionStatement syntaxName =>
      notImplemented syntaxName "in the expression statement"
  | .statement kind => notImplemented kind.syntaxName "in the statement"
  | .objectMember kind => notImplemented kind.syntaxName "in the object literal"
  | .topLevel syntaxName => notImplemented syntaxName "under the top level"
  | .loopHeader =>
      "The initializer of the for-of statement is not variable declaration"
  | .loopPattern =>
      "The binding of the for-of statement must be an identifier or a [key, value] array"
  | .entryPatternSize =>
      "The array binding of the for-of statement must have 2 elements"
  | .entryPatternNames =>
      "The array binding of the for-of statement must have identifiers"
  | .destructuring => "Destructuring not implemented"
  | .missingReceiver =>
      "Arguments require at least one for calling the function"
  | .missingBound side => "Missing " ++ side.text ++ " value of Range"
  | .invalidBound side =>
      "The " ++ side.text ++ " value of Range must be a number or a reference"

end Complaint

/-- A complaint and the region it concerns. -/
structure Report where
  complaint : Complaint
  span : Span
  deriving DecidableEq

def Report.diagnostic (source : SourceText) (report : Report) : Diagnostic :=
  { code := report.complaint.code
    message := report.complaint.message
    location := some (source.location report.span) }

end VelocityScript.Lowering
