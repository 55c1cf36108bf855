import VelocityScript.Lowering.State
import VelocityScript.Number.Literal
import VelocityScript.Template.Walk

/-!
# Lowering expressions

Every part of an expression is lowered before the whole gives up, so that all
problems are reported at once.
-/

namespace VelocityScript.Lowering

open Script

/-- The operator of a template.  It has one equality only. -/
def lowerBinaryOperator? : BinaryOperator → Option Template.BinaryOperator
  | .add => some .plus
  | .subtract => some .minus
  | .multiply => some .times
  | .divide => some .divide
  | .remainder => some .remainder
  | .equal | .strictEqual => some .equal
  | .notEqual | .strictNotEqual => some .notEqual
  | .less => some .less
  | .lessOrEqual => some .lessOrEqual
  | .greater => some .greater
  | .greaterOrEqual => some .greaterOrEqual
  | .and => some .and
  | .or => some .or
  | _ => none

/-- The operator of a template in front of an operand. -/
def lowerUnaryOperator? : UnaryOperator → Option Template.UnaryOperator
  | .not => some .not
  | .minus => some .minus
  | _ => none

/-- What an assignment combines the old value with: nothing, an operator, or
one that the template language does not have. -/
inductive Combination where
  | replace
  | combine (operator : Template.BinaryOperator)
  | unsupported
  deriving DecidableEq

/-- What an assignment combines the old value with. -/
def combination : AssignmentOperator → Combination
  | .assign => .replace
  | .add => .combine .plus
  | .subtract => .combine .minus
  | .multiply => .combine .times
  | .divide => .combine .divide
  | .remainder => .combine .remainder
  | _ => .unsupported

/-- How a call is lowered, by its callee: a helper function, a method, or not
at all. -/
inductive CalleeForm where
  | helper (exported : String) (span : Span)
  | method
  | unsupported (syntaxName : String)
  deriving DecidableEq

/-- How a call with the given callee is lowered. -/
def calleeForm (callee : Expression) : CalleeForm :=
  match callee with
  | .identifier name =>
      match name.binding with
      | .helper _ exported _ => .helper exported name.span
      | _ => .unsupported callee.syntaxName
  | .member _ _ _ _ => .method
  | _ => .unsupported callee.syntaxName

/-- Lowers a name.  In a resolver template a parameter is a property of the
arguments of the request. -/
def lowerIdentifier (target : Target) (identifier : Identifier) :
    Lower (Option Template.Expression) := do
  if target = .appsync ∧ identifier.binding = .parameter then
    match ← lowerName identifier.name identifier.span with
    | none => return none
    | some name =>
        return some
          (.ofPath
            (.chain "ctx" ["arguments", name.text] (some identifier.span)))
  else
    match identifier.binding with
    | .helper _ _ .stringUtility =>
        modify fun state => { state with needsStringClass := true }
    | _ => pure ()
    match ← lowerName identifier.name identifier.span with
    | none => return none
    | some name => return some (.ofPath (.name name))

/-- Lowers a numeric literal. -/
def lowerNumber (text : String) (span : Span) :
    Lower (Option Template.Value) := do
  match numericLiteral? text with
  | some value => return some (.number value (some span))
  | none => giveUp (.invalidNumber text) span

def lowerPropertyName : PropertyName → Lower (Option Template.Value)
  | .identifier name =>
      return some (.string name.name .double (some name.span))
  | .string text span => return some (.quoted text (some span))
  | .number text span => lowerNumber text span
  | .computed _ span => giveUp .computedPropertyName span
  | .privateName _ span => giveUp .privatePropertyName span

/-- The assignment of a lowered value to a lowered target, which runs before
the expression at hand. -/
def assign
    (combined : Option Template.BinaryOperator) (source : Expression)
    (left right : Option Template.Expression) (span : Span) :
    Lower (Option Template.Reference) := do
  match left with
  | none => return none
  | some left =>
      match left.reference?.bind Template.Reference.place? with
      | none => giveUp (.assignmentTarget source.syntaxName) source.span
      | some place =>
          match right with
          | none => return none
          | some right =>
              let value :=
                match combined with
                | none => right
                | some operator =>
                    .binary (.ofValue place.reference.value) operator right
                      (some span)
              emit (.assign place value (some span))
              return some place.reference

mutual

def lowerExpression (target : Target) :
    Expression → Lower (Option Template.Expression)
  | .identifier name => lowerIdentifier target name
  | .receiver span =>
      return some (.ofPath (.name ⟨target.receiver, some span⟩))
  | .number text span =>
      return (← lowerNumber text span).map .ofValue
  | .string text span => return some (.ofValue (.quoted text (some span)))
  | .boolean truth span =>
      return some (.ofValue (.boolean truth (some span)))
  | .template head parts span => do
      let head ← escapeQuotes head
      let spans ← lowerParts target parts
      return spans.map fun spans => .ofValue (.template head spans (some span))
  | .array elements span => do
      let elements ← lowerValues target elements
      return elements.map fun elements => .ofValue (.list elements (some span))
  | .object members span => do
      let entries ← lowerMembers target members
      return entries.map fun entries => .ofValue (.map entries (some span))
  | .parenthesized inner span => do
      let inner ← lowerExpression target inner
      return inner.map fun inner => .parenthesized inner.interpolated (some span)
  | .unary operator operand span => do
      match lowerUnaryOperator? operator with
      | none => giveUp (.unaryOperator operator) span
      | some lowered =>
          let operand ← lowerExpression target operand
          return operand.map fun operand =>
            .unary lowered operand.interpolated (some span)
  | .binary operator left right span => do
      match lowerBinaryOperator? operator with
      | none => giveUp (.binaryOperator operator) span
      | some lowered =>
          let left ← lowerExpression target left
          let right ← lowerExpression target right
          return left.bind fun left => right.map fun right =>
            .binary left.interpolated lowered right.interpolated (some span)
  | .assignment operator place value span => do
      match combination operator with
      | .unsupported => giveUp (.assignmentOperator operator) span
      | .replace =>
          let left ← lowerExpression target place
          let right ← lowerExpression target value
          let reference ←
            assign none place left (right.map .interpolated) span
          return reference.map fun reference => .ofValue reference.value
      | .combine combined =>
          let left ← lowerExpression target place
          let right ← lowerExpression target value
          let reference ←
            assign (some combined) place left (right.map .interpolated) span
          return reference.map fun reference => .ofValue reference.value
  | .member object property isPrivate span => do
      if isPrivate then
        giveUp .privateProperty property.span
      else
        let base ← asPath (← lowerExpression target object)
        let name ← lowerName property.name property.span
        return base.bind fun base => name.map fun name =>
          .ofPath (.property base name (some span))
  | .index object subscript span => do
      let base ← asPath (← lowerExpression target object)
      let subscript ← asValue (← lowerExpression target subscript)
      return base.bind fun base => subscript.map fun subscript =>
        .ofPath (.index base subscript (some span))
  | .call callee arguments _ span => do
      match calleeForm callee with
      | .unsupported syntaxName => giveUp (.callee syntaxName) callee.span
      | .helper exported nameSpan =>
          if exported = Catalogue.rangeHelper then
            lowerRange target span arguments
          else
            lowerHelperCall target exported nameSpan span arguments
      | .method =>
          let method ← lowerExpression target callee
          let arguments ← lowerValues target arguments
          match method with
          | none => return none
          | some (.ofPath (.property base name origin)) =>
              return arguments.map fun arguments =>
                .ofPath (.call base name origin arguments (some span))
          | some other => giveUp (.callee other.kind.text) callee.span
  | .other kind span => giveUp (.expression kind) span

/-- Lowers the call of a helper function: its first argument is the receiver of
the method that the others are passed to. -/
def lowerHelperCall (target : Target) (exported : String) (nameSpan span : Span) :
    List Expression → Lower (Option Template.Expression)
  | [] => giveUp .missingReceiver span
  | receiver :: others => do
      let base ← asPath (← lowerExpression target receiver)
      let name ← lowerName exported nameSpan
      let arguments ← lowerValues target others
      return base.bind fun base => name.bind fun name =>
        arguments.map fun arguments =>
          .ofPath (.call base name (some nameSpan) arguments (some span))

/-- Lowers the call that makes a range.  Arguments after the second one are
left out. -/
def lowerRange (target : Target) (span : Span) :
    List Expression → Lower (Option Template.Expression)
  | [] => giveUp (.missingBound .first) span
  | [first] => do
      discard
        (asBound .first first.span (← asValue (← lowerExpression target first)))
      giveUp (.missingBound .last) span
  | first :: last :: _ => do
      let lowest ←
        asBound .first first.span (← asValue (← lowerExpression target first))
      let highest ←
        asBound .last last.span (← asValue (← lowerExpression target last))
      return lowest.bind fun lowest => highest.map fun highest =>
        .ofValue (.range lowest highest (some span))

/-- Lowers several expressions where literals or references are needed. -/
def lowerValues (target : Target) :
    List Expression → Lower (Option (List Template.Value))
  | [] => return some []
  | expression :: others => do
      let value ← asValue (← lowerExpression target expression)
      let values ← lowerValues target others
      return value.bind fun value => values.map fun values => value :: values

/-- Lowers one part of a template literal: the interpolated expression, then the
text after it. -/
def lowerPart (target : Target) :
    TemplatePart → Lower (Option Template.TemplateSpan)
  | .mk expression literal => do
      match ← asValue (← lowerExpression target expression) with
      | none => return none
      | some value =>
          let text ← escapeQuotes literal
          return some (.mk value text (some expression.span))

def lowerParts (target : Target) :
    List TemplatePart → Lower (Option (List Template.TemplateSpan))
  | [] => return some []
  | part :: others => do
      let span ← lowerPart target part
      let spans ← lowerParts target others
      return span.bind fun span => spans.map fun spans => span :: spans

def lowerMember (target : Target) :
    ObjectMember → Lower (Option Template.MapEntry)
  | .shorthand identifier => do
      let value ← asValue (← lowerIdentifier target identifier)
      let name :=
        Template.Value.string identifier.name .double (some identifier.span)
      return value.map fun value => .mk name value (some identifier.span)
  | .property name value span => do
      let name ← lowerPropertyName name
      let value ← asValue (← lowerExpression target value)
      return name.bind fun name => value.map fun value =>
        .mk name value (some span)
  | .other kind span => giveUp (.objectMember kind) span

def lowerMembers (target : Target) :
    List ObjectMember → Lower (Option (List Template.MapEntry))
  | [] => return some []
  | member :: others => do
      let entry ← lowerMember target member
      let entries ← lowerMembers target others
      return entry.bind fun entry => entries.map fun entries => entry :: entries

end

/-- Lowers an expression where a literal or a reference is needed. -/
def lowerValue (target : Target) (expression : Expression) :
    Lower (Option Template.Value) := do
  asValue (← lowerExpression target expression)

end VelocityScript.Lowering
