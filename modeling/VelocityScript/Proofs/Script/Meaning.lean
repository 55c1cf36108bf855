import VelocityScript.Lowering.Expression
import VelocityScript.Proofs.Template.Meaning

/-!
# The meaning of expressions without assignments

An expression that assigns nothing has a value in every store: its constructs
are those of the template language, its variables are where the target keeps
them, a helper function is a method of its first argument, and both kinds of
equality are one.
-/

namespace VelocityScript.Script

open Lowering
open Template (Interpretation Store)

/-! ## Variables and assignments -/

mutual

/-- The names that stand for something by themselves, in order.  Properties
and keys do not. -/
def Expression.identifiers : Expression → List Identifier
  | .identifier named => [named]
  | .receiver _ | .number _ _ | .string _ _ | .boolean _ _ | .other _ _ => []
  | .template _ parts _ => identifiersOfParts parts
  | .array elements _ => identifiersOfAll elements
  | .object members _ => identifiersOfMembers members
  | .parenthesized inner _ => inner.identifiers
  | .unary _ operand _ => operand.identifiers
  | .binary _ left right _ => left.identifiers ++ right.identifiers
  | .assignment _ place value _ => place.identifiers ++ value.identifiers
  | .member object _ _ _ => object.identifiers
  | .index object subscript _ => object.identifiers ++ subscript.identifiers
  | .call callee arguments _ _ => callee.identifiers ++ identifiersOfAll arguments

def identifiersOfAll : List Expression → List Identifier
  | [] => []
  | source :: others => source.identifiers ++ identifiersOfAll others

def TemplatePart.identifiers : TemplatePart → List Identifier
  | .mk source _ => source.identifiers

def identifiersOfParts : List TemplatePart → List Identifier
  | [] => []
  | part :: others => part.identifiers ++ identifiersOfParts others

def ObjectMember.identifiers : ObjectMember → List Identifier
  | .shorthand named => [named]
  | .property _ value _ => value.identifiers
  | .other _ _ => []

def identifiersOfMembers : List ObjectMember → List Identifier
  | [] => []
  | member :: others => member.identifiers ++ identifiersOfMembers others

end

mutual

/-- Whether an expression has no assignment anywhere. -/
def Expression.assignsNothing : Expression → Bool
  | .identifier _ | .receiver _ | .number _ _ | .string _ _ | .boolean _ _
  | .other _ _ => true
  | .template _ parts _ => partsAssignNothing parts
  | .array elements _ => allAssignNothing elements
  | .object members _ => membersAssignNothing members
  | .parenthesized inner _ => inner.assignsNothing
  | .unary _ operand _ => operand.assignsNothing
  | .binary _ left right _ => left.assignsNothing && right.assignsNothing
  | .assignment _ _ _ _ => false
  | .member object _ _ _ => object.assignsNothing
  | .index object subscript _ =>
      object.assignsNothing && subscript.assignsNothing
  | .call callee arguments _ _ =>
      callee.assignsNothing && allAssignNothing arguments

def allAssignNothing : List Expression → Bool
  | [] => true
  | source :: others => source.assignsNothing && allAssignNothing others

def TemplatePart.assignsNothing : TemplatePart → Bool
  | .mk source _ => source.assignsNothing

def partsAssignNothing : List TemplatePart → Bool
  | [] => true
  | part :: others => part.assignsNothing && partsAssignNothing others

def ObjectMember.assignsNothing : ObjectMember → Bool
  | .property _ value _ => value.assignsNothing
  | .shorthand _ | .other _ _ => true

def membersAssignNothing : List ObjectMember → Bool
  | [] => true
  | member :: others => member.assignsNothing && membersAssignNothing others

end

/-! ## Values -/

variable {Datum : Type} (interpretation : Interpretation Datum)
  (target : Target)

/-- The value of a string literal: that of the literal which templates write
for its text. -/
def stringMeaning (store : Store Datum) (text : String) : Datum :=
  (Template.Value.quoted text none).evaluate interpretation store

/-- The value of a variable.  In a resolver template the parameters are
properties of the arguments of the request. -/
def Identifier.meaning (store : Store Datum) (named : Identifier) : Datum :=
  if target = .appsync ∧ named.binding = .parameter then
    interpretation.property (interpretation.property (store "ctx") "arguments")
      (bareName named.name)
  else
    store (bareName named.name)

/-- The value of a key of an object. -/
def PropertyName.meaning (store : Store Datum) :
    PropertyName → Option Datum
  | .identifier named => some (interpretation.string named.name .double)
  | .string text _ => some (stringMeaning interpretation store text)
  | .number text _ => (numericLiteral? text).map interpretation.number
  | .computed _ _ | .privateName _ _ => none

mutual

/-- The value of an expression, unless it assigns something or has a construct
that templates cannot express. -/
def Expression.meaning (store : Store Datum) : Expression → Option Datum
  | .identifier named => some (named.meaning interpretation target store)
  | .receiver _ => some (store target.receiver)
  | .number text _ => (numericLiteral? text).map interpretation.number
  | .string text _ => some (stringMeaning interpretation store text)
  | .boolean truth _ => some (interpretation.boolean truth)
  | .template head parts _ =>
      (meaningOfParts store parts).map
        (interpretation.template (escapedText head))
  | .array elements _ => (meaningOfAll store elements).map interpretation.list
  | .object members _ =>
      (meaningOfMembers store members).map interpretation.map
  | .parenthesized inner _ => inner.meaning store
  | .unary operator operand _ =>
      (lowerUnaryOperator? operator).bind fun lowered =>
        (operand.meaning store).map (interpretation.unary lowered)
  | .binary operator left right _ =>
      (lowerBinaryOperator? operator).bind fun lowered =>
        (left.meaning store).bind fun left =>
          (right.meaning store).map (interpretation.binary lowered left)
  | .member object property _ _ =>
      (object.meaning store).map fun base =>
        interpretation.property base (bareName property.name)
  | .index object subscript _ =>
      (object.meaning store).bind fun base =>
        (subscript.meaning store).map (interpretation.index base)
  | .call (.identifier named) arguments _ _ =>
      match named.binding with
      | .helper _ exported _ =>
          if exported = Catalogue.rangeHelper then
            rangeMeaning store arguments
          else
            helperMeaning store (bareName exported) arguments
      | _ => none
  | .call (.member object property _ _) arguments _ _ =>
      (object.meaning store).bind fun base =>
        (meaningOfAll store arguments).map
          (interpretation.call base (bareName property.name))
  | .call _ _ _ _ | .assignment _ _ _ _ | .other _ _ => none

/-- The value of a range.  Only two arguments count. -/
def rangeMeaning (store : Store Datum) : List Expression → Option Datum
  | lowest :: highest :: _ =>
      (lowest.meaning store).bind fun lowest =>
        (highest.meaning store).map (interpretation.range lowest)
  | _ => none

/-- The value of a method of the first argument. -/
def helperMeaning (store : Store Datum) (method : String) :
    List Expression → Option Datum
  | receiver :: others =>
      (receiver.meaning store).bind fun base =>
        (meaningOfAll store others).map (interpretation.call base method)
  | [] => none

def meaningOfAll (store : Store Datum) : List Expression → Option (List Datum)
  | [] => some []
  | source :: others =>
      (source.meaning store).bind fun datum =>
        (meaningOfAll store others).map (datum :: ·)

def TemplatePart.meaning (store : Store Datum) :
    TemplatePart → Option (Datum × String)
  | .mk source literal =>
      (source.meaning store).map fun datum => (datum, escapedText literal)

def meaningOfParts (store : Store Datum) :
    List TemplatePart → Option (List (Datum × String))
  | [] => some []
  | part :: others =>
      (part.meaning store).bind fun datum =>
        (meaningOfParts store others).map (datum :: ·)

def ObjectMember.meaning (store : Store Datum) :
    ObjectMember → Option (Datum × Datum)
  | .shorthand named =>
      some (interpretation.string named.name .double,
        named.meaning interpretation target store)
  | .property key source _ =>
      (key.meaning interpretation store).bind fun name =>
        (source.meaning store).map fun datum => (name, datum)
  | .other _ _ => none

def meaningOfMembers (store : Store Datum) :
    List ObjectMember → Option (List (Datum × Datum))
  | [] => some []
  | member :: others =>
      (member.meaning store).bind fun entry =>
        (meaningOfMembers store others).map (entry :: ·)

end

end VelocityScript.Script
