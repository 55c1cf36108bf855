import VelocityScript.Template.Tree

/-!
# Checking templates

Every name of a template must be a valid identifier, and every temporary must
be set by a directive that stands before its first use.
-/

namespace VelocityScript.Template

/-- What is wrong with a name. -/
inductive Fault where
  | invalidIdentifier (name : String)
  | unassignedTemporary (name : String)
  deriving DecidableEq

namespace Fault

/-- The name of the class of a fault. -/
def code : Fault → String
  | .invalidIdentifier _ => "invalid-identifier"
  | .unassignedTemporary _ => "unassigned-temporary"

/-- The wording of a fault. -/
def message : Fault → String
  | .invalidIdentifier name =>
      "The identifier '" ++ name ++ "' is an invalid name for VTL"
  | .unassignedTemporary name =>
      "The temporary '" ++ name ++ "' is read before it is set"

end Fault

/-- A fault and the kinds of the directives around it, the outermost first. -/
structure Finding where
  fault : Fault
  trail : List Kind
  deriving DecidableEq

/-- The text before the number of a temporary. -/
def temporaryStem : String := "local_"

/-- The name of a temporary. -/
def temporaryName (number : Nat) : String :=
  temporaryStem ++ toString number

/-- Whether a name is that of a temporary: the stem and then only digits. -/
def isTemporary (name : String) : Bool :=
  temporaryStem.toList.isPrefixOf name.toList &&
    let number := name.toList.drop temporaryStem.length
    !number.isEmpty && number.all Char.isDigit

/-- What the check knows where it stands: the variables set so far and the
directives around. -/
structure CheckContext where
  assigned : List String
  trail : List Kind

namespace CheckContext

def checkName (context : CheckContext) (name : Identifier) : List Finding :=
  if isValidIdentifier name.text then
    []
  else
    [⟨.invalidIdentifier name.text, context.trail⟩]

def checkRead (context : CheckContext) (name : Identifier) : List Finding :=
  context.checkName name ++
    if isTemporary name.text && !context.assigned.contains name.text then
      [⟨.unassignedTemporary name.text, context.trail⟩]
    else
      []

def enter (context : CheckContext) (directive : Kind) : CheckContext :=
  { context with trail := context.trail ++ [directive] }

/-- The context after a variable is set. -/
def assign (context : CheckContext) (name : Identifier) : CheckContext :=
  { context with assigned := name.text :: context.assigned }

end CheckContext

mutual

def Path.check (context : CheckContext) : Path → List Finding
  | .name identifier => context.checkRead identifier
  | .property base member _ => base.check context ++ context.checkRead member
  | .index base subscript _ => base.check context ++ subscript.check context
  | .call base method _ arguments _ =>
      base.check context ++ context.checkRead method ++
        checkValues context arguments

def Value.check (context : CheckContext) : Value → List Finding
  | .reference path _ => path.check context
  | .number _ _ => []
  | .string _ _ _ => []
  | .template _ spans _ => checkSpans context spans
  | .boolean _ _ => []
  | .list elements _ => checkValues context elements
  | .range first last _ => first.check context ++ last.check context
  | .map entries _ => checkEntries context entries

def RangeBound.check (context : CheckContext) : RangeBound → List Finding
  | .number _ _ => []
  | .reference path _ => path.check context

def checkValues (context : CheckContext) : List Value → List Finding
  | [] => []
  | value :: others => value.check context ++ checkValues context others

/-- The findings in several interpolations. -/
def checkSpans (context : CheckContext) : List TemplateSpan → List Finding
  | [] => []
  | .mk value _ _ :: others => value.check context ++ checkSpans context others

def checkEntries (context : CheckContext) : List MapEntry → List Finding
  | [] => []
  | .mk name value _ :: others =>
      name.check context ++ value.check context ++ checkEntries context others

end

def Expression.check (context : CheckContext) : Expression → List Finding
  | .ofPath path => path.check context
  | .ofValue value => value.check context
  | .binary left _ right _ => left.check context ++ right.check context
  | .unary _ operand _ => operand.check context
  | .parenthesized inner _ => inner.check context

/-- The findings in the place of an assignment, and the variables set after
it. -/
def Place.check (context : CheckContext) :
    Place → List Finding × List String
  | .named target =>
      (context.checkName target.name, (context.assign target.name).assigned)
  | place => (place.reference.path.check context, context.assigned)

mutual

/-- The findings in an element, and the variables set after it.  The value of
an assignment comes before its place, and the iterable of a loop before its
variable. -/
def Element.check (context : CheckContext) :
    Element → List Finding × List String
  | .assign place value _ =>
      let inside := context.enter .setDirective
      let (found, assigned) := place.check inside
      (value.check inside ++ found, assigned)
  | .branch first others otherwise _ =>
      let inside := context.enter .ifDirective
      let (inFirst, assigned) := first.check inside
      let (inOthers, assigned) := checkClauses { inside with assigned } others
      let (inOtherwise, assigned) :=
        checkOtherwise { inside with assigned } otherwise
      (inFirst ++ inOthers ++ inOtherwise, assigned)
  | .loop item iterable body _ =>
      let inside := context.enter .foreachDirective
      let (inBody, assigned) := body.check (inside.assign item.name)
      (iterable.check inside ++ inside.checkName item.name ++ inBody, assigned)
  | .emit value => (value.check context, context.assigned)
  | .text _ _ => ([], context.assigned)
  | .newLine => ([], context.assigned)

def Block.check (context : CheckContext) :
    Block → List Finding × List String
  | .mk elements _ => checkElements context elements

/-- The findings in a condition and in the guarded block. -/
def Clause.check (context : CheckContext) :
    Clause → List Finding × List String
  | .mk condition body _ =>
      let (inBody, assigned) := body.check context
      (condition.check context ++ inBody, assigned)

def checkElements (context : CheckContext) :
    List Element → List Finding × List String
  | [] => ([], context.assigned)
  | element :: others =>
      let (inElement, assigned) := element.check context
      let (inOthers, assigned) := checkElements { context with assigned } others
      (inElement ++ inOthers, assigned)

def checkClauses (context : CheckContext) :
    List Clause → List Finding × List String
  | [] => ([], context.assigned)
  | clause :: others =>
      let (inClause, assigned) := clause.check context
      let (inOthers, assigned) := checkClauses { context with assigned } others
      (inClause ++ inOthers, assigned)

/-- The findings in the block that is taken when no condition holds. -/
def checkOtherwise (context : CheckContext) :
    Option Block → List Finding × List String
  | none => ([], context.assigned)
  | some block => block.check context

end

/-- The findings in a template, in the order in which it is read. -/
def File.check (file : File) : List Finding :=
  (file.block.check ⟨[], []⟩).1

end VelocityScript.Template
