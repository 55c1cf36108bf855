import VelocityScript.Lowering.Complaint
import VelocityScript.Template.Check
import VelocityScript.Template.Tree

/-!
# The state of a lowering

Lowering a function counts the temporaries it makes, remembers which preludes
the template needs, collects reports, and collects the directives that have to
run before the expression at hand.
-/

namespace VelocityScript

/-- The service that a template is written for. -/
inductive Target where
  | appsync
  | apigateway
  deriving DecidableEq

namespace Target

/-- The name of a target. -/
def text : Target → String
  | .appsync => "appsync"
  | .apigateway => "apigateway"

def ofText? (name : String) : Option Target :=
  [Target.appsync, Target.apigateway].find? (·.text == name)

/-- The variable that the receiver of a function stands for. -/
def receiver : Target → String
  | .appsync => "ctx"
  | .apigateway => "context"

end Target

namespace Lowering

/-- The state of the lowering of one function. -/
structure State where
  temporaries : Nat := 0
  needsEscape : Bool := false
  needsStringClass : Bool := false
  reports : List Report := []
  hoisted : List Template.Element := []

/-- A step of a lowering. -/
abbrev Lower := StateM State

/-- Reports a complaint. -/
def note (complaint : Complaint) (span : Span) : Lower Unit :=
  modify fun state =>
    { state with reports := state.reports ++ [⟨complaint, span⟩] }

/-- Reports a complaint and gives up. -/
def giveUp {Result : Type} (complaint : Complaint) (span : Span) :
    Lower (Option Result) := do
  note complaint span
  return none

/-- Adds a directive to those that run before the expression at hand. -/
def emit (element : Template.Element) : Lower Unit :=
  modify fun state => { state with hoisted := state.hoisted ++ [element] }

/-- Runs a step with no directives collected yet, and gives those it
collects. -/
def collecting {Result : Type} (step : Lower Result) :
    Lower (Result × List Template.Element) := do
  let outer := (← get).hoisted
  modify fun state => { state with hoisted := [] }
  let result ← step
  let inner := (← get).hoisted
  modify fun state => { state with hoisted := outer }
  return (result, inner)

/-- A variable that nothing else uses. -/
def temporary (origin : Template.Origin) : Lower Template.Variable := do
  let number := (← get).temporaries
  modify fun state => { state with temporaries := number + 1 }
  return .ofIdentifier ⟨Template.temporaryName number, origin⟩

/-- Puts the value of an expression into a temporary. -/
def hoist (expression : Template.Expression) : Lower Template.Variable := do
  let origin := expression.origin
  let variableName ← temporary origin
  emit (.assign (.named variableName) expression origin)
  return variableName

/-- A lowered expression where a literal or a reference is needed. -/
def asValue (lowered : Option Template.Expression) :
    Lower (Option Template.Value) := do
  match lowered with
  | none => return none
  | some expression =>
      match expression.value? with
      | some value => return some value
      | none => return some (← hoist expression).reference.value

def asPath (lowered : Option Template.Expression) :
    Lower (Option Template.Path) := do
  match lowered with
  | none => return none
  | some expression =>
      match expression.path? with
      | some path => return some path
      | none => return some (.name (← hoist expression).name)

/-- A lowered value where the end of a range is needed. -/
def asBound (side : BoundSide) (span : Span) (lowered : Option Template.Value) :
    Lower (Option Template.RangeBound) := do
  match lowered with
  | none => return none
  | some (.number value origin) => return some (.number value origin)
  | some (.reference path origin) => return some (.reference path origin)
  | some _ => giveUp (.invalidBound side) span

/-- A name without a leading `$`. -/
def bareName (name : String) : String :=
  String.ofList
    (match name.toList with
      | '$' :: rest => rest
      | characters => characters)

/-- The name in a template of a name in a script.  A leading `$` is dropped. -/
def lowerName (name : String) (span : Span) :
    Lower (Option Template.Identifier) := do
  if Template.isValidIdentifier name then
    return some ⟨bareName name, some span⟩
  else
    giveUp (.invalidIdentifier name) span

def hasQuote (text : String) : Bool :=
  text.toList.contains '"'

/-- A text in which every quote is taken from the escape map. -/
def escapedText (text : String) : String :=
  String.ofList
    (text.toList.flatMap fun character =>
      if character = '"' then "$\x7besc.q\x7d".toList else [character])

/-- Template text in which a quote cannot end the literal: it is taken from
the escape map. -/
def escapeQuotes (text : String) : Lower String := do
  if hasQuote text then
    modify fun state => { state with needsEscape := true }
    return escapedText text
  else
    return text

end Lowering

end VelocityScript
