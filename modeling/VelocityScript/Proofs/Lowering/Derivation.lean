import VelocityScript.Lowering.Expression

/-!
# Derivations of lowered expressions

A lowering that reports nothing is a tree of steps, each with a result.
`Derives` is that tree as an inductive relation: a rule has one premise for
every step that the lowering of its construct takes, and no rule lets a step
go without a result.  What holds of all successful lowerings is proved by
induction on derivations.
-/

namespace VelocityScript.Lowering

open Script

/-- What a step adds to the state besides temporaries: the preludes that it
needs, and the directives that it collects. -/
@[ext]
structure Effect where
  needsEscape : Bool := false
  needsStringClass : Bool := false
  hoisted : List Template.Element := []

namespace Effect

instance : EmptyCollection Effect := ⟨{}⟩

instance : Append Effect where
  append first second :=
    { needsEscape := first.needsEscape || second.needsEscape
      needsStringClass := first.needsStringClass || second.needsStringClass
      hoisted := first.hoisted ++ second.hoisted }

@[simp]
theorem empty_needsEscape : (∅ : Effect).needsEscape = false := rfl

@[simp]
theorem empty_needsStringClass : (∅ : Effect).needsStringClass = false := rfl

@[simp]
theorem empty_hoisted : (∅ : Effect).hoisted = [] := rfl

@[simp]
theorem append_needsEscape (first second : Effect) :
    (first ++ second).needsEscape =
      (first.needsEscape || second.needsEscape) := rfl

@[simp]
theorem append_needsStringClass (first second : Effect) :
    (first ++ second).needsStringClass =
      (first.needsStringClass || second.needsStringClass) := rfl

@[simp]
theorem append_hoisted (first second : Effect) :
    (first ++ second).hoisted = first.hoisted ++ second.hoisted := rfl

@[simp]
theorem empty_append (effect : Effect) : ∅ ++ effect = effect := by
  ext1 <;> simp

@[simp]
theorem append_empty (effect : Effect) : effect ++ ∅ = effect := by
  ext1 <;> simp

theorem append_assoc (first second third : Effect) :
    first ++ second ++ third = first ++ (second ++ third) := by
  ext1 <;> simp [Bool.or_assoc]

end Effect

/-- The state after a step that reports nothing. -/
def State.after (state : State) (temporaries : Nat) (effect : Effect) : State :=
  { temporaries
    needsEscape := state.needsEscape || effect.needsEscape
    needsStringClass := state.needsStringClass || effect.needsStringClass
    reports := state.reports
    hoisted := state.hoisted ++ effect.hoisted }

namespace State

variable (state : State) (temporaries later : Nat) (effect next : Effect)

@[simp]
theorem after_temporaries :
    (state.after temporaries effect).temporaries = temporaries := rfl

@[simp]
theorem after_reports :
    (state.after temporaries effect).reports = state.reports := rfl

@[simp]
theorem after_empty : state.after state.temporaries ∅ = state := by
  simp [after]

@[simp]
theorem after_after :
    (state.after temporaries effect).after later next =
      state.after later (effect ++ next) := by
  simp [after, Bool.or_assoc]

end State

def temporaryVariable (number : Nat) (origin : Template.Origin) :
    Template.Variable :=
  .ofIdentifier ⟨Template.temporaryName number, origin⟩

/-- What putting an expression into a temporary adds. -/
def hoisting (number : Nat) (expression : Template.Expression) : Effect :=
  { hoisted :=
      [.assign (.named (temporaryVariable number expression.origin)) expression
        expression.origin] }

/-- What the text of a template literal adds. -/
def escaping (text : String) : Effect :=
  { needsEscape := hasQuote text }

@[simp]
theorem escaping_hoisted (text : String) : (escaping text).hoisted = [] := rfl

/-- What a name adds by what it stands for. -/
def naming : Binding → Effect
  | .helper _ _ .stringUtility => { needsStringClass := true }
  | _ => ∅

@[simp]
theorem naming_hoisted (binding : Binding) : (naming binding).hoisted = [] := by
  unfold naming
  split <;> rfl

/-- The value of an assignment: that of its right side, combined with the old
value of its place or not. -/
def assignedValue (combined : Option Template.BinaryOperator)
    (place : Template.Place) (right : Template.Expression) (span : Span) :
    Template.Expression :=
  match combined with
  | none => right
  | some operator =>
      .binary (.ofValue place.reference.value) operator right (some span)

/-- What an assignment adds. -/
def assigning (combined : Option Template.BinaryOperator)
    (place : Template.Place) (right : Template.Expression) (span : Span) :
    Effect :=
  { hoisted :=
      [.assign place (assignedValue combined place right span) (some span)] }

/-- What an assignment operator combines with, if the template language has
it. -/
def combined? (operator : AssignmentOperator) :
    Option (Option Template.BinaryOperator) :=
  match combination operator with
  | .replace => some none
  | .combine combined => some (some combined)
  | .unsupported => none

/-- A step of the lowering of expressions that can give up. -/
inductive Task where
  | name (text : String) (span : Span)
  | identifier (identifier : Identifier)
  | number (text : String) (span : Span)
  | propertyName (key : PropertyName)
  | expression (source : Expression)
  | value (source : Expression)
  | path (source : Expression)
  | bound (side : BoundSide) (source : Expression)
  | values (sources : List Expression)
  | part (source : TemplatePart)
  | parts (sources : List TemplatePart)
  | member (source : ObjectMember)
  | members (sources : List ObjectMember)
  | range (span : Span) (arguments : List Expression)
  | helperCall (exported : String) (nameSpan span : Span)
      (arguments : List Expression)

namespace Task

/-- What a step results in. -/
@[reducible]
def Result : Task → Type
  | .name _ _ => Template.Identifier
  | .identifier _ | .expression _ | .range _ _ | .helperCall _ _ _ _ =>
      Template.Expression
  | .number _ _ | .propertyName _ | .value _ => Template.Value
  | .path _ => Template.Path
  | .bound _ _ => Template.RangeBound
  | .values _ => List Template.Value
  | .part _ => Template.TemplateSpan
  | .parts _ => List Template.TemplateSpan
  | .member _ => Template.MapEntry
  | .members _ => List Template.MapEntry

/-- The step as the lowering takes it. -/
def run (target : Target) : (task : Task) → Lower (Option task.Result)
  | .name text span => lowerName text span
  | .identifier named => lowerIdentifier target named
  | .number text span => lowerNumber text span
  | .propertyName key => lowerPropertyName key
  | .expression source => lowerExpression target source
  | .value source => lowerValue target source
  | .path source => do asPath (← lowerExpression target source)
  | .bound side source => do
      asBound side source.span (← lowerValue target source)
  | .values sources => lowerValues target sources
  | .part source => lowerPart target source
  | .parts sources => lowerParts target sources
  | .member source => lowerMember target source
  | .members sources => lowerMembers target sources
  | .range span arguments => lowerRange target span arguments
  | .helperCall exported nameSpan span arguments =>
      lowerHelperCall target exported nameSpan span arguments

end Task

/-- `Derives target task first result next effect` means that the step `task`,
taken when `first` temporaries exist, has the given result, leaves `next`
temporaries and adds `effect`. -/
inductive Derives (target : Target) :
    (task : Task) → Nat → task.Result → Nat → Effect → Prop
  | name {text : String} {span : Span} {first : Nat} :
      Template.isValidIdentifier text = true →
      Derives target (.name text span) first ⟨bareName text, some span⟩ first ∅
  | argument {named : Identifier} {first next : Nat}
      {name : Template.Identifier} {effect : Effect} :
      target = .appsync ∧ named.binding = .parameter →
      Derives target (.name named.name named.span) first name next effect →
      Derives target (.identifier named) first
        (.ofPath (.chain "ctx" ["arguments", name.text] (some named.span)))
        next effect
  | variableName {named : Identifier} {first next : Nat}
      {name : Template.Identifier} {effect : Effect} :
      ¬ (target = .appsync ∧ named.binding = .parameter) →
      Derives target (.name named.name named.span) first name next effect →
      Derives target (.identifier named) first (.ofPath (.name name)) next
        (naming named.binding ++ effect)
  | number {text : String} {span : Span} {first : Nat} {value : Double} :
      numericLiteral? text = some value →
      Derives target (.number text span) first (.number value (some span))
        first ∅
  | identifierKey {named : Identifier} {first : Nat} :
      Derives target (.propertyName (.identifier named)) first
        (.string named.name .double (some named.span)) first ∅
  | stringKey {text : String} {span : Span} {first : Nat} :
      Derives target (.propertyName (.string text span)) first
        (.quoted text (some span)) first ∅
  | numberKey {text : String} {span : Span} {first next : Nat}
      {value : Template.Value} {effect : Effect} :
      Derives target (.number text span) first value next effect →
      Derives target (.propertyName (.number text span)) first value next effect
  | identifier {named : Identifier} {first next : Nat}
      {result : Template.Expression} {effect : Effect} :
      Derives target (.identifier named) first result next effect →
      Derives target (.expression (.identifier named)) first result next effect
  | receiver {span : Span} {first : Nat} :
      Derives target (.expression (.receiver span)) first
        (.ofPath (.name ⟨target.receiver, some span⟩)) first ∅
  | numeral {text : String} {span : Span} {first next : Nat}
      {value : Template.Value} {effect : Effect} :
      Derives target (.number text span) first value next effect →
      Derives target (.expression (.number text span)) first (.ofValue value)
        next effect
  | string {text : String} {span : Span} {first : Nat} :
      Derives target (.expression (.string text span)) first
        (.ofValue (.quoted text (some span))) first ∅
  | boolean {truth : Bool} {span : Span} {first : Nat} :
      Derives target (.expression (.boolean truth span)) first
        (.ofValue (.boolean truth (some span))) first ∅
  | template {head : String} {parts : List TemplatePart} {span : Span}
      {first next : Nat} {spans : List Template.TemplateSpan} {effect : Effect} :
      Derives target (.parts parts) first spans next effect →
      Derives target (.expression (.template head parts span)) first
        (.ofValue (.template (escapedText head) spans (some span))) next
        (escaping head ++ effect)
  | array {elements : List Expression} {span : Span} {first next : Nat}
      {values : List Template.Value} {effect : Effect} :
      Derives target (.values elements) first values next effect →
      Derives target (.expression (.array elements span)) first
        (.ofValue (.list values (some span))) next effect
  | object {members : List ObjectMember} {span : Span} {first next : Nat}
      {entries : List Template.MapEntry} {effect : Effect} :
      Derives target (.members members) first entries next effect →
      Derives target (.expression (.object members span)) first
        (.ofValue (.map entries (some span))) next effect
  | parenthesized {inner : Expression} {span : Span} {first next : Nat}
      {result : Template.Expression} {effect : Effect} :
      Derives target (.expression inner) first result next effect →
      Derives target (.expression (.parenthesized inner span)) first
        (.parenthesized result.interpolated (some span)) next effect
  | unary {operator : UnaryOperator} {lowered : Template.UnaryOperator}
      {operand : Expression} {span : Span} {first next : Nat}
      {result : Template.Expression} {effect : Effect} :
      lowerUnaryOperator? operator = some lowered →
      Derives target (.expression operand) first result next effect →
      Derives target (.expression (.unary operator operand span)) first
        (.unary lowered result.interpolated (some span)) next effect
  | binary {operator : BinaryOperator} {lowered : Template.BinaryOperator}
      {left right : Expression} {span : Span} {first middle next : Nat}
      {leftResult rightResult : Template.Expression} {before after : Effect} :
      lowerBinaryOperator? operator = some lowered →
      Derives target (.expression left) first leftResult middle before →
      Derives target (.expression right) middle rightResult next after →
      Derives target (.expression (.binary operator left right span)) first
        (.binary leftResult.interpolated lowered rightResult.interpolated
          (some span))
        next (before ++ after)
  | assignment {operator : AssignmentOperator}
      {combined : Option Template.BinaryOperator} {place value : Expression}
      {span : Span} {first middle next : Nat}
      {left right : Template.Expression} {placed : Template.Place}
      {before after : Effect} :
      combined? operator = some combined →
      Derives target (.expression place) first left middle before →
      Derives target (.expression value) middle right next after →
      left.reference?.bind Template.Reference.place? = some placed →
      Derives target (.expression (.assignment operator place value span)) first
        (.ofValue placed.reference.value) next
        (before ++ after ++ assigning combined placed right.interpolated span)
  | access {object : Expression} {property : Identifier} {span : Span}
      {first middle next : Nat} {base : Template.Path}
      {name : Template.Identifier} {before after : Effect} :
      Derives target (.path object) first base middle before →
      Derives target (.name property.name property.span) middle name next
        after →
      Derives target (.expression (.member object property false span)) first
        (.ofPath (.property base name (some span))) next (before ++ after)
  | index {object subscript : Expression} {span : Span}
      {first middle next : Nat} {base : Template.Path}
      {value : Template.Value} {before after : Effect} :
      Derives target (.path object) first base middle before →
      Derives target (.value subscript) middle value next after →
      Derives target (.expression (.index object subscript span)) first
        (.ofPath (.index base value (some span))) next (before ++ after)
  | rangeCall {callee : Expression} {arguments : List Expression}
      {returns : ReturnKind} {nameSpan span : Span} {first next : Nat}
      {result : Template.Expression} {effect : Effect} :
      calleeForm callee = .helper Catalogue.rangeHelper nameSpan →
      Derives target (.range span arguments) first result next effect →
      Derives target (.expression (.call callee arguments returns span)) first
        result next effect
  | call {callee : Expression} {arguments : List Expression}
      {returns : ReturnKind} {exported : String} {nameSpan span : Span}
      {first next : Nat} {result : Template.Expression} {effect : Effect} :
      calleeForm callee = .helper exported nameSpan →
      exported ≠ Catalogue.rangeHelper →
      Derives target (.helperCall exported nameSpan span arguments) first result
        next effect →
      Derives target (.expression (.call callee arguments returns span)) first
        result next effect
  | methodCall {object : Expression} {property : Identifier}
      {arguments : List Expression} {returns : ReturnKind}
      {accessSpan span : Span} {first second third next : Nat}
      {base : Template.Path} {name : Template.Identifier}
      {values : List Template.Value} {before between after : Effect} :
      Derives target (.path object) first base second before →
      Derives target (.name property.name property.span) second name third
        between →
      Derives target (.values arguments) third values next after →
      Derives target
        (.expression
          (.call (.member object property false accessSpan) arguments returns
            span))
        first (.ofPath (.call base name (some accessSpan) values (some span)))
        next (before ++ between ++ after)
  | kept {source : Expression} {first next : Nat}
      {result : Template.Expression} {value : Template.Value}
      {effect : Effect} :
      Derives target (.expression source) first result next effect →
      result.value? = some value →
      Derives target (.value source) first value next effect
  | hoisted {source : Expression} {first next : Nat}
      {result : Template.Expression} {effect : Effect} :
      Derives target (.expression source) first result next effect →
      result.value? = none →
      Derives target (.value source) first
        (temporaryVariable next result.origin).reference.value (next + 1)
        (effect ++ hoisting next result)
  | keptPath {source : Expression} {first next : Nat}
      {result : Template.Expression} {path : Template.Path}
      {effect : Effect} :
      Derives target (.expression source) first result next effect →
      result.path? = some path →
      Derives target (.path source) first path next effect
  | hoistedPath {source : Expression} {first next : Nat}
      {result : Template.Expression} {effect : Effect} :
      Derives target (.expression source) first result next effect →
      result.path? = none →
      Derives target (.path source) first
        (.name (temporaryVariable next result.origin).name) (next + 1)
        (effect ++ hoisting next result)
  | numberBound {side : BoundSide} {source : Expression} {first next : Nat}
      {value : Double} {origin : Template.Origin} {effect : Effect} :
      Derives target (.value source) first (.number value origin) next effect →
      Derives target (.bound side source) first (.number value origin) next
        effect
  | referenceBound {side : BoundSide} {source : Expression} {first next : Nat}
      {path : Template.Path} {origin : Template.Origin} {effect : Effect} :
      Derives target (.value source) first (.reference path origin) next
        effect →
      Derives target (.bound side source) first (.reference path origin) next
        effect
  | noValues {first : Nat} : Derives target (.values []) first [] first ∅
  | moreValues {source : Expression} {others : List Expression}
      {first middle next : Nat} {value : Template.Value}
      {values : List Template.Value} {before after : Effect} :
      Derives target (.value source) first value middle before →
      Derives target (.values others) middle values next after →
      Derives target (.values (source :: others)) first (value :: values) next
        (before ++ after)
  | part {source : Expression} {literal : String} {first next : Nat}
      {value : Template.Value} {effect : Effect} :
      Derives target (.value source) first value next effect →
      Derives target (.part (.mk source literal)) first
        (.mk value (escapedText literal) (some source.span)) next
        (effect ++ escaping literal)
  | noParts {first : Nat} : Derives target (.parts []) first [] first ∅
  | moreParts {part : TemplatePart} {others : List TemplatePart}
      {first middle next : Nat} {span : Template.TemplateSpan}
      {spans : List Template.TemplateSpan} {before after : Effect} :
      Derives target (.part part) first span middle before →
      Derives target (.parts others) middle spans next after →
      Derives target (.parts (part :: others)) first (span :: spans) next
        (before ++ after)
  | shorthand {named : Identifier} {first next : Nat}
      {path : Template.Path} {effect : Effect} :
      Derives target (.identifier named) first (.ofPath path) next effect →
      Derives target (.member (.shorthand named)) first
        (.mk (.string named.name .double (some named.span))
          (.reference path path.origin) (some named.span))
        next effect
  | property {key : PropertyName} {source : Expression} {span : Span}
      {first middle next : Nat} {name value : Template.Value}
      {before after : Effect} :
      Derives target (.propertyName key) first name middle before →
      Derives target (.value source) middle value next after →
      Derives target (.member (.property key source span)) first
        (.mk name value (some span)) next (before ++ after)
  | noMembers {first : Nat} : Derives target (.members []) first [] first ∅
  | moreMembers {member : ObjectMember} {others : List ObjectMember}
      {first middle next : Nat} {entry : Template.MapEntry}
      {entries : List Template.MapEntry} {before after : Effect} :
      Derives target (.member member) first entry middle before →
      Derives target (.members others) middle entries next after →
      Derives target (.members (member :: others)) first (entry :: entries) next
        (before ++ after)
  | range {lowest highest : Expression} {others : List Expression}
      {span : Span} {first middle next : Nat}
      {lower upper : Template.RangeBound} {before after : Effect} :
      Derives target (.bound .first lowest) first lower middle before →
      Derives target (.bound .last highest) middle upper next after →
      Derives target (.range span (lowest :: highest :: others)) first
        (.ofValue (.range lower upper (some span))) next (before ++ after)
  | helperCall {exported : String} {nameSpan span : Span}
      {receiver : Expression} {others : List Expression}
      {first second third next : Nat} {base : Template.Path}
      {name : Template.Identifier} {values : List Template.Value}
      {before between after : Effect} :
      Derives target (.path receiver) first base second before →
      Derives target (.name exported nameSpan) second name third between →
      Derives target (.values others) third values next after →
      Derives target (.helperCall exported nameSpan span (receiver :: others))
        first (.ofPath (.call base name (some nameSpan) values (some span)))
        next (before ++ between ++ after)

theorem exists_binding_of_helper {callee : Expression} {exported : String}
    {span : Span} (called : calleeForm callee = .helper exported span) :
    ∃ named moduleName kind, callee = .identifier named ∧
      named.binding = .helper moduleName exported kind := by
  cases callee with
  | identifier named =>
      simp only [calleeForm] at called
      split at called
      · next moduleName found kind bound =>
          cases called
          exact ⟨named, moduleName, kind, rfl, bound⟩
      · cases called
  | _ => cases called

theorem Derives.name_inversion {target : Target} {text : String} {span : Span}
    {first next : Nat} {name : Template.Identifier} {effect : Effect}
    (derived : Derives target (.name text span) first name next effect) :
    Template.isValidIdentifier text = true ∧
      name = ⟨bareName text, some span⟩ ∧ next = first ∧ effect = ∅ := by
  cases derived with
  | name valid => exact ⟨valid, rfl, rfl, rfl⟩

end VelocityScript.Lowering
