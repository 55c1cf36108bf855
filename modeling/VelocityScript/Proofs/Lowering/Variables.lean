import VelocityScript.Proofs.Lowering.Location
import VelocityScript.Proofs.Lowering.Provenance
import VelocityScript.Proofs.Lowering.Reach

/-!
# The variables of a derivation

The variables in the elements of a derivation are those of what it reaches and
the temporaries that it makes, and no others.  The preludes that it asks for are
those that its texts and names need.
-/

namespace VelocityScript.Template

/-- Collects the variables that are read or set. -/
def Visitor.variables : Visitor String where
  read name := [name]
  assigned name := [name]

theorem Visitor.variables_assigned (name : String) :
    Visitor.variables.assigned name = [name] := rfl

theorem variables_valueless (value : Value) :
    Visitor.variables.value value = [] := rfl

theorem Place.visit_variables (place : Place) :
    place.visit .variables = place.reference.path.visit .variables := by
  cases place <;> rfl

end VelocityScript.Template

namespace VelocityScript.Lowering

open Script

/-- Whether an expression is a call whose result goes unused when the
expression stands as a statement. -/
def dropsResult : Expression → Bool
  | .call _ _ returns _ => returns != .nothing
  | _ => false

/-- The variable that takes part in dropping the result of a call. -/
def sink : Target → String
  | .appsync => "util"
  | .apigateway => "discard"

/-- The variables that a template has for what its lowering reaches. -/
def variablesOf (target : Target) (reach : Reach) : List String :=
  (reach.mentioned.map fun named => (location target named.toVariable).root) ++
    (reach.receivers.map fun _ => target.receiver) ++
    (reach.declared.map fun named => bareName named.name) ++
    (reach.evaluated.filter dropsResult).map fun _ => sink target

theorem mem_variablesOf_append {target : Target} {first second : Reach}
    {name : String} :
    name ∈ variablesOf target (first ++ second) ↔
      name ∈ variablesOf target first ∨ name ∈ variablesOf target second := by
  simp only [variablesOf, Reach.append_mentioned, Reach.append_receivers,
    Reach.append_declared, Reach.append_evaluated, List.map_append,
    List.filter_append, List.mem_append]
  grind

/-- A name is that of a temporary made between two numbers. -/
def IsMade (first next : Nat) (name : String) : Prop :=
  ∃ number, first ≤ number ∧ number < next ∧
    name = Template.temporaryName number

theorem not_isMade_self {number : Nat} {name : String} :
    ¬ IsMade number number name := by
  rintro ⟨found, low, high, -⟩
  omega

theorem isMade_iff {first middle next : Nat} (before : first ≤ middle)
    (after : middle ≤ next) {name : String} :
    IsMade first next name ↔
      IsMade first middle name ∨ IsMade middle next name := by
  constructor
  · rintro ⟨number, low, high, named⟩
    rcases Nat.lt_or_ge number middle with earlier | later
    · exact .inl ⟨number, low, earlier, named⟩
    · exact .inr ⟨number, later, high, named⟩
  · rintro (⟨number, low, high, named⟩ | ⟨number, low, high, named⟩)
    · exact ⟨number, low, Nat.lt_of_lt_of_le high after, named⟩
    · exact ⟨number, Nat.le_trans before low, high, named⟩

theorem isMade_succ {number : Nat} {name : String} :
    IsMade number (number + 1) name ↔ name = Template.temporaryName number := by
  constructor
  · rintro ⟨found, low, high, named⟩
    have same : found = number := by omega
    rw [named, same]
  · intro named
    exact ⟨number, Nat.le_refl number, Nat.lt_succ_self number, named⟩

/-- The variables in the directives of a step and in its result are those of
what it reaches, and the temporaries it makes. -/
structure Shows (target : Target) (reach : Reach) (first next : Nat)
    (directives : List Template.Element) (found : List String) : Prop where
  counted : first ≤ next
  exact : ∀ name,
    name ∈ Template.visitElements .variables directives ∨ name ∈ found ↔
      IsMade first next name ∨ name ∈ variablesOf target reach

namespace Shows

variable {target : Target} {reach before after : Reach}
variable {first middle next : Nat}
variable {directives earlier later : List Template.Element}
variable {found other left right : List String}

/-- A step without directives and temporaries. -/
theorem alone (shown : ∀ name, name ∈ found ↔ name ∈ variablesOf target reach) :
    Shows target reach first first [] found where
  counted := Nat.le_refl first
  exact name := by
    simp [Template.visitElements, shown, not_isMade_self]

theorem append (leftShown : Shows target before first middle earlier left)
    (rightShown : Shows target after middle next later right) :
    Shows target (before ++ after) first next (earlier ++ later)
      (left ++ right) where
  counted := Nat.le_trans leftShown.counted rightShown.counted
  exact name := by
    have inLeft := leftShown.exact name
    have inRight := rightShown.exact name
    rw [Template.visitElements_append, List.mem_append, List.mem_append,
      mem_variablesOf_append, isMade_iff leftShown.counted rightShown.counted]
    grind

/-- The same variables, found in another way. -/
theorem congr (shown : Shows target reach first next directives found)
    (same : ∀ name, name ∈ Template.visitElements .variables later ∨ name ∈ other ↔
      name ∈ Template.visitElements .variables directives ∨ name ∈ found) :
    Shows target reach first next later other where
  counted := shown.counted
  exact name := (same name).trans (shown.exact name)

/-- One more temporary takes the value of an expression. -/
theorem hoisting {expression : Template.Expression}
    (shown : Shows target reach first next directives
      (expression.visit .variables)) :
    Shows target reach first (next + 1)
      (directives ++ (Lowering.hoisting next expression).hoisted)
      [Template.temporaryName next] where
  counted := Nat.le_succ_of_le shown.counted
  exact name := by
    have inside := shown.exact name
    rw [isMade_iff shown.counted (Nat.le_succ next), isMade_succ,
      Template.visitElements_append, List.mem_append, List.mem_singleton]
    simp only [Lowering.hoisting, Template.visitElements_singleton,
      Template.Element.visit, Template.Place.visit,
      Template.Visitor.variables_assigned, temporaryVariable,
      Template.Variable.ofIdentifier, List.mem_append, List.mem_singleton]
    grind

/-- Something else is reached, for which the template has the same
variables. -/
theorem reaching (shown : Shows target reach first next directives found)
    (same : variablesOf target after = variablesOf target reach) :
    Shows target after first next directives found where
  counted := shown.counted
  exact name := by rw [same, shown.exact name]

/-- One more directive assigns the right side to the left side. -/
theorem assigning {place : Template.Place} {value : Template.Expression}
    (shown : Shows target reach first next directives
      (place.reference.path.visit .variables ++ value.visit .variables))
    (combined : Option Template.BinaryOperator) (span : Span) :
    Shows target reach first next
      (directives ++ (Lowering.assigning combined place value span).hoisted)
      (place.reference.path.visit .variables) := by
  refine shown.congr fun name => ?_
  simp only [Lowering.assigning, Template.visitElements_append,
    Template.visitElements_singleton, Template.Element.visit,
    Template.Place.visit_variables, List.mem_append]
  cases combined with
  | none =>
      simp only [assignedValue]
      grind
  | some operator =>
      simp only [assignedValue, Template.Expression.visit, Template.Value.visit,
        Template.Reference.value, Template.variables_valueless,
        List.nil_append, List.mem_append]
      grind

/-- The directives stand before other elements, as a result. -/
theorem placed (shown : Shows target reach first next directives found)
    {elements : List Template.Element}
    (same : ∀ name, name ∈ Template.visitElements .variables elements ↔
      name ∈ found) :
    Shows target reach first next []
      (Template.visitElements .variables (directives ++ elements)) := by
  refine shown.congr fun name => ?_
  rw [Template.visitElements_append, List.mem_append, same]
  simp [Template.visitElements]

theorem spaced {elements : List Template.Element}
    (shown : Shows target reach first next directives
      (Template.visitElements .variables elements)) (placement : Placement) :
    Shows target reach first next directives
      (Template.visitElements .variables
        (blankLines placement ++ elements)) := by
  rw [Template.visitElements_append, visitElements_blankLines, List.nil_append]
  exact shown

end Shows

/-- What a step reaches. -/
def Task.reach : Task → Reach
  | .name _ _ | .number _ _ | .propertyName _ => ∅
  | .identifier named => { mentioned := [named] }
  | .expression source | .value source | .path source | .bound _ source =>
      source.reach
  | .values sources => reachOfAll sources
  | .part source => source.reach
  | .parts sources => reachOfParts sources
  | .member source => source.reach
  | .members sources => reachOfMembers sources
  | .range _ arguments => reachOfBounds arguments
  | .helperCall _ _ _ arguments => reachOfAll arguments

theorem Shows.silent {target : Target} {number : Nat} :
    Shows target ∅ number number [] [] :=
  .alone fun _ => Iff.rfl

theorem reach_of_helper {callee : Expression} {arguments : List Expression}
    {returns : ReturnKind} {exported : String} {nameSpan span : Span}
    (called : calleeForm callee = .helper exported nameSpan) :
    (Expression.call callee arguments returns span).reach =
      if exported = Catalogue.rangeHelper then reachOfBounds arguments
      else reachOfAll arguments := by
  simp only [Expression.reach, called]

/-- The variables of a derivation are those of what it reaches. -/
theorem Derives.shows {target : Target} {task : Task} {first next : Nat}
    {result : task.Result} {effect : Effect}
    (derived : Derives target task first result next effect) :
    Shows target task.reach first next effect.hoisted
      (task.visit .variables result) := by
  induction derived with
  | name valid => exact .silent
  | @argument named first next name effect bound derived shown =>
      obtain ⟨-, rfl, rfl, rfl⟩ := derived.name_inversion
      have located : location target named.toVariable =
          .argument (bareName named.name) := if_pos bound
      refine .alone fun name => ?_
      simp only [Task.reach, variablesOf, List.map_cons, located]
      exact Iff.rfl
  | @variableName named first next name effect free derived shown =>
      obtain ⟨-, rfl, rfl, rfl⟩ := derived.name_inversion
      have located : location target named.toVariable =
          .plain (bareName named.name) := if_neg free
      rw [Effect.append_empty, naming_hoisted]
      refine .alone fun name => ?_
      simp only [Task.reach, variablesOf, List.map_cons, located]
      exact Iff.rfl
  | number parsed => exact .silent
  | identifierKey => exact .silent
  | stringKey =>
      simp only [Task.visit, Template.visit_quoted Template.variables_valueless]
      exact .silent
  | numberKey parsed shown => exact shown
  | identifier named shown => exact shown
  | receiver => exact .alone fun _ => Iff.rfl
  | numeral parsed shown => exact shown
  | string =>
      simp only [Task.visit, Template.Expression.visit,
        Template.visit_quoted Template.variables_valueless]
      exact .silent
  | boolean => exact .silent
  | template parts shown => exact shown.reaching rfl
  | array values shown => exact shown
  | object members shown => exact shown
  | parenthesized inner shown =>
      simp only [Task.visit, Template.Expression.visit,
        Template.visit_interpolated Template.variables_valueless]
      exact shown
  | unary lowered operand shown =>
      simp only [Task.visit, Template.Expression.visit,
        Template.visit_interpolated Template.variables_valueless]
      exact shown
  | binary lowered left right leftShown rightShown =>
      simp only [Task.visit, Template.Expression.visit,
        Template.visit_interpolated Template.variables_valueless]
      exact leftShown.append rightShown
  | assignment combined left right placed leftShown rightShown =>
      obtain ⟨reference, referred, made⟩ := Option.bind_eq_some_iff.mp placed
      have read := Template.Reference.place?_eq_some_iff.mp made
      have both := leftShown.append rightShown
      simp only [Task.visit] at both
      rw [← Template.visit_of_reference? Template.variables_valueless referred,
        ← read,
        ← Template.visit_interpolated Template.variables_valueless] at both
      exact both.assigning _ _
  | access base name baseShown nameShown =>
      have both := baseShown.append nameShown
      rw [Task.reach, Reach.append_empty] at both
      exact both
  | index base value baseShown valueShown => exact baseShown.append valueShown
  | rangeCall called range shown =>
      rw [Task.reach, reach_of_helper called, if_pos rfl]
      exact shown
  | call called other helper shown =>
      rw [Task.reach, reach_of_helper called, if_neg other]
      exact shown
  | methodCall base name values baseShown nameShown valuesShown =>
      have both := (baseShown.append nameShown).append valuesShown
      rw [Task.reach, Reach.append_empty] at both
      exact both
  | kept inner found shown =>
      simp only [Task.visit, Template.visit_of_value? Template.variables_valueless found]
      exact shown
  | hoisted inner found shown => exact shown.hoisting
  | keptPath inner found shown =>
      simp only [Task.visit, Template.visit_of_path? found]
      exact shown
  | hoistedPath inner found shown => exact shown.hoisting
  | numberBound value shown => exact shown
  | referenceBound value shown => exact shown
  | noValues => exact .silent
  | moreValues value values valueShown valuesShown =>
      exact valueShown.append valuesShown
  | part value shown =>
      rw [Effect.append_hoisted, escaping_hoisted, List.append_nil]
      refine shown.reaching ?_
      simp [Task.reach, TemplatePart.reach, variablesOf]
  | noParts => exact .silent
  | moreParts part parts partShown partsShown => exact partShown.append partsShown
  | shorthand named shown => exact shown
  | property key value keyShown valueShown =>
      have both := keyShown.append valueShown
      rw [Task.reach, Reach.empty_append] at both
      exact both
  | noMembers => exact .silent
  | moreMembers member members memberShown membersShown =>
      exact memberShown.append membersShown
  | range lower upper lowerShown upperShown => exact lowerShown.append upperShown
  | helperCall base name values baseShown nameShown valuesShown =>
      have both := (baseShown.append nameShown).append valuesShown
      rw [Task.reach, Reach.append_empty] at both
      exact both

/-! ## Preludes and valid names -/

/-- Whether a name stands for the string class. -/
def isStringClass (named : Identifier) : Bool :=
  match named.binding with
  | .helper _ _ .stringUtility => true
  | _ => false

/-- The preludes that a step asks for are those that what it reaches needs, and
the names that it reaches are valid. -/
structure Asks (reach : Reach) (effect : Effect) : Prop where
  escape : effect.needsEscape = reach.texts.any hasQuote
  stringClass : effect.needsStringClass = reach.mentioned.any isStringClass
  valid : ∀ named ∈ reach.mentioned, Template.isValidIdentifier named.name = true

namespace Asks

variable {reach before after : Reach} {effect earlier later : Effect}

/-- A step that asks for no prelude and reaches no name. -/
theorem nothing (mentioned : reach.mentioned = []) (texts : reach.texts = []) :
    Asks reach ∅ where
  escape := by rw [texts]; rfl
  stringClass := by rw [mentioned]; rfl
  valid named member := by rw [mentioned] at member; cases member

theorem append (first : Asks before earlier) (second : Asks after later) :
    Asks (before ++ after) (earlier ++ later) where
  escape := by simp [first.escape, second.escape]
  stringClass := by simp [first.stringClass, second.stringClass]
  valid named member :=
    (List.mem_append.mp member).elim (first.valid named) (second.valid named)

theorem directives (asks : Asks reach effect) {added : Effect}
    (escape : added.needsEscape = false)
    (stringClass : added.needsStringClass = false) :
    Asks reach (effect ++ added) where
  escape := by simp [asks.escape, escape]
  stringClass := by simp [asks.stringClass, stringClass]
  valid := asks.valid

theorem collected (asks : Asks reach effect) : Asks reach effect.collected :=
  ⟨asks.escape, asks.stringClass, asks.valid⟩

theorem text (text : String) : Asks { texts := [text] } (escaping text) := by
  constructor <;> simp [escaping]

theorem mentioned {named : Identifier}
    (valid : Template.isValidIdentifier named.name = true) :
    Asks { mentioned := [named] } (naming named.binding) := by
  refine ⟨?_, ?_, List.forall_mem_singleton.mpr valid⟩
  · unfold naming
    split <;> rfl
  · simp only [List.any_cons, List.any_nil, Bool.or_false]
    unfold naming isStringClass
    split <;> simp_all

end Asks

theorem Derives.asks {target : Target} {task : Task} {first next : Nat}
    {result : task.Result} {effect : Effect}
    (derived : Derives target task first result next effect) :
    Asks task.reach effect := by
  induction derived with
  | name valid => exact .nothing rfl rfl
  | @argument named first next name effect bound derived asks =>
      have plain : naming named.binding = ∅ := by rw [bound.2]; rfl
      have both := (Asks.mentioned derived.name_inversion.1).append asks
      rw [plain, Task.reach, Reach.append_empty, Effect.empty_append] at both
      exact both
  | @variableName named first next name effect free derived asks =>
      have both := (Asks.mentioned derived.name_inversion.1).append asks
      rw [Task.reach, Reach.append_empty] at both
      exact both
  | number parsed => exact .nothing rfl rfl
  | identifierKey => exact .nothing rfl rfl
  | stringKey => exact .nothing rfl rfl
  | numberKey parsed asks => exact asks
  | identifier named asks => exact asks
  | receiver => exact .nothing rfl rfl
  | numeral parsed asks => exact asks
  | string => exact .nothing rfl rfl
  | boolean => exact .nothing rfl rfl
  | template parts asks => exact (Asks.text _).append asks
  | array values asks => exact asks
  | object members asks => exact asks
  | parenthesized inner asks => exact asks
  | unary lowered operand asks => exact asks
  | binary lowered left right leftAsks rightAsks =>
      exact leftAsks.append rightAsks
  | assignment combined left right placed leftAsks rightAsks =>
      exact (leftAsks.append rightAsks).directives rfl rfl
  | access base name baseAsks nameAsks =>
      have both := baseAsks.append nameAsks
      rw [Task.reach, Reach.append_empty] at both
      exact both
  | index base value baseAsks valueAsks => exact baseAsks.append valueAsks
  | rangeCall called range asks =>
      rw [Task.reach, reach_of_helper called, if_pos rfl]
      exact asks
  | call called other helper asks =>
      rw [Task.reach, reach_of_helper called, if_neg other]
      exact asks
  | methodCall base name values baseAsks nameAsks valuesAsk =>
      have both := (baseAsks.append nameAsks).append valuesAsk
      rw [Task.reach, Reach.append_empty] at both
      exact both
  | kept inner found asks => exact asks
  | hoisted inner found asks => exact asks.directives rfl rfl
  | keptPath inner found asks => exact asks
  | hoistedPath inner found asks => exact asks.directives rfl rfl
  | numberBound value asks => exact asks
  | referenceBound value asks => exact asks
  | noValues => exact .nothing rfl rfl
  | moreValues value values valueAsks valuesAsk => exact valueAsks.append valuesAsk
  | part value asks => exact asks.append (Asks.text _)
  | noParts => exact .nothing rfl rfl
  | moreParts part parts partAsks partsAsk => exact partAsks.append partsAsk
  | shorthand named asks => exact asks
  | property key value keyAsks valueAsks =>
      have both := keyAsks.append valueAsks
      rw [Task.reach, Reach.empty_append] at both
      exact both
  | noMembers => exact .nothing rfl rfl
  | moreMembers member members memberAsks membersAsk =>
      exact memberAsks.append membersAsk
  | range lower upper lowerAsks upperAsks => exact lowerAsks.append upperAsks
  | helperCall base name values baseAsks nameAsks valuesAsk =>
      have both := (baseAsks.append nameAsks).append valuesAsk
      rw [Task.reach, Reach.append_empty] at both
      exact both

/-! ## Statements -/

/-- What a step reaches. -/
def Passage.reach : Passage → Reach
  | .evaluation source => { evaluated := [source] } ++ source.reach
  | .result returned => reachOfOption returned
  | .declaration declared => declared.reach
  | .declarations declared => reachOfDeclarations declared
  | .loopPattern pattern => { declared := pattern.identifiers }
  | .branch condition consequent rest =>
      condition.reach ++ consequent.reach ++ reachOfAlternative rest
  | .alternative source => reachOfAlternative source
  | .statement source => source.reach
  | .statements sources => reachOfStatements sources

/-- A result is dropped exactly where a call that returns something stands as a
statement. -/
theorem Derives.drops_iff {target : Target} {source : Expression}
    {first next : Nat} {result : Template.Expression}
    {reference : Template.Reference} {effect : Effect}
    (alone : standsAlone source = true)
    (derived : Derives target (.expression source) first result next effect)
    (referred : result.reference? = some reference) :
    (isCall reference && !returnsNothing source) = dropsResult source := by
  cases derived with
  | identifier named =>
      cases named <;> cases referred <;> rfl
  | receiver => cases referred; rfl
  | numeral parsed =>
      cases parsed
      cases referred
  | string =>
      unfold Template.Value.quoted at referred
      split at referred <;> cases referred
  | assignment _ _ _ _ => cases alone
  | access _ _ => cases referred; rfl
  | index _ _ => cases referred; rfl
  | rangeCall _ range =>
      cases range
      cases referred
  | @call callee arguments returns _ _ span _ _ _ _ _ _ helper =>
      cases helper
      cases referred
      cases returns <;> rfl
  | @methodCall _ _ _ returns _ _ _ _ _ _ _ _ _ _ _ _ _ _ _ =>
      cases referred
      cases returns <;> rfl
  | _ => cases referred

theorem visit_discardCall (target : Target) (reference : Template.Reference) :
    Template.visitElements .variables (discardCall target reference) =
      sink target :: reference.path.visit .variables := by
  cases target with
  | appsync =>
      simp [discardCall, Template.visitElements, Template.Element.visit,
        Template.Value.visit, Template.Path.visit, Template.visitValues,
        Template.Reference.value, Template.Visitor.variables, sink]
  | apigateway =>
      simp [discardCall, Template.visitElements, Template.Element.visit,
        Template.Place.visit, Template.Expression.visit, Template.Value.visit,
        Template.Reference.value, Template.Visitor.variables, sink]

namespace Shows

variable {target : Target} {reach : Reach} {first next : Nat}
variable {directives : List Template.Element} {found : List String}

/-- An expression that stands as a statement, and drops no result. -/
theorem evaluated {source : Expression}
    (shown : Shows target reach first next directives found)
    (kept : dropsResult source = false) :
    Shows target ({ evaluated := [source] } ++ reach) first next directives
      found := by
  refine shown.reaching ?_
  simp [variablesOf, kept]

/-- The elements of a reference that stands as a statement. -/
theorem standalone {source : Expression} {reference : Template.Reference}
    (shown : Shows target reach first next directives
      (reference.path.visit .variables))
    (drops : (isCall reference && !returnsNothing source) =
      dropsResult source) :
    Shows target ({ evaluated := [source] } ++ reach) first next []
      (Template.visitElements .variables
        (directives ++ Lowering.standalone target source reference)) := by
  unfold Lowering.standalone
  rw [drops]
  split
  · next dropped =>
      have sunk : Shows target { evaluated := [source] } first first []
          [sink target] :=
        .alone fun name => by simp [variablesOf, dropped]
      refine (sunk.append shown).placed fun name => ?_
      rw [visit_discardCall]
      rfl
  · next kept =>
      refine (shown.evaluated (by simpa using kept)).placed
        fun name => ?_
      rw [← List.append_nil (reference.path.visit _)]
      rfl

/-- A name that is declared is set. -/
theorem declared {named : Identifier} {value : Template.Expression}
    (shown : Shows target reach first next directives (value.visit .variables))
    (origin nameOrigin : Template.Origin) :
    Shows target ({ declared := [named] } ++ reach) first next []
      (Template.visitElements .variables
        (directives ++
          [.assign (.named (.ofIdentifier ⟨bareName named.name, nameOrigin⟩))
            value.interpolated origin])) := by
  have set : Shows target { declared := [named] } first first []
      [bareName named.name] := .alone fun _ => Iff.rfl
  refine (set.append shown).placed fun name => ?_
  rw [Template.visitElements_singleton, Template.Element.visit,
    Template.visit_interpolated Template.variables_valueless]
  rfl

end Shows

theorem identifiers_of_entryNames? {elements : List BindingElement}
    {span : Span} {key value : Identifier}
    (named : entryNames? elements = some (key, value)) :
    (BindingName.array elements span).identifiers = [key, value] := by
  rw [eq_of_entryNames? named]
  rfl

/-- The variables in a derivation of statements are those of what it reaches. -/
theorem Yields.shows {target : Target} {passage : Passage} {first next : Nat}
    {result : passage.Result} {effect : Effect}
    (yielded : Yields target passage first result next effect) :
    Shows target passage.reach first next effect.hoisted
      (passage.visit .variables result) := by
  induction yielded with
  | @assignment operator place value span _ _ _ _ derived =>
      have kept : dropsResult (.assignment operator place value span) = false :=
        rfl
      refine (derived.shows.evaluated kept).congr fun name => ?_
      cases derived with
      | assignment combined left right placed =>
          -- The last directive sets what the assignment stands for.
          simp only [Passage.visit, Task.visit, Effect.collected_hoisted,
            Effect.append_hoisted, Lowering.assigning, Template.visitElements,
            Template.visitElements_append, Template.Element.visit,
            Template.Place.visit_variables, Template.Expression.visit,
            Template.Value.visit, Template.Reference.value,
            Template.variables_valueless, List.nil_append, List.append_nil,
            List.mem_append, List.not_mem_nil, false_or]
          grind
  | standalone alone derived referred =>
      have shown := derived.shows
      simp only [Task.visit,
        ← Template.visit_of_reference? Template.variables_valueless referred]
        at shown
      exact shown.standalone (derived.drops_iff alone referred)
  | noResult => exact .silent
  | result derived =>
      have shown := derived.shows
      split
      · next none =>
          rw [List.isEmpty_iff.mp none] at shown
          refine shown.placed fun name => ?_
          rw [Template.visitElements_singleton]
          rfl
      · rw [List.append_assoc]
        refine shown.placed fun name => ?_
        simp only [Template.visitElements_append,
          Template.visitElements_singleton]
        rfl
  | uninitialised absent =>
      simp only [Passage.reach, Declaration.reach, absent]
      exact .silent
  | initialised named valued place derived =>
      obtain ⟨-, rfl, rfl, rfl⟩ := place.name_inversion
      simp only [Passage.reach, Declaration.reach, named, valued]
      exact derived.shows.declared _ _
  | noDeclarations => exact .silent
  | moreDeclarations declaration others declarationShown othersShown =>
      simp only [Passage.visit, Template.visitElements_append]
      exact declarationShown.append othersShown
  | item derived =>
      obtain ⟨-, rfl, rfl, rfl⟩ := derived.name_inversion
      exact .alone fun _ => Iff.rfl
  | @entry elements span key value first middle next keyName valueName _ _ named
      keyDerived valueDerived =>
      obtain ⟨-, rfl, rfl, rfl⟩ := keyDerived.name_inversion
      obtain ⟨-, rfl, rfl, rfl⟩ := valueDerived.name_inversion
      refine ⟨Nat.le_succ first, fun name => ?_⟩
      rw [isMade_succ]
      simp only [Passage.reach, identifiers_of_entryNames? named, variablesOf]
      simp [Passage.visit, Template.visitElements, entryPart,
        Template.Element.visit, Template.Place.visit, Template.Expression.visit,
        Template.Value.visit, Template.Path.visit, Template.Variable.ofIdentifier,
        temporaryVariable, Template.Visitor.variables]
      grind
  | branch condition consequent alternative consequentShown restShown =>
      have all := (condition.shows.append consequentShown).append restShown
      simp only [Passage.visit, Template.Clause.visit, Template.Block.visit,
        Template.visit_interpolated Template.variables_valueless, Task.visit,
        Effect.append_hoisted, List.append_assoc] at all ⊢
      exact all
  | noAlternative => exact .silent
  | chained parts partsShown => exact partsShown
  | otherwise notBranch statement statementShown => exact statementShown
  | block statements statementsShown => exact statementsShown.spaced _
  | evaluation evaluated evaluatedShown => exact evaluatedShown.spaced _
  | branching parts partsShown =>
      rw [List.append_assoc]
      refine Shows.spaced (partsShown.placed fun name => ?_) _
      rw [Template.visitElements_singleton]
      rfl
  | looping pattern iterable body patternShown bodyShown =>
      have all := (patternShown.append iterable.shows).append bodyShown
      rw [List.append_assoc]
      refine Shows.spaced (all.congr fun name => ?_) _
      simp only [Passage.visit, Task.visit, Effect.append_hoisted,
        Effect.collected_hoisted, Template.visitElements_append,
        Template.visitElements, Template.Element.visit, Template.Block.visit,
        List.mem_append, List.not_mem_nil, or_false]
      grind
  | returning returned returnedShown => exact returnedShown.spaced _
  | declaring declared declaredShown => exact declaredShown.spaced _
  | noStatements => exact .silent
  | moreStatements statement others statementShown othersShown =>
      simp only [Passage.visit, Template.visitElements_append]
      exact statementShown.append othersShown

theorem Yields.asks {target : Target} {passage : Passage} {first next : Nat}
    {result : passage.Result} {effect : Effect}
    (yielded : Yields target passage first result next effect) :
    Asks passage.reach effect := by
  have declaring : ∀ names, Asks { declared := names } ∅ := fun _ => .nothing rfl rfl
  have evaluating : ∀ source, Asks { evaluated := [source] } ∅ :=
    fun _ => .nothing rfl rfl
  induction yielded with
  | assignment derived => exact (evaluating _).append derived.asks.collected
  | standalone alone derived referred =>
      exact (evaluating _).append derived.asks.collected
  | noResult => exact .nothing rfl rfl
  | result derived => exact derived.asks.collected
  | uninitialised absent =>
      simp only [Passage.reach, Declaration.reach, absent]
      exact .nothing rfl rfl
  | initialised named valued place derived =>
      obtain ⟨-, rfl, rfl, rfl⟩ := place.name_inversion
      simp only [Passage.reach, Declaration.reach, valued]
      exact (declaring _).append derived.asks.collected
  | noDeclarations => exact .nothing rfl rfl
  | moreDeclarations declaration others declarationAsks othersAsk =>
      exact declarationAsks.append othersAsk
  | item derived =>
      obtain ⟨-, rfl, rfl, rfl⟩ := derived.name_inversion
      exact declaring _
  | entry named keyDerived valueDerived =>
      obtain ⟨-, rfl, rfl, rfl⟩ := keyDerived.name_inversion
      obtain ⟨-, rfl, rfl, rfl⟩ := valueDerived.name_inversion
      exact declaring _
  | branch condition consequent alternative consequentAsks restAsks =>
      exact (condition.asks.append consequentAsks).append restAsks
  | noAlternative => exact .nothing rfl rfl
  | chained parts partsAsk => exact partsAsk
  | otherwise notBranch statement statementAsks => exact statementAsks
  | block statements statementsAsk => exact statementsAsk
  | evaluation evaluated evaluatedAsks => exact evaluatedAsks
  | branching parts partsAsk => exact partsAsk.collected
  | looping pattern iterable body patternAsks bodyAsks =>
      exact (patternAsks.append iterable.asks.collected).append bodyAsks
  | returning returned returnedAsks => exact returnedAsks
  | declaring declared declaredAsk => exact declaredAsk
  | noStatements => exact .nothing rfl rfl
  | moreStatements statement others statementAsks othersAsk =>
      exact statementAsks.append othersAsk

/-- Whether a step places its directives itself.  The conditions of a branch
leave theirs to the statement around all of them. -/
def Passage.placesDirectives : Passage → Bool
  | .branch _ _ _ | .alternative _ => false
  | _ => true

theorem Yields.hoisted_eq_nil {target : Target} {passage : Passage}
    {first next : Nat} {result : passage.Result} {effect : Effect}
    (yielded : Yields target passage first result next effect)
    (places : passage.placesDirectives = true) : effect.hoisted = [] := by
  induction yielded with
  | initialised named valued place derived =>
      obtain ⟨-, rfl, rfl, rfl⟩ := place.name_inversion
      rfl
  | moreDeclarations declaration others declarationPlaces othersPlace =>
      simp [declarationPlaces rfl, othersPlace rfl]
  | item derived =>
      obtain ⟨-, rfl, rfl, rfl⟩ := derived.name_inversion
      rfl
  | entry named keyDerived valueDerived =>
      obtain ⟨-, rfl, rfl, rfl⟩ := keyDerived.name_inversion
      obtain ⟨-, rfl, rfl, rfl⟩ := valueDerived.name_inversion
      rfl
  | branch _ _ _ _ _ => cases places
  | noAlternative => cases places
  | chained _ _ => cases places
  | otherwise _ _ _ => cases places
  | block statements statementsPlace => exact statementsPlace rfl
  | evaluation evaluated evaluatedPlaces => exact evaluatedPlaces rfl
  | looping pattern iterable body patternPlaces bodyPlaces =>
      simp [patternPlaces rfl, bodyPlaces rfl]
  | returning returned returnedPlaces => exact returnedPlaces rfl
  | declaring declared declaredPlace => exact declaredPlace rfl
  | moreStatements statement others statementPlaces othersPlace =>
      simp [statementPlaces rfl, othersPlace rfl]
  | _ => rfl

end VelocityScript.Lowering
