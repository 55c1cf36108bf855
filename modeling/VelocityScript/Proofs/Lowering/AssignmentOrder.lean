import VelocityScript.Proofs.Lowering.Hoisting
import VelocityScript.Proofs.Lowering.Location

/-!
# Assignments used as values

An assignment inside an expression is hoisted in front of the whole directive,
while operands and elements that are values already stay in place.  Where no
assignment overtakes what stays in place, and none stands in the right operand
of `&&`, the directives and the lowered expression compute what the source does
from left to right.
-/

namespace VelocityScript.Lowering

open Script
open Template (Interpretation Store execute?)

variable {Datum : Type} {interpretation : Interpretation Datum}

/-! ## What a step follows -/

/-- The stores have the same temporaries up to `bound`. -/
def SameBelow (bound : Nat) (store other : Store Datum) : Prop :=
  ∀ number, number < bound →
    store (Template.temporaryName number) = other (Template.temporaryName number)

theorem SameBelow.trans {lower upper : Nat} {store middle final : Store Datum}
    (same : SameBelow lower store middle) (sameOn : SameBelow upper middle final)
    (included : lower ≤ upper) : SameBelow lower store final := by
  intro number below
  rw [same number below, sameOn number (Nat.lt_of_lt_of_le below included)]

theorem SameBelow.temporary {lower upper : Nat} (below : lower ≤ upper)
    (store : Store Datum) (datum : Datum) :
    SameBelow lower store
      (Function.update store (Template.temporaryName upper) datum) := by
  intro number isBelow
  have different : Template.temporaryName number ≠
      Template.temporaryName upper := by
    intro same
    have equal := Template.temporaryName_injective same
    omega
  rw [Function.update_of_ne different]

variable (interpretation)

/-- The directives, run from a store that represents an environment, lead to
one that represents the environment after the source.  The result then has the
value of the source, also later on, as long as the exposed variables and the
temporaries keep their values. -/
structure Follows {Data : Type} (target : Target) (scope : List Variable)
    (first next : Nat) (directives : List Template.Element)
    (evaluated : Store Datum → Data)
    (executed : Environment Datum → Option (Data × Environment Datum))
    (exposed assigned : List Variable) : Prop where
  counted : first ≤ next
  frame : ∀ environment data after, executed environment = some (data, after) →
    ∀ found, found ∉ assigned → after found = environment found
  runs : ∀ store environment,
    Represents interpretation target scope store environment →
      ∃ final data after,
        execute? interpretation directives store = some final ∧
          executed environment = some (data, after) ∧
          Represents interpretation target scope final after ∧
          SameBelow first store final ∧
          ∀ later laterEnvironment,
            Represents interpretation target scope later laterEnvironment →
            (∀ found ∈ exposed, laterEnvironment found = after found) →
            SameBelow next final later → evaluated later = data

namespace Follows

variable {interpretation}
variable {Data Other Final : Type} {target : Target} {scope : List Variable}
variable {first middle next : Nat}
variable {before after directives : List Template.Element}
variable {evaluated : Store Datum → Data} {other : Store Datum → Other}
variable {executed : Environment Datum → Option (Data × Environment Datum)}
variable {otherExecuted : Environment Datum → Option (Other × Environment Datum)}
variable {exposed otherExposed assigned otherAssigned : List Variable}

/-- What assigns nothing needs no directives. -/
theorem alone (first : Nat) (read : Environment Datum → Data)
    (executes : ∀ environment,
      executed environment = some (read environment, environment))
    (represented : ∀ store environment,
      Represents interpretation target scope store environment →
        evaluated store = read environment)
    (depends : ∀ environment later, (∀ found ∈ exposed,
      later found = environment found) → read later = read environment) :
    Follows interpretation target scope first first [] evaluated executed
      exposed [] where
  counted := Nat.le_refl first
  frame environment data after ran found _ := by
    rw [executes] at ran
    cases ran
    rfl
  runs store environment represents := by
    refine ⟨store, read environment, environment, rfl, executes environment,
      represents, fun _ _ => rfl, ?_⟩
    intro later laterEnvironment laterRepresents same _
    rw [represented later laterEnvironment laterRepresents]
    exact depends environment laterEnvironment same

theorem map
    (follows : Follows interpretation target scope first next directives
      evaluated executed exposed assigned)
    (build : Data → Final) :
    Follows interpretation target scope first next directives
      (fun store => build (evaluated store))
      (fun environment => (executed environment).map fun (data, after) =>
        (build data, after))
      exposed assigned where
  counted := follows.counted
  frame environment data after ran := by
    obtain ⟨⟨found, last⟩, inner, same⟩ := Option.map_eq_some_iff.mp ran
    cases same
    exact follows.frame environment found _ inner
  runs store environment represents := by
    obtain ⟨final, data, after, ran, executes, represented, same, holds⟩ :=
      follows.runs store environment represents
    refine ⟨final, build data, after, ran, ?_, represented, same, ?_⟩
    · rw [executes]
      rfl
    · intro later laterEnvironment laterRepresents kept sameOn
      rw [holds later laterEnvironment laterRepresents kept sameOn]

/-- Two parts follow one another when the second assigns nothing that the first
exposes. -/
theorem both
    (firstFollows : Follows interpretation target scope first middle before
      evaluated executed exposed assigned)
    (secondFollows : Follows interpretation target scope middle next after
      other otherExecuted otherExposed otherAssigned)
    (undisturbed : ∀ found ∈ exposed, found ∉ otherAssigned)
    (build : Data → Other → Final) :
    Follows interpretation target scope first next (before ++ after)
      (fun store => build (evaluated store) (other store))
      (fun environment => (executed environment).bind fun (data, middle) =>
        (otherExecuted middle).map fun (rest, after) =>
          (build data rest, after))
      (exposed ++ otherExposed) (assigned ++ otherAssigned) where
  counted := Nat.le_trans firstFollows.counted secondFollows.counted
  frame environment data last ran found unassigned := by
    obtain ⟨⟨datum, halfway⟩, firstRan, restRan⟩ :=
      Option.bind_eq_some_iff.mp ran
    obtain ⟨⟨rest, final⟩, secondRan, same⟩ := Option.map_eq_some_iff.mp restRan
    cases same
    rw [List.mem_append, not_or] at unassigned
    rw [secondFollows.frame halfway rest _ secondRan found unassigned.2,
      firstFollows.frame environment datum halfway firstRan found unassigned.1]
  runs store environment represents := by
    obtain ⟨halfway, data, between, ran, executes, represented, same, holds⟩ :=
      firstFollows.runs store environment represents
    obtain ⟨final, rest, last, ranOn, executesOn, representedOn, sameOn,
      restHolds⟩ := secondFollows.runs halfway between represented
    refine ⟨final, build data rest, last,
      Template.execute?_append_of_some ran ranOn, ?_, representedOn,
      same.trans sameOn firstFollows.counted, ?_⟩
    · simp only [executes, executesOn, Option.bind_some, Option.map_some]
    · intro later laterEnvironment laterRepresents kept sameLater
      have firstKept : ∀ found ∈ exposed,
          laterEnvironment found = between found := by
        intro found member
        rw [kept found (List.mem_append_left _ member)]
        exact secondFollows.frame between rest last executesOn found
          (undisturbed found member)
      have restKept : ∀ found ∈ otherExposed,
          laterEnvironment found = last found := by
        intro found member
        exact kept found (List.mem_append_right _ member)
      rw [holds later laterEnvironment laterRepresents firstKept
          (sameOn.trans sameLater secondFollows.counted),
        restHolds later laterEnvironment laterRepresents restKept sameLater]

/-- A temporary exposes nothing: it keeps the value that it is set to. -/
theorem hoisting {expression : Template.Expression}
    {executed : Environment Datum → Option (Datum × Environment Datum)}
    (follows : Follows interpretation target scope first next directives
      (fun store => expression.evaluate interpretation store) executed exposed
      assigned)
    (separate : Separate target scope) :
    Follows interpretation target scope first (next + 1)
      (directives ++ (Lowering.hoisting next expression).hoisted)
      (fun store => store (Template.temporaryName next)) executed []
      assigned where
  counted := Nat.le_succ_of_le follows.counted
  frame := follows.frame
  runs store environment represents := by
    obtain ⟨halfway, datum, after, ran, executes, represented, same, holds⟩ :=
      follows.runs store environment represents
    have value : expression.evaluate interpretation halfway = datum :=
      holds halfway after represented (fun _ _ => rfl) fun _ _ => rfl
    refine ⟨Function.update halfway (Template.temporaryName next) datum, datum,
      after, Template.execute?_append_of_some ran ?_, executes,
      represented.temporary separate next datum,
      same.trans (.temporary follows.counted halfway datum) (Nat.le_refl first),
      ?_⟩
    · rw [← value]
      rfl
    · intro later laterEnvironment laterRepresents _ sameLater
      rw [← sameLater next (Nat.lt_succ_self next), Function.update_self]

/-- An assignment sets the location of its variable, and then exposes the
variable alone. -/
theorem assigning {expression : Template.Expression}
    {executed : Environment Datum → Option (Datum × Environment Datum)}
    (follows : Follows interpretation target scope first next directives
      (fun store => expression.evaluate interpretation store) executed exposed
      assigned)
    (lawful : LawfulProperties interpretation) (separate : Separate target scope)
    {place : Template.Place} {set : Variable} {origin : Template.Origin}
    (member : set ∈ scope)
    (located : place.reference.path = (location target set).path origin)
    (span : Span) :
    Follows interpretation target scope first next
      (directives ++ (Lowering.assigning none place expression span).hoisted)
      (fun store => (location target set).read interpretation store)
      (fun environment => (executed environment).map fun (datum, after) =>
        (datum, Function.update after set datum))
      [set] (assigned ++ [set]) where
  counted := follows.counted
  frame environment data last ran found unassigned := by
    obtain ⟨⟨datum, after⟩, inner, same⟩ := Option.map_eq_some_iff.mp ran
    cases same
    rw [List.mem_append, List.mem_singleton, not_or] at unassigned
    rw [Function.update_of_ne unassigned.2]
    exact follows.frame environment _ after inner found unassigned.1
  runs store environment represents := by
    obtain ⟨halfway, datum, after, ran, executes, represented, same, holds⟩ :=
      follows.runs store environment represents
    have value : expression.evaluate interpretation halfway = datum :=
      holds halfway after represented (fun _ _ => rfl) fun _ _ => rfl
    have temporaries : SameBelow first halfway
        ((location target set).write interpretation halfway datum) := by
      intro number _
      rw [Location.write_temporary halfway datum (separate.ordinary set member)]
    refine ⟨(location target set).write interpretation halfway datum, datum,
      Function.update after set datum,
      Template.execute?_append_of_some ran ?_, ?_,
      represented.write lawful separate member datum,
      same.trans temporaries (Nat.le_refl first), ?_⟩
    · simp only [Lowering.assigning, assignedValue, execute?, located,
        Location.write?_path, value, Option.bind_some]
    · simp only [executes, Option.map_some]
    · intro later laterEnvironment laterRepresents kept _
      rw [laterRepresents set member, kept set List.mem_cons_self,
        Function.update_self]

/-- In a conjunction whose right operand assigns nothing it does not matter
whether that operand is left out. -/
theorem conjunction (shortCircuit : ShortCircuit interpretation)
    {left right : Store Datum → Datum}
    {leftExecuted rightExecuted :
      Environment Datum → Option (Datum × Environment Datum)}
    (leftFollows : Follows interpretation target scope first middle before left
      leftExecuted exposed assigned)
    (rightFollows : Follows interpretation target scope middle next after right
      rightExecuted otherExposed []) :
    Follows interpretation target scope first next (before ++ after)
      (fun store => interpretation.binary .and (left store) (right store))
      (fun environment => (leftExecuted environment).bind fun (left, middle) =>
        if shortCircuit.truthy left then
          (rightExecuted middle).map fun (right, after) =>
            (interpretation.binary .and left right, after)
        else
          some (shortCircuit.refused left, middle))
      (exposed ++ otherExposed) (assigned ++ []) := by
  have follows := leftFollows.both rightFollows
    (fun _ _ => List.not_mem_nil) (interpretation.binary .and)
  refine ⟨follows.counted, ?_, ?_⟩
  · intro environment data last ran found unassigned
    obtain ⟨⟨datum, halfway⟩, leftRan, restRan⟩ :=
      Option.bind_eq_some_iff.mp ran
    rw [List.append_nil] at unassigned
    have unchanged := leftFollows.frame environment datum halfway leftRan found
      unassigned
    simp only at restRan
    split at restRan
    · obtain ⟨⟨rest, final⟩, rightRan, same⟩ := Option.map_eq_some_iff.mp restRan
      cases same
      exact (rightFollows.frame halfway rest final rightRan found
        List.not_mem_nil).trans unchanged
    · cases restRan
      exact unchanged
  · intro store environment represents
    obtain ⟨final, data, last, ran, executes, represented, same, holds⟩ :=
      follows.runs store environment represents
    refine ⟨final, data, last, ran, ?_, represented, same, holds⟩
    obtain ⟨⟨datum, halfway⟩, leftRan, restRan⟩ :=
      Option.bind_eq_some_iff.mp executes
    obtain ⟨⟨rest, after⟩, rightRan, same⟩ := Option.map_eq_some_iff.mp restRan
    cases same
    simp only [leftRan, rightRan, Option.bind_some, Option.map_some]
    split
    · rfl
    · next refuses =>
        have unchanged : last = halfway := by
          funext found
          exact rightFollows.frame halfway rest last rightRan found
            List.not_mem_nil
        have falsy : shortCircuit.truthy datum = false := by
          simpa using refuses
        rw [unchanged, shortCircuit.and_of_not_truthy datum rest falsy]

theorem congr {evaluatedAs : Store Datum → Data}
    (follows : Follows interpretation target scope first next directives
      evaluated executed exposed assigned)
    (same : ∀ store, evaluatedAs store = evaluated store) :
    Follows interpretation target scope first next directives evaluatedAs
      executed exposed assigned := by
  obtain rfl : evaluatedAs = evaluated := funext same
  exact follows

theorem interpolated {expression : Template.Expression}
    {executed : Environment Datum → Option (Datum × Environment Datum)}
    (follows : Follows interpretation target scope first next directives
      (fun store => expression.evaluate interpretation store) executed exposed
      assigned) :
    Follows interpretation target scope first next directives
      (fun store => expression.interpolated.evaluate interpretation store)
      executed exposed assigned :=
  follows.congr fun store => expression.evaluate_interpolated store

/-- Nothing is lost by keeping more variables in mind. -/
theorem expose {wider : List Variable}
    (follows : Follows interpretation target scope first next directives
      evaluated executed exposed assigned)
    (included : exposed ⊆ wider) :
    Follows interpretation target scope first next directives evaluated
      executed wider assigned where
  counted := follows.counted
  frame := follows.frame
  runs store environment represents := by
    obtain ⟨final, data, after, ran, executes, represented, same, holds⟩ :=
      follows.runs store environment represents
    refine ⟨final, data, after, ran, executes, represented, same, ?_⟩
    intro later laterEnvironment laterRepresents kept sameLater
    exact holds later laterEnvironment laterRepresents
      (fun found member => kept found (included member)) sameLater

end Follows

/-! ## The steps of a derivation -/

namespace Task

def isElementary : Task → Bool
  | .identifier _ | .number _ _ => true
  | .expression source | .value source => source.isElementary
  | .values sources => allElementary sources
  | _ => false

/-- Whether no assignment in the source of a step overtakes anything. -/
def keepsOrder : Task → Bool
  | .expression source | .value source => source.keepsOrder
  | .values sources => allKeepOrder sources
  | _ => true

/-- The variables that the result of a step stands for. -/
def exposed : Task → List Variable
  | .identifier named => [named.toVariable]
  | .expression source => source.exposed
  | .value source => if source.isTaken then [] else source.exposed
  | .values sources => exposedByAll sources
  | _ => []

/-- The variables that the source of a step assigns. -/
def assigned : Task → List Variable
  | .expression source | .value source => source.assigned
  | .values sources => assignedByAll sources
  | _ => []

/-- The source of a step, executed. -/
def executed {interpretation : Interpretation Datum}
    (shortCircuit : ShortCircuit interpretation)
    (environment : Environment Datum) :
    (task : Task) → Option (task.Data Datum × Environment Datum)
  | .identifier named => some (environment named.toVariable, environment)
  | .number text _ =>
      (numericLiteral? text).map fun value =>
        (interpretation.number value, environment)
  | .expression source | .value source =>
      source.execute shortCircuit environment
  | .values sources => executeAll shortCircuit sources environment
  | _ => none

end Task

/-- A name is lowered to the path that leads to the location of its
variable. -/
theorem Derives.identifier_inversion {target : Target} {named : Identifier}
    {first next : Nat} {result : Template.Expression} {effect : Effect}
    (derived : Derives target (.identifier named) first result next effect) :
    result = .ofPath
        ((location target named.toVariable).path (some named.span)) ∧
      next = first ∧ effect.hoisted = [] := by
  cases derived with
  | argument bound name =>
      obtain ⟨-, rfl, rfl, rfl⟩ := name.name_inversion
      refine ⟨?_, rfl, rfl⟩
      simp only [location, Identifier.toVariable, bound, and_self, if_true]
      rfl
  | variableName notArgument name =>
      obtain ⟨-, rfl, rfl, rfl⟩ := name.name_inversion
      refine ⟨?_, rfl, ?_⟩
      · simp only [location, Identifier.toVariable, notArgument, if_false]
        rfl
      · simp

/-- What is taken at once is no value yet. -/
theorem Derives.isTaken_of_value? {target : Target} {source : Expression}
    {first next : Nat} {result : Template.Expression} {value : Template.Value}
    {effect : Effect}
    (derived : Derives target (.expression source) first result next effect)
    (found : result.value? = some value) : source.isTaken = false := by
  cases source with
  | parenthesized inner span =>
      cases derived with
      | parenthesized _ => cases found
  | binary operator left right span =>
      cases derived with
      | binary _ _ _ => cases found
  | _ => rfl

theorem elementary_assignment {operator : AssignmentOperator}
    {place value : Expression} {span : Span}
    (elementary :
      (Expression.assignment operator place value span).isElementary = true) :
    ∃ named, operator = .assign ∧ place = .identifier named ∧
      value.isElementary = true := by
  cases operator <;> cases place <;>
    first
    | exact ⟨_, rfl, rfl, elementary⟩
    | cases elementary

variable {interpretation} {target : Target} {scope : List Variable}

/-- A name is read where its variable is kept. -/
theorem Derives.identifier_follows (shortCircuit : ShortCircuit interpretation)
    {named : Identifier} {first next : Nat} {result : Template.Expression}
    {effect : Effect}
    (derived : Derives target (.identifier named) first result next effect)
    (member : named.toVariable ∈ scope) :
    Follows interpretation target scope first next effect.hoisted
      (fun store =>
        (Task.identifier named).evaluate interpretation store result)
      (fun environment =>
        (Task.identifier named).executed shortCircuit environment)
      (Task.identifier named).exposed (Task.identifier named).assigned := by
  obtain ⟨rfl, rfl, none⟩ := derived.identifier_inversion
  rw [none]
  refine Follows.alone next (fun environment => environment named.toVariable)
    (fun _ => rfl) ?_ ?_
  · intro store environment represents
    rw [← represents named.toVariable member]
    exact Location.evaluate_path interpretation store _ _
  · intro environment later same
    exact same named.toVariable List.mem_cons_self

theorem declared_of_subset {more fewer : List Identifier}
    (declared : ∀ named ∈ more, named.toVariable ∈ scope)
    (included : fewer ⊆ more) :
    ∀ named ∈ fewer, named.toVariable ∈ scope :=
  fun named member => declared named (included member)

/-- A derivation in which no assignment overtakes anything follows its
source. -/
theorem Derives.follows (lawful : LawfulProperties interpretation)
    (shortCircuit : ShortCircuit interpretation)
    (separate : Separate target scope) {task : Task} {first next : Nat}
    {result : task.Result} {effect : Effect}
    (derived : Derives target task first result next effect)
    (elementary : task.isElementary = true) (ordered : task.keepsOrder = true)
    (declared : ∀ named ∈ task.identifiers, named.toVariable ∈ scope) :
    Follows interpretation target scope first next effect.hoisted
      (fun store => task.evaluate interpretation store result)
      (fun environment => task.executed shortCircuit environment)
      task.exposed task.assigned := by
  induction derived with
  | argument bound name =>
      exact (Derives.argument bound name).identifier_follows shortCircuit
        (declared _ List.mem_cons_self)
  | variableName notArgument name =>
      exact (Derives.variableName notArgument name).identifier_follows
        shortCircuit (declared _ List.mem_cons_self)
  | number parsed =>
      refine Follows.alone _ (fun _ => interpretation.number _) ?_
        (fun _ _ _ => rfl) fun _ _ _ => rfl
      intro environment
      simp only [Task.executed, parsed, Option.map_some]
  | identifier named followed => exact followed rfl rfl declared
  | numeral parsed followed => exact followed rfl rfl (by simp [Task.identifiers])
  | array values followed =>
      exact (followed elementary ordered declared).map interpretation.list
  | parenthesized inner followed =>
      exact (followed elementary ordered declared).interpolated
  | @binary operator lowered left right span _ _ _ _ _ _ _ supported _ _
      leftFollowed rightFollowed =>
      have leftDeclared := declared_of_subset declared
        (List.subset_append_left left.identifiers right.identifiers)
      have rightDeclared := declared_of_subset declared
        (List.subset_append_right left.identifiers right.identifiers)
      cases operator with
      | add =>
          cases supported
          simp only [Task.isElementary, Expression.isElementary,
            Bool.and_eq_true] at elementary
          simp only [Task.keepsOrder, Expression.keepsOrder, Bool.and_eq_true,
            apart_iff] at ordered
          have leftFollows := leftFollowed elementary.1 ordered.1.1 leftDeclared
          have rightFollows := rightFollowed elementary.2 ordered.1.2 rightDeclared
          exact leftFollows.interpolated.both rightFollows.interpolated
            ordered.2 (interpretation.binary .plus)
      | and =>
          cases supported
          simp only [Task.isElementary, Expression.isElementary,
            Bool.and_eq_true] at elementary
          simp only [Task.keepsOrder, Expression.keepsOrder, Bool.and_eq_true,
            List.isEmpty_iff] at ordered
          have leftFollows := leftFollowed elementary.1 ordered.1.1 leftDeclared
          have rightFollows := rightFollowed elementary.2 ordered.1.2 rightDeclared
          simp only [Task.assigned, Expression.assigned, ordered.2]
            at rightFollows ⊢
          exact leftFollows.interpolated.conjunction shortCircuit
            rightFollows.interpolated
      | _ => cases elementary
  | @assignment operator _ place value span _ _ _ _ _ _ _ _ combined left right
      placed leftFollowed rightFollowed =>
      obtain ⟨named, rfl, rfl, valueElementary⟩ :=
        elementary_assignment elementary
      cases combined
      cases left with
      | identifier name =>
          obtain ⟨rfl, rfl, none⟩ := name.identifier_inversion
          rw [Effect.append_hoisted, Effect.append_hoisted, none]
          have read := Template.Reference.place?_eq_some_iff.mp placed
          have located := congrArg Template.Reference.path read
          have valueDeclared := declared_of_subset declared
            (List.subset_cons_self named value.identifiers)
          have member := declared named List.mem_cons_self
          have valueFollows := rightFollowed valueElementary ordered valueDeclared
          refine (valueFollows.interpolated.assigning lawful separate member
            located span).congr fun store => ?_
          rw [← Location.evaluate_path interpretation store _ (some named.span)]
          exact congrArg (Template.Path.evaluate interpretation store) located
  | kept inner found followed =>
      refine ((followed elementary ordered declared).congr
        fun store => ?_).expose ?_
      · exact Template.Expression.evaluate_of_value? found store
      · simp only [Task.exposed, inner.isTaken_of_value? found, Bool.false_eq_true,
          if_false]
        exact List.Subset.refl _
  | hoisted inner found followed =>
      exact ((followed elementary ordered declared).hoisting separate).expose
        (List.nil_subset _)
  | noValues =>
      exact Follows.alone _ (fun _ => []) (fun _ => rfl)
        (fun _ _ _ => rfl) fun _ _ _ => rfl
  | @moreValues source others _ _ _ _ _ _ _ _ _ valueFollowed valuesFollowed =>
      have sourceDeclared := declared_of_subset declared
        (List.subset_append_left source.identifiers (identifiersOfAll others))
      have othersDeclared := declared_of_subset declared
        (List.subset_append_right source.identifiers (identifiersOfAll others))
      simp only [Task.isElementary, allElementary, Bool.and_eq_true] at elementary
      simp only [Task.keepsOrder, allKeepOrder, Bool.and_eq_true, apart_iff]
        at ordered
      have valueFollows := valueFollowed elementary.1 ordered.1.1 sourceDeclared
      have valuesFollow := valuesFollowed elementary.2 ordered.1.2 othersDeclared
      exact valueFollows.both valuesFollow ordered.2 List.cons
  | _ => cases elementary

/-! ## Order kept -/

variable (interpretation target scope)

/-- The directives of a step, run from a store that represents an environment,
lead to one that represents the environment after the source, and the result
then has the value of the source. -/
def PreservesOrder {Result : Type} (step : Lower (Option Result))
    (evaluated : Store Datum → Result → Datum)
    (executed : Environment Datum → Option (Datum × Environment Datum)) :
    Prop :=
  Achieves step fun _ result _ directives =>
    ∀ store environment,
      Represents interpretation target scope store environment →
        ∃ final after,
          execute? interpretation directives store = some final ∧
            executed environment = some (evaluated final result, after) ∧
            Represents interpretation target scope final after

variable {interpretation target scope}

theorem Follows.preserves {first next : Nat}
    {directives : List Template.Element} {evaluated : Store Datum → Datum}
    {executed : Environment Datum → Option (Datum × Environment Datum)}
    {exposed assigned : List Variable}
    (follows : Follows interpretation target scope first next directives
      evaluated executed exposed assigned)
    (store : Store Datum) (environment : Environment Datum)
    (represents : Represents interpretation target scope store environment) :
    ∃ final after,
      execute? interpretation directives store = some final ∧
        executed environment = some (evaluated final, after) ∧
        Represents interpretation target scope final after := by
  obtain ⟨final, datum, after, ran, executes, represented, -, holds⟩ :=
    follows.runs store environment represents
  have value : evaluated final = datum :=
    holds final after represented (fun _ _ => rfl) fun _ _ => rfl
  refine ⟨final, after, ran, ?_, represented⟩
  rw [executes, value]

/-- Running the directives of a whole lowering and evaluating its result
computes the value and the final variables of the source. -/
theorem PreservesOrder.computes {Result : Type} {step : Lower (Option Result)}
    {evaluated : Store Datum → Result → Datum}
    {executed : Environment Datum → Option (Datum × Environment Datum)}
    (preserves : PreservesOrder interpretation target scope step evaluated
      executed)
    (silent : (step.run {}).2.reports = []) (store : Store Datum) :
    ((step.run {}).1.bind fun result =>
        (execute? interpretation (step.run {}).2.hoisted store).map fun final =>
          (evaluated final result,
            scope.map fun found =>
              (location target found).read interpretation final)) =
      (executed fun found =>
          (location target found).read interpretation store).map
        fun (datum, after) => (datum, scope.map after) := by
  obtain ⟨result, present, runs⟩ := Achieves.whole preserves silent
  obtain ⟨final, after, ran, executes, represents⟩ :=
    runs store _ fun _ _ => rfl
  have finals : (scope.map fun found =>
      (location target found).read interpretation final) = scope.map after :=
    List.map_congr_left represents
  simp only [present, ran, executes, Option.bind_some, Option.map_some, finals]

/-- Assignments inside an expression happen in the order of the source, as long
as none overtakes what stays in place, none may be left out, and the variables
are kept apart. -/
theorem nested_assignments_keep_order (interpretation : Interpretation Datum)
    (lawful : LawfulProperties interpretation)
    (shortCircuit : ShortCircuit interpretation) (target : Target)
    {source : Expression} (elementary : source.isElementary = true)
    (ordered : source.keepsOrder = true) {scope : List Variable}
    (declared : ∀ named ∈ source.identifiers, named.toVariable ∈ scope)
    (separate : Separate target scope) :
    PreservesOrder interpretation target scope (lowerExpression target source)
        (fun store result => result.evaluate interpretation store)
        (fun environment => source.execute shortCircuit environment) ∧
      PreservesOrder interpretation target scope (lowerValue target source)
        (fun store result => result.evaluate interpretation store)
        (fun environment => source.execute shortCircuit environment) := by
  constructor
  · exact (Task.expression source).achieves fun derived =>
      (derived.follows lawful shortCircuit separate elementary ordered
        declared).preserves
  · exact (Task.value source).achieves fun derived =>
      (derived.follows lawful shortCircuit separate elementary ordered
        declared).preserves

theorem lawfulProperties_arithmetic :
    LawfulProperties Template.Sample.arithmetic where
  same base name datum := by
    simp [Template.Sample.arithmetic, Template.Sample.property]
  other base name datum found different := by
    simp [Template.Sample.arithmetic, Template.Sample.property, Ne.symm different]

/-- Zero and records are false, and decide a conjunction. -/
def shortCircuitArithmetic : ShortCircuit Template.Sample.arithmetic where
  truthy datum := datum.toNat != 0
  refused _ := .scalar 0
  and_of_not_truthy left right falsy := by
    have zero : left.toNat = 0 := by
      simpa using falsy
    simp [Template.Sample.arithmetic, zero]

/-- In `[a + (p = b), (c = p) + p]` with a parameter `p` the elements are put
into temporaries one after the other. -/
theorem nested_assignments_keep_order_parameter :
    let span : Span := ⟨0, 0⟩
    let plain := fun name => Expression.identifier ⟨name, span, .variableName⟩
    let parameter := Expression.identifier ⟨"p", span, .parameter⟩
    let source := Expression.array
      [.binary .add (plain "a") (.parenthesized
          (.assignment .assign parameter (plain "b") span) span) span,
        .binary .add (.parenthesized
          (.assignment .assign (plain "c") parameter span) span) parameter span]
      span
    let scope := source.identifiers.map Identifier.toVariable
    (source.isElementary = true ∧ source.keepsOrder = true ∧
        (∀ named ∈ source.identifiers, named.toVariable ∈ scope) ∧
        Separate .appsync scope) ∧
      PreservesOrder Template.Sample.arithmetic .appsync scope
          (lowerExpression .appsync source)
          (fun store result =>
            result.evaluate Template.Sample.arithmetic store)
          (fun environment =>
            source.execute shortCircuitArithmetic environment) ∧
        PreservesOrder Template.Sample.arithmetic .appsync scope
          (lowerValue .appsync source)
          (fun store result =>
            result.evaluate Template.Sample.arithmetic store)
          (fun environment =>
            source.execute shortCircuitArithmetic environment) := by
  intro span plain parameter source scope
  have elementary : source.isElementary = true := rfl
  have ordered : source.keepsOrder = true := by
    decide
  have declared : ∀ named ∈ source.identifiers, named.toVariable ∈ scope :=
    fun _ member => List.mem_map_of_mem member
  have separate : Separate .appsync scope := ⟨by decide, by decide⟩
  exact ⟨⟨elementary, ordered, declared, separate⟩,
    nested_assignments_keep_order Template.Sample.arithmetic
      lawfulProperties_arithmetic shortCircuitArithmetic .appsync elementary
      ordered declared separate⟩

/-- In `[a, a = 1]` the assignment overtakes the first element, and in
`b && (a = 1)` it happens even when `b` is false.  In `[a = 1, $a]`,
`[local_0, a + a]` and, for a parameter `p`, `[ctx = 1, p]` two variables are
kept in one place. -/
theorem nested_assignments_overtake :
    let span : Span := ⟨0, 0⟩
    let plain := fun name => Expression.identifier ⟨name, span, .variableName⟩
    let parameter := Expression.identifier ⟨"p", span, .parameter⟩
    let setOne := fun name =>
      Expression.assignment .assign (plain name) (.number "1" span) span
    let keeps := fun (target : Target) (source : Expression) =>
      PreservesOrder Template.Sample.arithmetic target
        (source.identifiers.map Identifier.toVariable)
        (lowerExpression target source)
        (fun store result => result.evaluate Template.Sample.arithmetic store)
        (fun environment => source.execute shortCircuitArithmetic environment)
    let overtaken := Expression.array [plain "a", setOne "a"] span
    let leftOut := Expression.binary .and (plain "b")
      (.parenthesized (setOne "a") span) span
    let renamed := Expression.array [setOne "a", plain "$a"] span
    let reserved := Expression.array
      [plain "local_0", .binary .add (plain "a") (plain "a") span] span
    let hidden := Expression.array [setOne "ctx", parameter] span
    (∀ source ∈ [overtaken, leftOut, renamed, reserved, hidden],
        source.isElementary = true) ∧
      ¬ keeps .apigateway overtaken ∧ ¬ keeps .apigateway leftOut ∧
        ¬ keeps .apigateway renamed ∧ ¬ keeps .apigateway reserved ∧
        ¬ keeps .appsync hidden := by
  intro span plain parameter setOne keeps overtaken leftOut renamed reserved
    hidden
  refine ⟨by simp [overtaken, leftOut, renamed, reserved, hidden, setOne, plain,
    parameter, Expression.isElementary, allElementary], ?_, ?_, ?_, ?_, ?_⟩
  · intro kept
    exact absurd (kept.computes (by decide +kernel) fun _ => .scalar 5)
      (by decide +kernel)
  · intro kept
    exact absurd (kept.computes (by decide +kernel) fun _ => .scalar 0)
      (by decide +kernel)
  · intro kept
    exact absurd (kept.computes (by decide +kernel) fun _ => .scalar 0)
      (by decide +kernel)
  · intro kept
    exact absurd (kept.computes (by decide +kernel) fun _ => .scalar 1)
      (by decide +kernel)
  · intro kept
    have arguments := kept.computes (by decide +kernel) fun _ =>
      .record "arguments" (.record "p" (.scalar 5) (.scalar 0)) (.scalar 0)
    exact absurd arguments (by decide +kernel)

end VelocityScript.Lowering
