import VelocityScript.Proofs.Lowering.Accountability
import VelocityScript.Proofs.Script.Meaning

/-!
# Hoisting preserves meaning

A derivation without assignments puts the values of subexpressions into fresh
temporaries.  Its directives can be run from every store and change only these
temporaries, and its result then has the value of the source.
-/

namespace VelocityScript.Lowering

open Script
open Template (Interpretation Store AgreeExcept execute?)

variable {Datum : Type} (interpretation : Interpretation Datum)

/-- The directives run from every store and change only the temporaries from
`first` up to `next`.  What is meant in the store before them is what the
result has after them, also when later temporaries are set. -/
structure Realises {Data : Type} (first next : Nat)
    (directives : List Template.Element) (evaluated : Store Datum → Data)
    (meant : Store Datum → Option Data) : Prop where
  counted : first ≤ next
  stable : ∀ store other, AgreeExcept (fun _ => True) store other →
    meant store = meant other
  runs : ∀ store, ∃ final data,
    execute? interpretation directives store = some final ∧
      AgreeExcept (fun number => first ≤ number ∧ number < next) store final ∧
      meant store = some data ∧
      ∀ later, AgreeExcept (fun number => next ≤ number) final later →
        evaluated later = data

namespace Realises

variable {interpretation}
variable {Data Other Final : Type} {first middle next : Nat}
variable {before after directives : List Template.Element}
variable {evaluated : Store Datum → Data} {meant : Store Datum → Option Data}
variable {other : Store Datum → Other} {otherMeant : Store Datum → Option Other}

/-- What reads no temporary needs no directives. -/
theorem alone (first : Nat)
    (same : ∀ store, meant store = some (evaluated store))
    (stable : ∀ store later, AgreeExcept (fun _ => True) store later →
      evaluated store = evaluated later) :
    Realises interpretation first first [] evaluated meant where
  counted := Nat.le_refl first
  stable store later agree := by
    rw [same, same, stable store later agree]
  runs store := by
    refine ⟨store, evaluated store, rfl, .refl _ store, same store, ?_⟩
    intro later agree
    exact (stable store later (agree.mono fun _ _ => trivial)).symm

theorem map (realises :
      Realises interpretation first next directives evaluated meant)
    (build : Data → Final) :
    Realises interpretation first next directives
      (fun store => build (evaluated store))
      (fun store => (meant store).map build) where
  counted := realises.counted
  stable store later agree := by
    rw [realises.stable store later agree]
  runs store := by
    obtain ⟨final, data, ran, changed, meaning, holds⟩ := realises.runs store
    refine ⟨final, build data, ran, changed, ?_, ?_⟩
    · rw [meaning]
      rfl
    · intro later agree
      rw [holds later agree]

/-- The second of two parts sets other temporaries than the first, so the first
keeps its value, and the second means the same before and after the directives
of the first. -/
theorem both
    (firstRealises :
      Realises interpretation first middle before evaluated meant)
    (secondRealises :
      Realises interpretation middle next after other otherMeant)
    (build : Data → Other → Final) :
    Realises interpretation first next (before ++ after)
      (fun store => build (evaluated store) (other store))
      (fun store => (meant store).bind fun data =>
        (otherMeant store).map (build data)) where
  counted := Nat.le_trans firstRealises.counted secondRealises.counted
  stable store later agree := by
    rw [firstRealises.stable store later agree,
      secondRealises.stable store later agree]
  runs store := by
    obtain ⟨halfway, data, ran, changed, meaning, holds⟩ :=
      firstRealises.runs store
    obtain ⟨final, rest, ranOn, changedOn, restMeaning, restHolds⟩ :=
      secondRealises.runs halfway
    have sameRest : otherMeant store = some rest := by
      rw [← restMeaning]
      exact secondRealises.stable store halfway (changed.mono fun _ _ => trivial)
    have lower := firstRealises.counted
    have upper := secondRealises.counted
    refine ⟨final, build data rest,
      Template.execute?_append_of_some ran ranOn, ?_, ?_, ?_⟩
    · refine (changed.mono ?_).trans (changedOn.mono ?_) <;>
        intro number bounds <;> omega
    · rw [meaning, sameRest]
      rfl
    · intro later agree
      have agreeOn :
          AgreeExcept (fun number => middle ≤ number) halfway later := by
        refine (changedOn.mono ?_).trans (agree.mono ?_) <;>
          intro number bounds <;> omega
      rw [holds later agreeOn, restHolds later agree]

/-- A temporary keeps the value that it is set to. -/
theorem hoisting {expression : Template.Expression}
    {meant : Store Datum → Option Datum}
    (realises : Realises interpretation first next directives
      (fun store => expression.evaluate interpretation store) meant) :
    Realises interpretation first (next + 1)
      (directives ++ (Lowering.hoisting next expression).hoisted)
      (fun store => store (Template.temporaryName next)) meant where
  counted := Nat.le_succ_of_le realises.counted
  stable := realises.stable
  runs store := by
    obtain ⟨halfway, datum, ran, changed, meaning, holds⟩ := realises.runs store
    have value : expression.evaluate interpretation halfway = datum :=
      holds halfway (.refl _ halfway)
    have lower := realises.counted
    refine ⟨Function.update halfway (Template.temporaryName next) datum, datum,
      Template.execute?_append_of_some ran ?_, ?_, meaning, ?_⟩
    · rw [← value]
      rfl
    · refine (changed.mono ?_).trans (Template.agreeExcept_update ?_ halfway datum)
      · intro number bounds
        omega
      · omega
    · intro later agree
      rw [← agree.temporary (Nat.not_le.mpr (Nat.lt_succ_self next)),
        Function.update_self]

theorem congr {evaluatedAs : Store Datum → Data}
    {meantAs : Store Datum → Option Data}
    (realises :
      Realises interpretation first next directives evaluated meant)
    (sameValue : ∀ store, evaluatedAs store = evaluated store)
    (sameMeaning : ∀ store, meantAs store = meant store) :
    Realises interpretation first next directives evaluatedAs meantAs := by
  obtain rfl : evaluatedAs = evaluated := funext sameValue
  obtain rfl : meantAs = meant := funext sameMeaning
  exact realises

end Realises

theorem Realises.interpolated {first next : Nat}
    {directives : List Template.Element} {expression : Template.Expression}
    {meant : Store Datum → Option Datum}
    (realises : Realises interpretation first next directives
      (fun store => expression.evaluate interpretation store) meant) :
    Realises interpretation first next directives
      (fun store => expression.interpolated.evaluate interpretation store)
      meant :=
  realises.congr (fun store => expression.evaluate_interpolated store)
    fun _ => rfl

theorem Realises.string (first : Nat) (text : String)
    (origin : Template.Origin) :
    Realises interpretation first first []
      (fun store => (Template.Value.quoted text origin).evaluate interpretation
        store)
      (fun store => some (stringMeaning interpretation store text)) := by
  refine .alone _ (fun store => ?_) fun store later _ => ?_
  · unfold stringMeaning Template.Value.quoted
    split <;> rfl
  · unfold Template.Value.quoted
    split <;> rfl

theorem ordinary_receiver (target : Target) :
    Template.isTemporary target.receiver = false := by
  cases target <;> decide

/-! ## The steps of a derivation -/

namespace Task

/-- What the result of a step evaluates to. -/
@[reducible]
def Data (Datum : Type) : Task → Type
  | .name _ _ => String
  | .identifier _ | .number _ _ | .propertyName _ | .expression _ | .value _
  | .path _ | .bound _ _ | .range _ _ | .helperCall _ _ _ _ => Datum
  | .values _ => List Datum
  | .part _ => Datum × String
  | .parts _ => List (Datum × String)
  | .member _ => Datum × Datum
  | .members _ => List (Datum × Datum)

def identifiers : Task → List Identifier
  | .name _ _ | .number _ _ | .propertyName _ => []
  | .identifier named => [named]
  | .expression source | .value source | .path source | .bound _ source =>
      source.identifiers
  | .values sources => identifiersOfAll sources
  | .part source => source.identifiers
  | .parts sources => identifiersOfParts sources
  | .member source => source.identifiers
  | .members sources => identifiersOfMembers sources
  | .range _ arguments | .helperCall _ _ _ arguments => identifiersOfAll arguments

/-- Whether the source of a step has no assignment. -/
def assignsNothing : Task → Bool
  | .name _ _ | .identifier _ | .number _ _ | .propertyName _ => true
  | .expression source | .value source | .path source | .bound _ source =>
      source.assignsNothing
  | .values sources => allAssignNothing sources
  | .part source => source.assignsNothing
  | .parts sources => partsAssignNothing sources
  | .member source => source.assignsNothing
  | .members sources => membersAssignNothing sources
  | .range _ arguments | .helperCall _ _ _ arguments =>
      allAssignNothing arguments

/-- The result of a step, evaluated. -/
def evaluate (store : Store Datum) : (task : Task) → task.Result →
    task.Data Datum
  | .name _ _, result => result.text
  | .identifier _, result | .expression _, result | .range _ _, result
  | .helperCall _ _ _ _, result => result.evaluate interpretation store
  | .number _ _, result | .propertyName _, result | .value _, result =>
      result.evaluate interpretation store
  | .path _, result => result.evaluate interpretation store
  | .bound _ _, result => result.evaluate interpretation store
  | .values _, results => Template.evaluateValues interpretation store results
  | .part _, .mk result literal _ =>
      (result.evaluate interpretation store, literal)
  | .parts _, results => Template.evaluateSpans interpretation store results
  | .member _, .mk key result _ =>
      (key.evaluate interpretation store, result.evaluate interpretation store)
  | .members _, results =>
      Template.evaluateEntries interpretation store results

/-- The source of a step, evaluated. -/
def meaning (target : Target) (store : Store Datum) :
    (task : Task) → Option (task.Data Datum)
  | .name text _ => some (bareName text)
  | .identifier named => some (named.meaning interpretation target store)
  | .number text _ => (numericLiteral? text).map interpretation.number
  | .propertyName key => key.meaning interpretation store
  | .expression source | .value source | .path source | .bound _ source =>
      source.meaning interpretation target store
  | .values sources => meaningOfAll interpretation target store sources
  | .part source => source.meaning interpretation target store
  | .parts sources => meaningOfParts interpretation target store sources
  | .member source => source.meaning interpretation target store
  | .members sources => meaningOfMembers interpretation target store sources
  | .range _ arguments => rangeMeaning interpretation target store arguments
  | .helperCall exported _ _ arguments =>
      helperMeaning interpretation target store (bareName exported) arguments

end Task

variable {interpretation}

theorem evaluate_parts_cons (part : TemplatePart) (others : List TemplatePart)
    (span : Template.TemplateSpan) (spans : List Template.TemplateSpan)
    (store : Store Datum) :
    (Task.parts (part :: others)).evaluate interpretation store
        (span :: spans) =
      (Task.part part).evaluate interpretation store span ::
        (Task.parts others).evaluate interpretation store spans := by
  cases span
  rfl

theorem evaluate_members_cons (member : ObjectMember)
    (others : List ObjectMember) (entry : Template.MapEntry)
    (entries : List Template.MapEntry) (store : Store Datum) :
    (Task.members (member :: others)).evaluate interpretation store
        (entry :: entries) =
      (Task.member member).evaluate interpretation store entry ::
        (Task.members others).evaluate interpretation store entries := by
  cases entry
  rfl

/-- A derivation without assignments realises its source. -/
theorem Derives.realises {target : Target} {task : Task} {first next : Nat}
    {result : task.Result} {effect : Effect}
    (derived : Derives target task first result next effect)
    (free : task.assignsNothing = true)
    (unreserved : Unreserved (task.identifiers.map Identifier.name)) :
    Realises interpretation first next effect.hoisted
      (fun store => task.evaluate interpretation store result)
      (fun store => task.meaning interpretation target store) := by
  induction derived with
  | name valid => exact .alone _ (fun _ => rfl) fun _ _ _ => rfl
  | argument bound named =>
      obtain ⟨-, rfl, rfl, rfl⟩ := named.name_inversion
      refine .alone _ (fun store => ?_) fun store later agree => ?_
      · simp only [Task.meaning, Identifier.meaning, bound, and_self, if_true]
        rfl
      · have kept : store "ctx" = later "ctx" := agree.ordinary (by decide)
        simp only [Task.evaluate, Template.Path.chain, List.foldl,
          Template.Expression.evaluate, Template.Path.evaluate, kept]
  | variableName notArgument named =>
      obtain ⟨-, rfl, rfl, rfl⟩ := named.name_inversion
      rw [Effect.append_hoisted, naming_hoisted]
      refine .alone _ (fun store => ?_) fun store later agree => ?_
      · simp only [Task.meaning, Identifier.meaning, notArgument, if_false]
        rfl
      · exact agree.ordinary (unreserved _ List.mem_cons_self)
  | number parsed =>
      refine .alone _ (fun store => ?_) fun _ _ _ => rfl
      simp only [Task.meaning, parsed]
      rfl
  | identifierKey => exact .alone _ (fun _ => rfl) fun _ _ _ => rfl
  | stringKey => exact .string interpretation _ _ _
  | numberKey parsed realised => exact realised rfl unreserved_nil
  | identifier named realised => exact realised rfl unreserved
  | receiver =>
      refine .alone _ (fun _ => rfl) fun store later agree => ?_
      exact agree.ordinary (ordinary_receiver target)
  | numeral parsed realised => exact realised rfl unreserved_nil
  | string => exact .string interpretation _ _ _
  | boolean => exact .alone _ (fun _ => rfl) fun _ _ _ => rfl
  | template parts realised => exact (realised free unreserved).map _
  | array values realised => exact (realised free unreserved).map _
  | object members realised => exact (realised free unreserved).map _
  | parenthesized inner realised => exact (realised free unreserved).interpolated
  | unary supported operand realised =>
      refine ((realised free unreserved).interpolated.map _).congr (fun _ => rfl) ?_
      intro store
      simp only [Task.meaning, Expression.meaning, supported]
      rfl
  | binary supported left right leftRealised rightRealised =>
      simp only [Task.assignsNothing, Expression.assignsNothing,
        Bool.and_eq_true] at free
      simp only [Task.identifiers, Expression.identifiers, List.map_append,
        unreserved_append] at unreserved
      refine ((leftRealised free.1 unreserved.1).interpolated.both
        (rightRealised free.2 unreserved.2).interpolated _).congr (fun _ => rfl) ?_
      intro store
      simp only [Task.meaning, Expression.meaning, supported]
      rfl
  | assignment => cases free
  | access base name baseRealised =>
      obtain ⟨-, rfl, rfl, rfl⟩ := name.name_inversion
      rw [Effect.append_empty]
      exact (baseRealised free unreserved).map fun base =>
        interpretation.property base _
  | index base value baseRealised valueRealised =>
      simp only [Task.assignsNothing, Expression.assignsNothing,
        Bool.and_eq_true] at free
      simp only [Task.identifiers, Expression.identifiers, List.map_append,
        unreserved_append] at unreserved
      exact (baseRealised free.1 unreserved.1).both
        (valueRealised free.2 unreserved.2) _
  | rangeCall called range realised =>
      obtain ⟨named, moduleName, kind, rfl, bound⟩ :=
        exists_binding_of_helper called
      simp only [Task.identifiers, Expression.identifiers, List.map_append,
        unreserved_append] at unreserved
      refine (realised free unreserved.2).congr (fun _ => rfl) fun store => ?_
      simp only [Task.meaning, Expression.meaning, bound, if_true]
  | call called other helper realised =>
      obtain ⟨named, moduleName, kind, rfl, bound⟩ :=
        exists_binding_of_helper called
      simp only [Task.identifiers, Expression.identifiers, List.map_append,
        unreserved_append] at unreserved
      refine (realised free unreserved.2).congr (fun _ => rfl) fun store => ?_
      simp only [Task.meaning, Expression.meaning, bound, other, if_false]
  | methodCall base name values baseRealised nameRealised valuesRealised =>
      obtain ⟨-, rfl, rfl, rfl⟩ := name.name_inversion
      rw [Effect.append_empty]
      simp only [Task.assignsNothing, Expression.assignsNothing,
        Bool.and_eq_true] at free
      simp only [Task.identifiers, Expression.identifiers, List.map_append,
        unreserved_append] at unreserved
      exact (baseRealised free.1 unreserved.1).both
        (valuesRealised free.2 unreserved.2)
        fun base => interpretation.call base _
  | kept inner found realised =>
      refine (realised free unreserved).congr ?_ fun _ => rfl
      exact fun store => Template.Expression.evaluate_of_value? found store
  | hoisted inner found realised => exact (realised free unreserved).hoisting
  | keptPath inner found realised =>
      refine (realised free unreserved).congr ?_ fun _ => rfl
      exact fun store => Template.Expression.evaluate_of_path? found store
  | hoistedPath inner found realised => exact (realised free unreserved).hoisting
  | numberBound value realised => exact realised free unreserved
  | referenceBound value realised => exact realised free unreserved
  | noValues => exact .alone _ (fun _ => rfl) fun _ _ _ => rfl
  | moreValues value values valueRealised valuesRealised =>
      simp only [Task.assignsNothing, allAssignNothing, Bool.and_eq_true]
        at free
      simp only [Task.identifiers, identifiersOfAll, List.map_append,
        unreserved_append] at unreserved
      exact (valueRealised free.1 unreserved.1).both
        (valuesRealised free.2 unreserved.2) _
  | part value realised =>
      rw [Effect.append_hoisted, escaping_hoisted, List.append_nil]
      exact (realised free unreserved).map fun datum => (datum, _)
  | noParts => exact .alone _ (fun _ => rfl) fun _ _ _ => rfl
  | moreParts part parts partRealised partsRealised =>
      simp only [Task.assignsNothing, partsAssignNothing, Bool.and_eq_true]
        at free
      simp only [Task.identifiers, identifiersOfParts, List.map_append,
        unreserved_append] at unreserved
      refine ((partRealised free.1 unreserved.1).both
        (partsRealised free.2 unreserved.2) _).congr (fun store => ?_) fun _ => rfl
      exact evaluate_parts_cons _ _ _ _ store
  | shorthand named realised =>
      exact (realised rfl unreserved).map fun datum =>
        (interpretation.string _ .double, datum)
  | property key value keyRealised valueRealised =>
      exact (keyRealised rfl unreserved_nil).both
        (valueRealised free unreserved) Prod.mk
  | noMembers => exact .alone _ (fun _ => rfl) fun _ _ _ => rfl
  | moreMembers member members memberRealised membersRealised =>
      simp only [Task.assignsNothing, membersAssignNothing, Bool.and_eq_true]
        at free
      simp only [Task.identifiers, identifiersOfMembers, List.map_append,
        unreserved_append] at unreserved
      refine ((memberRealised free.1 unreserved.1).both
        (membersRealised free.2 unreserved.2) _).congr (fun store => ?_) fun _ => rfl
      exact evaluate_members_cons _ _ _ _ store
  | range lowest highest lowestRealised highestRealised =>
      simp only [Task.assignsNothing, allAssignNothing, Bool.and_eq_true]
        at free
      simp only [Task.identifiers, identifiersOfAll, List.map_append,
        unreserved_append] at unreserved
      exact (lowestRealised free.1 unreserved.1).both
        (highestRealised free.2.1 unreserved.2.1) _
  | helperCall base name values baseRealised nameRealised valuesRealised =>
      obtain ⟨-, rfl, rfl, rfl⟩ := name.name_inversion
      rw [Effect.append_empty]
      simp only [Task.assignsNothing, allAssignNothing, Bool.and_eq_true]
        at free
      simp only [Task.identifiers, identifiersOfAll, List.map_append,
        unreserved_append] at unreserved
      exact (baseRealised free.1 unreserved.1).both
        (valuesRealised free.2 unreserved.2)
        fun base => interpretation.call base _

/-! ## Meaning preserved -/

variable (interpretation)

/-- The directives of a step, run from any store, change only temporaries that
the step made, and its result then has the value that is meant in the store
before. -/
def PreservesMeaning {Result : Type} (step : Lower (Option Result))
    (evaluated : Store Datum → Result → Datum)
    (meant : Store Datum → Option Datum) : Prop :=
  Achieves step fun first result next directives =>
    ∀ store, ∃ final,
      execute? interpretation directives store = some final ∧
        meant store = some (evaluated final result) ∧
        AgreeExcept (fun number => first ≤ number ∧ number < next) store final

variable {interpretation}

theorem Realises.preserves {first next : Nat}
    {directives : List Template.Element} {evaluated : Store Datum → Datum}
    {meant : Store Datum → Option Datum}
    (realises : Realises interpretation first next directives evaluated meant)
    (store : Store Datum) :
    ∃ final, execute? interpretation directives store = some final ∧
      meant store = some (evaluated final) ∧
      AgreeExcept (fun number => first ≤ number ∧ number < next) store final := by
  obtain ⟨final, datum, ran, changed, meaning, holds⟩ := realises.runs store
  refine ⟨final, ran, ?_, changed⟩
  rw [meaning, holds final (.refl _ final)]

/-- Running the directives of a whole lowering and evaluating its result
computes what is meant. -/
theorem PreservesMeaning.computes {Result : Type} {step : Lower (Option Result)}
    {evaluated : Store Datum → Result → Datum}
    {meant : Store Datum → Option Datum}
    (preserves : PreservesMeaning interpretation step evaluated meant)
    (silent : (step.run {}).2.reports = []) (store : Store Datum) :
    ((step.run {}).1.bind fun result =>
        (execute? interpretation (step.run {}).2.hoisted store).map
          fun final => evaluated final result) =
      meant store := by
  obtain ⟨result, present, runs⟩ := Achieves.whole preserves silent
  obtain ⟨final, ran, meaning, -⟩ := runs store
  rw [present, meaning]
  exact congrArg (Option.map _) ran

/-- Hoisting preserves the meaning of expressions that assign nothing, as long
as no variable has the name of a temporary. -/
theorem hoisting_preserves_meaning (interpretation : Interpretation Datum)
    (target : Target) {source : Expression}
    (free : source.assignsNothing = true)
    (unreserved : Unreserved (source.identifiers.map Identifier.name)) :
    PreservesMeaning interpretation (lowerExpression target source)
        (fun store result => result.evaluate interpretation store)
        (fun store => source.meaning interpretation target store) ∧
      PreservesMeaning interpretation (lowerValue target source)
        (fun store result => result.evaluate interpretation store)
        (fun store => source.meaning interpretation target store) := by
  constructor
  · exact (Task.expression source).achieves fun derived =>
      (derived.realises free unreserved).preserves
  · exact (Task.value source).achieves fun derived =>
      (derived.realises free unreserved).preserves

theorem hoisting_preserves_meaning_sums :
    let span : Span := ⟨0, 0⟩
    let named := fun name => Expression.identifier ⟨name, span, .variableName⟩
    let source := Expression.index
      (.parenthesized (.binary .add (named "a") (named "$b") span) span)
      (.binary .multiply (named "a") (named "b") span) span
    (source.assignsNothing = true ∧
        Unreserved (source.identifiers.map Identifier.name)) ∧
      PreservesMeaning Template.Sample.arithmetic
          (lowerExpression .appsync source)
          (fun store result =>
            result.evaluate Template.Sample.arithmetic store)
          (fun store =>
            source.meaning Template.Sample.arithmetic .appsync store) ∧
        PreservesMeaning Template.Sample.arithmetic (lowerValue .appsync source)
          (fun store result =>
            result.evaluate Template.Sample.arithmetic store)
          (fun store =>
            source.meaning Template.Sample.arithmetic .appsync store) := by
  intro span named source
  have free : source.assignsNothing = true := rfl
  have unreserved : Unreserved (source.identifiers.map Identifier.name) := by
    decide
  exact ⟨⟨free, unreserved⟩,
    hoisting_preserves_meaning Template.Sample.arithmetic .appsync free
      unreserved⟩

/-- In `[$local_0, a + b]` the sum is put into the variable that the first
element is read from, since a leading `$` is dropped. -/
theorem hoisting_overwrites_dollar_name :
    let span : Span := ⟨0, 0⟩
    let named := fun name => Expression.identifier ⟨name, span, .variableName⟩
    let source := Expression.array
      [named "$local_0", .binary .add (named "a") (named "b") span] span
    (source.assignsNothing = true ∧
        ∀ identifier ∈ source.identifiers,
          Template.isTemporary identifier.name = false) ∧
      ¬ PreservesMeaning Template.Sample.arithmetic
          (lowerExpression .apigateway source)
          (fun store result =>
            result.evaluate Template.Sample.arithmetic store)
          (fun store =>
            source.meaning Template.Sample.arithmetic .apigateway store) := by
  intro span named source
  refine ⟨⟨rfl, by decide⟩, fun preserves => ?_⟩
  have silent :
      ((lowerExpression .apigateway source).run {}).2.reports = [] := by
    decide +kernel
  have computed := preserves.computes silent fun _ => .scalar 1
  exact absurd computed (by decide +kernel)

end VelocityScript.Lowering
