import VelocityScript.Proofs.Lowering.StatementDerivation

/-!
# Derivations are runs

`Derives` and `Yields` claim nothing that the lowering does not do: the step of
a derivation, taken from any state with the right number of temporaries, has
the derived result and adds the derived effect.
-/

namespace VelocityScript.Lowering

open Script

section Steps

variable {Result Other Final : Type}

/-- A step, taken when `first` temporaries exist, has the given result, leaves
`next` temporaries and adds `effect`. -/
def Ends (first : Nat) (result : Result) (next : Nat) (effect : Effect)
    (step : Lower Result) : Prop :=
  ∀ state : State, state.temporaries = first →
    step.run state = (result, state.after next effect)

theorem ends_pure (first : Nat) (result : Result) :
    Ends first result first ∅ (pure result) := by
  intro state counted
  subst counted
  rw [State.after_empty]
  rfl

theorem Ends.bind {first middle next : Nat} {before after : Effect}
    {result : Result} {other : Other} {step : Lower Result}
    {continued : Result → Lower Other}
    (ended : Ends first result middle before step)
    (continuedEnds : Ends middle other next after (continued result)) :
    Ends first other next (before ++ after) (step >>= continued) := by
  intro state counted
  rw [run_bind, ended state counted, continuedEnds _ rfl, State.after_after]

/-- A step whose result is passed on without further steps. -/
theorem Ends.thenPure {first next : Nat} {effect : Effect} {result : Result}
    {other : Other} {step : Lower Result} {continued : Result → Lower Other}
    (ended : Ends first result next effect step)
    (passedOn : continued result = pure other) :
    Ends first other next effect (step >>= continued) := by
  intro state counted
  rw [run_bind, ended state counted, passedOn]
  rfl

theorem Ends.both {first middle next : Nat} {before after : Effect}
    {result : Result} {other : Other} {step : Lower (Option Result)}
    {second : Lower (Option Other)} {build : Result → Other → Final}
    (ended : Ends first (some result) middle before step)
    (secondEnds : Ends middle (some other) next after second) :
    Ends first (some (build result other)) next (before ++ after) (do
      let result ← step
      let other ← second
      return result.bind fun result => other.map fun other =>
        build result other) :=
  ended.bind (secondEnds.thenPure rfl)

theorem ends_modify {first next : Nat} {effect later : Effect}
    {result : Result} {update : State → State} {continued : Lower Result}
    (updates : ∀ state, update state = state.after state.temporaries effect)
    (ended : Ends first result next later continued) :
    Ends first result next (effect ++ later) (do
      modify update
      continued) := by
  intro state counted
  have ran : (do modify update; continued : Lower Result).run state =
      continued.run (state.after state.temporaries effect) := by
    rw [← updates state]
    rfl
  rw [ran, ended (state.after state.temporaries effect) counted,
    State.after_after]

theorem ends_escapeQuotes {first next : Nat} {effect : Effect}
    {text : String} {result : Result} {continued : String → Lower Result}
    (ended : Ends first result next effect (continued (escapedText text))) :
    Ends first result next (escaping text ++ effect) (do
      let escaped ← escapeQuotes text
      continued escaped) := by
  by_cases quoted : hasQuote text = true
  · rw [escapeQuotes, if_pos quoted]
    exact ends_modify (fun state => by simp [State.after, escaping, quoted]) ended
  · have plain : hasQuote text = false := by simpa using quoted
    have silent : escaping text = ∅ := by rw [escaping, plain]; rfl
    rw [escapeQuotes, if_neg quoted, silent, Effect.empty_append]
    rw [escapedText_of_not_hasQuote plain] at ended
    exact ended

theorem ends_hoist (first : Nat) (result : Template.Expression) :
    Ends first (temporaryVariable first result.origin) (first + 1)
      (hoisting first result) (hoist result) := by
  intro state counted
  subst counted
  exact run_hoist result state

/-- Collecting the directives of a step takes them out of its effect. -/
theorem Ends.collected {first next : Nat} {effect : Effect} {result : Result}
    {step : Lower Result} (ended : Ends first result next effect step) :
    Ends first (result, effect.hoisted) next effect.collected
      (collecting step) := by
  intro state counted
  have ran := ended { state with hoisted := [] } counted
  rw [run_collecting, ran]
  simp [State.after]

theorem ends_some_iff {first next : Nat} {effect : Effect} {result : Result}
    {step : Lower Result} :
    Ends first (some result) next effect (do return some (← step)) ↔
      Ends first result next effect step := by
  constructor
  · intro ended state counted
    have ran := ended state counted
    rw [run_bind] at ran
    have results := congrArg Prod.fst ran
    have finals := congrArg Prod.snd ran
    exact Prod.ext (Option.some.inj results) finals
  · intro ended
    exact ended.thenPure rfl

theorem ends_temporary (first : Nat) (origin : Template.Origin) :
    Ends first (temporaryVariable first origin) (first + 1) ∅
      (temporary origin) := by
  intro state counted
  subst counted
  simp [temporary, State.after]
  rfl

end Steps

theorem ends_assign (first : Nat)
    (combined : Option Template.BinaryOperator) (source : Expression)
    {left : Template.Expression} (right : Template.Expression) (span : Span)
    {placed : Template.Place}
    (located : left.reference?.bind Template.Reference.place? = some placed) :
    Ends first (some placed.reference) first
      (assigning combined placed right span)
      (assign combined source (some left) (some right) span) := by
  intro state counted
  subst counted
  simp only [assign, located, State.after, assigning, Bool.or_false]
  rfl

theorem ends_assignment {target : Target} {operator : AssignmentOperator}
    {combined : Option Template.BinaryOperator} {place value : Expression}
    {span : Span} {first middle next : Nat} {left right : Template.Expression}
    {placed : Template.Place} {before after : Effect}
    (supported : combined? operator = some combined)
    (placeEnds : Ends first (some left) middle before
      (lowerExpression target place))
    (valueEnds : Ends middle (some right) next after
      (lowerExpression target value))
    (located : left.reference?.bind Template.Reference.place? = some placed) :
    Ends first (some (Template.Expression.ofValue placed.reference.value)) next
      (before ++ after ++ assigning combined placed right.interpolated span)
      (lowerExpression target (.assignment operator place value span)) := by
  have assigned := ends_assign next combined place right.interpolated span
    located
  rw [Effect.append_assoc]
  unfold combined? at supported
  split at supported
  · next combines =>
      cases supported
      simp only [lowerExpression, combines]
      exact placeEnds.bind (valueEnds.bind (assigned.thenPure rfl))
  · next combines =>
      cases supported
      simp only [lowerExpression, combines]
      exact placeEnds.bind (valueEnds.bind (assigned.thenPure rfl))
  · cases supported

/-- The step of a derivation has the derived result. -/
theorem Derives.ends {target : Target} {task : Task} {first next : Nat}
    {result : task.Result} {effect : Effect}
    (derived : Derives target task first result next effect) :
    Ends first (some result) next effect (task.run target) := by
  induction derived with
  | name valid =>
      simp only [Task.run, lowerName, valid, if_true]
      exact ends_pure _ _
  | argument argument _ nameEnds =>
      rw [Task.run, lowerIdentifier, if_pos argument]
      exact nameEnds.thenPure rfl
  | variableName notArgument _ nameEnds =>
      rw [Task.run, lowerIdentifier, if_neg notArgument]
      split
      · next bound =>
          rw [bound]
          exact ends_modify (fun state => by simp [State.after, naming])
            (nameEnds.thenPure rfl)
      · next other =>
          rw [naming_of_not_stringUtility other, Effect.empty_append]
          exact nameEnds.thenPure rfl
  | number read =>
      simp only [Task.run, lowerNumber, read]
      exact ends_pure _ _
  | identifierKey => exact ends_pure _ _
  | stringKey => exact ends_pure _ _
  | numberKey _ numberEnds => exact numberEnds
  | identifier _ identifierEnds => exact identifierEnds
  | receiver => exact ends_pure _ _
  | numeral _ numberEnds => exact numberEnds.thenPure rfl
  | string => exact ends_pure _ _
  | boolean => exact ends_pure _ _
  | template _ partsEnd => exact ends_escapeQuotes (partsEnd.thenPure rfl)
  | array _ valuesEnd => exact valuesEnd.thenPure rfl
  | object _ membersEnd => exact membersEnd.thenPure rfl
  | parenthesized _ innerEnds => exact innerEnds.thenPure rfl
  | unary supported _ operandEnds =>
      simp only [Task.run, lowerExpression, supported]
      exact operandEnds.thenPure rfl
  | binary supported _ _ leftEnds rightEnds =>
      simp only [Task.run, lowerExpression, supported]
      exact leftEnds.both rightEnds
  | assignment supported _ _ located placeEnds valueEnds =>
      exact ends_assignment supported placeEnds valueEnds located
  | access _ _ objectEnds nameEnds => exact objectEnds.both nameEnds
  | index _ _ objectEnds subscriptEnds => exact objectEnds.both subscriptEnds
  | rangeCall form _ rangeEnds =>
      simp only [Task.run, lowerExpression, form, if_true]
      exact rangeEnds
  | call form notRange _ callEnds =>
      simp only [Task.run, lowerExpression, form, notRange, if_false]
      exact callEnds
  | methodCall _ _ _ objectEnds nameEnds argumentsEnd =>
      exact Ends.bind (objectEnds.both nameEnds) (argumentsEnd.thenPure rfl)
  | kept _ converted sourceEnds =>
      refine sourceEnds.thenPure ?_
      simp only [asValue, converted]
  | hoisted _ converted sourceEnds =>
      refine sourceEnds.bind ?_
      simp only [asValue, converted]
      exact (ends_hoist _ _).thenPure rfl
  | keptPath _ converted sourceEnds =>
      refine sourceEnds.thenPure ?_
      simp only [asPath, converted]
  | hoistedPath _ converted sourceEnds =>
      refine sourceEnds.bind ?_
      simp only [asPath, converted]
      exact (ends_hoist _ _).thenPure rfl
  | numberBound _ valueEnds => exact valueEnds.thenPure rfl
  | referenceBound _ valueEnds => exact valueEnds.thenPure rfl
  | noValues => exact ends_pure _ _
  | moreValues _ _ valueEnds othersEnd => exact valueEnds.both othersEnd
  | part _ valueEnds =>
      rw [run_part]
      refine valueEnds.bind ?_
      rw [← Effect.append_empty (escaping _)]
      exact ends_escapeQuotes (ends_pure _ _)
  | noParts => exact ends_pure _ _
  | moreParts _ _ partEnds othersEnd => exact partEnds.both othersEnd
  | shorthand _ identifierEnds => exact identifierEnds.thenPure rfl
  | property _ _ keyEnds valueEnds => exact keyEnds.both valueEnds
  | noMembers => exact ends_pure _ _
  | moreMembers _ _ memberEnds othersEnd => exact memberEnds.both othersEnd
  | range _ _ lowestEnds highestEnds => exact lowestEnds.both highestEnds
  | helperCall _ _ _ receiverEnds nameEnds othersEnd =>
      rw [run_helperCall, Effect.append_assoc]
      refine receiverEnds.bind ?_
      exact nameEnds.both othersEnd

theorem entryNames?_length {elements : List BindingElement}
    {names : Identifier × Identifier}
    (found : entryNames? elements = some names) : elements.length = 2 := by
  rw [eq_of_entryNames? found]
  rfl

theorem ends_evaluation {target : Target} {source : Expression}
    {first next : Nat} {result : Template.Expression}
    {reference : Template.Reference} {effect : Effect}
    (alone : standsAlone source = true)
    (sourceEnds : Ends first (some result) next effect
      (lowerExpression target source))
    (converted : result.reference? = some reference) :
    Ends first (effect.hoisted ++ standalone target source reference) next
      effect.collected (lowerEvaluation target source) := by
  rw [lowerEvaluation_of_standsAlone target alone]
  refine sourceEnds.collected.thenPure ?_
  simp only [converted]

/-- The step of a derivation of statements has the derived result. -/
theorem Yields.ends {target : Target} {passage : Passage} {first next : Nat}
    {result : passage.Result} {effect : Effect}
    (yielded : Yields target passage first result next effect) :
    Ends first (some result) next effect (passage.run target) := by
  induction yielded with
  | assignment derived =>
      exact ends_some_iff.mpr (derived.ends.collected.thenPure rfl)
  | standalone alone derived converted =>
      exact ends_some_iff.mpr (ends_evaluation alone derived.ends converted)
  | noResult => exact ends_some_iff.mpr (ends_pure _ _)
  | result derived =>
      exact ends_some_iff.mpr (derived.ends.collected.thenPure rfl)
  | uninitialised absent =>
      refine ends_some_iff.mpr ?_
      simp only [lowerDeclaration, absent]
      exact ends_pure _ _
  | initialised named initialised nameDerived derived =>
      refine ends_some_iff.mpr ?_
      simp only [lowerDeclaration, named, initialised]
      exact nameDerived.ends.bind (derived.ends.collected.thenPure rfl)
  | noDeclarations => exact ends_some_iff.mpr (ends_pure _ _)
  | moreDeclarations _ _ declarationEnds othersEnd =>
      exact ends_some_iff.mpr ((ends_some_iff.mp declarationEnds).bind
        ((ends_some_iff.mp othersEnd).thenPure rfl))
  | item derived => exact derived.ends.thenPure rfl
  | entry found keyDerived valueDerived =>
      simp only [Passage.run, lowerLoopPattern, lowerEntryPattern,
        entryNames?_length found, found, ne_eq, not_true_eq_false, if_false]
      rw [← Effect.empty_append (_ ++ _)]
      exact (ends_temporary _ _).bind
        (keyDerived.ends.bind (valueDerived.ends.thenPure rfl))
  | branch derived _ _ consequentEnds alternativeEnds =>
      rw [Effect.append_assoc]
      exact derived.ends.bind ((ends_some_iff.mp consequentEnds).bind
        (alternativeEnds.thenPure rfl))
  | noAlternative => exact ends_pure _ _
  | chained _ branchEnds => exact branchEnds.thenPure rfl
  | otherwise notBranch _ sourceEnds =>
      rw [Passage.run, lowerAlternative_of_not_branch target notBranch]
      exact (ends_some_iff.mp sourceEnds).thenPure rfl
  | block _ statementsEnd =>
      exact ends_some_iff.mpr ((ends_some_iff.mp statementsEnd).thenPure rfl)
  | evaluation _ evaluationEnds =>
      exact ends_some_iff.mpr ((ends_some_iff.mp evaluationEnds).thenPure rfl)
  | branching _ branchEnds =>
      exact ends_some_iff.mpr (branchEnds.collected.thenPure rfl)
  | looping _ derived _ patternEnds bodyEnds =>
      rw [Effect.append_assoc]
      exact ends_some_iff.mpr (patternEnds.bind (derived.ends.collected.bind
        ((ends_some_iff.mp bodyEnds).thenPure rfl)))
  | returning _ resultEnds =>
      exact ends_some_iff.mpr ((ends_some_iff.mp resultEnds).thenPure rfl)
  | declaring _ declarationsEnd =>
      exact ends_some_iff.mpr ((ends_some_iff.mp declarationsEnd).thenPure rfl)
  | noStatements => exact ends_some_iff.mpr (ends_pure _ _)
  | moreStatements _ _ statementEnds othersEnd =>
      exact ends_some_iff.mpr ((ends_some_iff.mp statementEnds).bind
        ((ends_some_iff.mp othersEnd).thenPure rfl))

end VelocityScript.Lowering
