import VelocityScript.Proofs.Lowering.Derivation

/-!
# Every step reports or has a result

A step *settles* when it either reports nothing and has a result, or reports
something and has none.  The steps of the lowering of expressions all settle,
and those with a result are exactly the derivations of `Derives`.
-/

namespace VelocityScript.Lowering

open Script

section Steps

variable {Result Other Final : Type}

/-- The reports after a step are those before it and more. -/
def Extends (step : Lower Result) : Prop :=
  ∀ state : State, state.reports <+: (step.run state).2.reports

/-- A step that has no result, whatever happens before it. -/
def Withheld (step : Lower (Option Result)) : Prop :=
  Extends step ∧ ∀ state : State, (step.run state).1 = none

/-- A step, taken when `first` temporaries exist, reports nothing and has a
result that satisfies `post`, or it reports something and has no result. -/
def Settles (first : Nat) (post : Result → Nat → Effect → Prop)
    (step : Lower (Option Result)) : Prop :=
  ∀ state : State, state.temporaries = first →
    (∃ result next effect,
      step.run state = (some result, state.after next effect) ∧
        post result next effect) ∨
    (∃ final report others,
      step.run state = (none, final) ∧
        final.reports = state.reports ++ report :: others)

theorem run_bind (step : Lower Result) (continued : Result → Lower Other)
    (state : State) :
    (step >>= continued).run state =
      (continued (step.run state).1).run (step.run state).2 := rfl

theorem run_collecting (step : Lower Result) (state : State) :
    (collecting step).run state =
      (((step.run { state with hoisted := [] }).1,
          (step.run { state with hoisted := [] }).2.hoisted),
        { (step.run { state with hoisted := [] }).2 with
          hoisted := state.hoisted }) := rfl

theorem extends_pure (result : Result) : Extends (pure result : Lower Result) :=
  fun state => List.prefix_refl state.reports

theorem Extends.bind {step : Lower Result} {continued : Result → Lower Other}
    (extended : Extends step)
    (continuedExtended : ∀ result, Extends (continued result)) :
    Extends (step >>= continued) := by
  intro state
  rw [run_bind]
  exact (extended state).trans (continuedExtended _ _)

theorem extends_of_settles {step : Lower (Option Result)}
    {post : Nat → Result → Nat → Effect → Prop}
    (settled : ∀ first, Settles first (post first) step) : Extends step := by
  intro state
  rcases settled state.temporaries state rfl with
    ⟨result, next, effect, ran, _⟩ | ⟨final, report, others, ran, added⟩
  · rw [ran]
    exact List.prefix_refl state.reports
  · rw [ran]
    exact ⟨report :: others, added.symm⟩

theorem withheld_pure : Withheld (pure none : Lower (Option Result)) :=
  ⟨extends_pure none, fun _ => rfl⟩

theorem Withheld.after {step : Lower Result}
    {continued : Result → Lower (Option Other)} (extended : Extends step)
    (withheld : ∀ result, Withheld (continued result)) :
    Withheld (step >>= continued) := by
  constructor
  · exact extended.bind fun result => (withheld result).1
  · intro state
    rw [run_bind]
    exact (withheld _).2 _

theorem Withheld.map {step : Lower (Option Result)} (withheld : Withheld step)
    (build : Result → Other) :
    Withheld (do
      let result ← step
      return result.map build) := by
  constructor
  · exact withheld.1.bind fun _ => extends_pure _
  · intro state
    rw [run_bind, withheld.2 state]
    rfl

theorem settles_pure {first : Nat} {result : Result}
    {post : Result → Nat → Effect → Prop} (holds : post result first ∅) :
    Settles first post (pure (some result)) := by
  intro state counted
  subst counted
  exact Or.inl ⟨result, state.temporaries, ∅, by
    rw [State.after_empty]
    rfl, holds⟩

theorem settles_giveUp {first : Nat} {post : Result → Nat → Effect → Prop}
    (complaint : Complaint) (span : Span) :
    Settles first post (giveUp complaint span) :=
  fun state _ =>
    Or.inr ⟨{ state with reports := state.reports ++ [⟨complaint, span⟩] },
      ⟨complaint, span⟩, [], rfl, rfl⟩

theorem settles_giveUp_after {first : Nat}
    {post : Other → Nat → Effect → Prop} {step : Lower Result}
    (extended : Extends step) (complaint : Complaint) (span : Span) :
    Settles first post (do
      discard step
      giveUp complaint span) := by
  intro state _
  obtain ⟨added, reported⟩ := extended state
  obtain ⟨report, others, last⟩ : ∃ report others,
      added ++ [⟨complaint, span⟩] = report :: others :=
    List.exists_cons_of_ne_nil (by simp)
  refine Or.inr ⟨_, report, others, rfl, ?_⟩
  rw [← last, ← List.append_assoc, reported]
  rfl

theorem Settles.weaken {first : Nat} {step : Lower (Option Result)}
    {post weaker : Result → Nat → Effect → Prop}
    (settled : Settles first post step)
    (implies : ∀ result next effect,
      post result next effect → weaker result next effect) :
    Settles first weaker step := by
  intro state counted
  rcases settled state counted with
    ⟨result, next, effect, ran, holds⟩ | reported
  · exact Or.inl
      ⟨result, next, effect, ran, implies result next effect holds⟩
  · exact Or.inr reported

/-- Steps in sequence settle when the second settles after a result of the
first, and has no result where the first has none. -/
theorem Settles.bind {first : Nat} {step : Lower (Option Result)}
    {continued : Option Result → Lower (Option Other)}
    {post : Result → Nat → Effect → Prop}
    {final : Other → Nat → Effect → Prop}
    (settled : Settles first post step)
    (proceeds : ∀ result middle effect, post result middle effect →
      Settles middle (fun other next later => final other next (effect ++ later))
        (continued (some result)))
    (stops : Withheld (continued none)) :
    Settles first final (step >>= continued) := by
  intro state counted
  rw [run_bind]
  rcases settled state counted with
    ⟨result, middle, effect, ran, holds⟩ | ⟨failed, report, others, ran, added⟩
  · rw [ran]
    rcases proceeds result middle effect holds (state.after middle effect) rfl with
      ⟨other, next, later, ranLater, holdsLater⟩ | reported
    · rw [State.after_after] at ranLater
      exact Or.inl ⟨other, next, effect ++ later, ranLater, holdsLater⟩
    · exact Or.inr reported
  · rw [ran]
    obtain ⟨more, extended⟩ := stops.1 failed
    refine Or.inr
      ⟨((continued none).run failed).2, report, others ++ more, ?_, ?_⟩
    · exact Prod.ext (stops.2 failed) rfl
    · rw [← extended, added, List.append_assoc, List.cons_append]

/-- A result of a step passed through a function. -/
theorem Settles.map {first : Nat} {step : Lower (Option Result)}
    {post : Result → Nat → Effect → Prop} {build : Result → Other}
    {final : Other → Nat → Effect → Prop}
    (settled : Settles first post step)
    (implies : ∀ result next effect,
      post result next effect → final (build result) next effect) :
    Settles first final (do
      let result ← step
      return result.map build) := by
  refine settled.bind ?_ withheld_pure
  intro result middle effect holds
  refine settles_pure ?_
  rw [Effect.append_empty]
  exact implies result middle effect holds

/-- Two steps, both of which are taken before either gives up. -/
theorem Settles.both {first : Nat} {step : Lower (Option Result)}
    {second : Lower (Option Other)} {post : Result → Nat → Effect → Prop}
    {later : Nat → Other → Nat → Effect → Prop}
    {build : Result → Other → Final} {final : Final → Nat → Effect → Prop}
    (settled : Settles first post step)
    (secondSettled : ∀ middle, Settles middle (later middle) second)
    (implies : ∀ result middle before other next after,
      post result middle before → later middle other next after →
        final (build result other) next (before ++ after)) :
    Settles first final (do
      let result ← step
      let other ← second
      return result.bind fun result => other.map fun other =>
        build result other) := by
  refine settled.bind ?_ ?_
  · intro result middle before holds
    exact (secondSettled middle).map fun other next after holdsLater =>
      implies result middle before other next after holds holdsLater
  · exact Withheld.after (extends_of_settles secondSettled)
      fun _ => withheld_pure

end Steps

/-- A task settles, with a derivation where it has a result. -/
def Task.Settled (target : Target) (task : Task) : Prop :=
  ∀ first, Settles first (Derives target task first) (task.run target)

theorem Task.Settled.extends {target : Target} {task : Task}
    (settled : task.Settled target) : Extends (task.run target) :=
  extends_of_settles settled

/-! ## Names, numbers and conversions -/

theorem name_settled (target : Target) (text : String) (span : Span) :
    (Task.name text span).Settled target := by
  intro first
  by_cases valid : Template.isValidIdentifier text = true
  · simp only [Task.run, lowerName, valid, if_true]
    exact settles_pure (.name valid)
  · simp only [Task.run, lowerName, valid]
    exact settles_giveUp _ _

theorem number_settled (target : Target) (text : String) (span : Span) :
    (Task.number text span).Settled target := by
  intro first
  cases read : numericLiteral? text with
  | none =>
      simp only [Task.run, lowerNumber, read]
      exact settles_giveUp _ _
  | some value =>
      simp only [Task.run, lowerNumber, read]
      exact settles_pure (.number read)

theorem propertyName_settled (target : Target) (key : PropertyName) :
    (Task.propertyName key).Settled target := by
  intro first
  cases key with
  | identifier named => exact settles_pure .identifierKey
  | string text span => exact settles_pure .stringKey
  | number text span =>
      exact (number_settled target text span first).weaken
        fun _ _ _ derived => .numberKey derived
  | computed source span => exact settles_giveUp _ _
  | privateName text span => exact settles_giveUp _ _

/-- Asking for a prelude always succeeds. -/
theorem settles_modify {Result : Type} {first : Nat} {effect : Effect}
    {update : State → State} {continued : Lower (Option Result)}
    {post : Result → Nat → Effect → Prop}
    (updates : ∀ state, update state = state.after state.temporaries effect)
    (settled : Settles first
      (fun result next later => post result next (effect ++ later)) continued) :
    Settles first post (do
      modify update
      continued) := by
  intro state counted
  have ran : (do modify update; continued : Lower (Option Result)).run state =
      continued.run (state.after state.temporaries effect) := by
    rw [← updates state]
    rfl
  rw [ran]
  rcases settled (state.after state.temporaries effect) counted with
    ⟨result, next, later, ranLater, holds⟩ | reported
  · rw [State.after_after] at ranLater
    exact Or.inl ⟨result, next, effect ++ later, ranLater, holds⟩
  · exact Or.inr reported

theorem naming_of_not_stringUtility {binding : Binding}
    (other : ∀ moduleName exported,
      binding = .helper moduleName exported .stringUtility → False) :
    naming binding = ∅ := by
  unfold naming
  split
  · exact (other _ _ rfl).elim
  · rfl

theorem identifier_settled (target : Target) (named : Identifier) :
    (Task.identifier named).Settled target := by
  intro first
  have nameSettled := name_settled target named.name named.span
  by_cases argument : target = .appsync ∧ named.binding = .parameter
  · rw [Task.run, lowerIdentifier, if_pos argument]
    refine (nameSettled first).bind ?_ withheld_pure
    intro name middle effect derived
    refine settles_pure ?_
    rw [Effect.append_empty]
    exact .argument argument derived
  · rw [Task.run, lowerIdentifier, if_neg argument]
    split
    · next bound =>
        have updates : ∀ state : State,
            { state with needsStringClass := true } =
              state.after state.temporaries (naming named.binding) := by
          intro state
          simp [State.after, naming, bound]
        refine settles_modify updates ((nameSettled first).bind ?_ withheld_pure)
        intro name middle effect derived
        refine settles_pure ?_
        rw [Effect.append_empty]
        exact .variableName argument derived
    · next other =>
        refine (nameSettled first).bind ?_ withheld_pure
        intro name middle effect derived
        refine settles_pure ?_
        have named := Derives.variableName argument derived
        rw [naming_of_not_stringUtility other, Effect.empty_append] at named
        rw [Effect.append_empty]
        exact named

theorem run_hoist (result : Template.Expression) (state : State) :
    (hoist result).run state =
      (temporaryVariable state.temporaries result.origin,
        state.after (state.temporaries + 1)
          (hoisting state.temporaries result)) := by
  simp [hoist, temporary, emit, State.after, hoisting, temporaryVariable]
  rfl

/-- A result put into a temporary always settles. -/
theorem settles_hoist {Result : Type} {first : Nat}
    {result : Template.Expression} {build : Template.Variable → Result}
    {post : Result → Nat → Effect → Prop}
    (holds : post (build (temporaryVariable first result.origin)) (first + 1)
      (hoisting first result)) :
    Settles first post (do
      return some (build (← hoist result))) := by
  intro state counted
  subst counted
  refine Or.inl ⟨_, _, _, ?_, holds⟩
  rw [run_bind, run_hoist]
  rfl

theorem Task.Settled.value {target : Target} {source : Expression}
    (settled : (Task.expression source).Settled target) :
    (Task.value source).Settled target := by
  intro first
  refine (settled first).bind ?_ withheld_pure
  intro result middle effect derived
  cases converted : result.value? with
  | some value =>
      simp only [asValue, converted]
      refine settles_pure ?_
      rw [Effect.append_empty]
      exact .kept derived converted
  | none =>
      simp only [asValue, converted]
      exact settles_hoist (.hoisted derived converted)

theorem Task.Settled.path {target : Target} {source : Expression}
    (settled : (Task.expression source).Settled target) :
    (Task.path source).Settled target := by
  intro first
  refine (settled first).bind ?_ withheld_pure
  intro result middle effect derived
  cases converted : result.path? with
  | some path =>
      simp only [asPath, converted]
      refine settles_pure ?_
      rw [Effect.append_empty]
      exact .keptPath derived converted
  | none =>
      simp only [asPath, converted]
      exact settles_hoist (.hoistedPath derived converted)

theorem Task.Settled.bound {target : Target} {source : Expression}
    (side : BoundSide) (settled : (Task.expression source).Settled target) :
    (Task.bound side source).Settled target := by
  intro first
  refine (settled.value first).bind ?_ withheld_pure
  intro value middle effect derived
  cases value with
  | number value origin =>
      refine settles_pure ?_
      rw [Effect.append_empty]
      exact .numberBound derived
  | reference path origin =>
      refine settles_pure ?_
      rw [Effect.append_empty]
      exact .referenceBound derived
  | _ => exact settles_giveUp _ _

/-! ## The text of template literals -/

theorem escapedText_of_not_hasQuote {text : String}
    (plain : hasQuote text = false) : escapedText text = text := by
  have unchanged : ∀ characters : List Char, '"' ∉ characters →
      characters.flatMap (fun character =>
        if character = '"' then "$\x7besc.q\x7d".toList else [character]) =
        characters := by
    intro characters unquoted
    induction characters with
    | nil => rfl
    | cons character others inductionHypothesis =>
        simp only [List.mem_cons, not_or] at unquoted
        rw [List.flatMap_cons, if_neg (Ne.symm unquoted.1),
          inductionHypothesis unquoted.2, List.singleton_append]
  have unquoted : '"' ∉ text.toList := by
    simpa [hasQuote] using plain
  rw [escapedText, unchanged text.toList unquoted, String.ofList_toList]

/-- Escaping the quotes of a text always succeeds. -/
theorem settles_escapeQuotes {Result : Type} {first : Nat} {text : String}
    {continued : String → Lower (Option Result)}
    {post : Result → Nat → Effect → Prop}
    (settled : Settles first
      (fun result next later => post result next (escaping text ++ later))
      (continued (escapedText text))) :
    Settles first post (do
      let escaped ← escapeQuotes text
      continued escaped) := by
  by_cases quoted : hasQuote text = true
  · rw [escapeQuotes, if_pos quoted]
    exact settles_modify
      (fun state => by simp [State.after, escaping, quoted]) settled
  · have plain : hasQuote text = false := by simpa using quoted
    have silent : escaping text = ∅ := by rw [escaping, plain]; rfl
    rw [escapeQuotes, if_neg quoted]
    simp only [silent, Effect.empty_append,
      escapedText_of_not_hasQuote plain] at settled
    exact settled

/-! ## Assignments -/

theorem withheld_giveUp {Result : Type} (complaint : Complaint) (span : Span) :
    Withheld (giveUp complaint span : Lower (Option Result)) :=
  ⟨fun state => List.prefix_append state.reports [⟨complaint, span⟩],
    fun _ => rfl⟩

/-- Without a value, an assignment has no result. -/
theorem withheld_assign (combined : Option Template.BinaryOperator)
    (source : Expression) (left : Template.Expression) (span : Span) :
    Withheld (assign combined source (some left) none span) := by
  cases located : left.reference?.bind Template.Reference.place? with
  | none =>
      simp only [assign, located]
      exact withheld_giveUp _ _
  | some placed =>
      simp only [assign, located]
      exact withheld_pure

theorem settles_assign {first : Nat}
    {post : Template.Reference → Nat → Effect → Prop}
    (combined : Option Template.BinaryOperator) (source : Expression)
    (left right : Template.Expression) (span : Span)
    (holds : ∀ placed,
      left.reference?.bind Template.Reference.place? = some placed →
        post placed.reference first (assigning combined placed right span)) :
    Settles first post (assign combined source (some left) (some right) span) := by
  cases located : left.reference?.bind Template.Reference.place? with
  | none =>
      simp only [assign, located]
      exact settles_giveUp _ _
  | some placed =>
      simp only [assign, located]
      intro state counted
      subst counted
      refine Or.inl ⟨placed.reference, state.temporaries,
        assigning combined placed right span, ?_, holds placed located⟩
      simp only [State.after, assigning, Bool.or_false]
      rfl

/-- An assignment settles when its two sides do. -/
theorem settles_assignment {target : Target} {operator : AssignmentOperator}
    {combined : Option Template.BinaryOperator} {place value : Expression}
    {span : Span} {first : Nat} (supported : combined? operator = some combined)
    (placeSettled : (Task.expression place).Settled target)
    (valueSettled : (Task.expression value).Settled target) :
    Settles first
      (Derives target (.expression (.assignment operator place value span)) first)
      (do
        let left ← lowerExpression target place
        let right ← lowerExpression target value
        let reference ←
          assign combined place left (right.map .interpolated) span
        return reference.map fun reference =>
          Template.Expression.ofValue reference.value) := by
  refine (placeSettled first).bind ?_ ?_
  · intro left middle before placeDerived
    refine (valueSettled middle).bind ?_ ?_
    · intro right next after valueDerived
      refine (settles_assign combined place left right.interpolated span
        fun placed located => ?_).map fun _ _ _ derived => derived
      rw [← Effect.append_assoc]
      exact .assignment supported placeDerived valueDerived located
    · exact (withheld_assign combined place left span).map _
  · exact Withheld.after valueSettled.extends fun _ => withheld_pure

/-! ## Expressions -/

/-- A name lowers to a path. -/
theorem exists_path_of_identifier {target : Target} {named : Identifier}
    {first next : Nat} {result : Template.Expression} {effect : Effect}
    (derived : Derives target (.identifier named) first result next effect) :
    ∃ path, result = .ofPath path := by
  cases derived with
  | argument _ _ => exact ⟨_, rfl⟩
  | variableName _ _ => exact ⟨_, rfl⟩

theorem exists_access_of_method {target : Target} {callee : Expression}
    {first next : Nat} {result : Template.Expression} {effect : Effect}
    (form : calleeForm callee = .method)
    (derived : Derives target (.expression callee) first result next effect) :
    ∃ object property span base name middle before after,
      callee = .member object property false span ∧
        result = .ofPath (.property base name (some span)) ∧
        effect = before ++ after ∧
        Derives target (.path object) first base middle before ∧
        Derives target (.name property.name property.span) middle name next
          after := by
  cases derived with
  | access baseDerived nameDerived =>
      exact ⟨_, _, _, _, _, _, _, _, rfl, rfl, rfl, baseDerived, nameDerived⟩
  | identifier _ =>
      simp only [calleeForm] at form
      split at form <;> simp at form
  | _ => simp [calleeForm] at form

theorem shorthand_settled (target : Target) (named : Identifier) :
    (Task.member (.shorthand named)).Settled target := by
  intro first
  refine (identifier_settled target named first).bind ?_ withheld_pure
  intro result middle effect derived
  obtain ⟨path, rfl⟩ := exists_path_of_identifier derived
  refine settles_pure ?_
  rw [Effect.append_empty]
  exact .shorthand derived

theorem run_helperCall (target : Target) (exported : String)
    (nameSpan span : Span) (receiver : Expression) (others : List Expression) :
    (Task.helperCall exported nameSpan span (receiver :: others)).run target =
      (do
        let base ← (Task.path receiver).run target
        let name ← (Task.name exported nameSpan).run target
        let arguments ← (Task.values others).run target
        return base.bind fun base => name.bind fun name =>
          arguments.map fun arguments =>
            .ofPath (.call base name (some nameSpan) arguments (some span))) :=
  rfl

theorem run_part (target : Target) (source : Expression) (literal : String) :
    (Task.part (.mk source literal)).run target = (do
      match ← (Task.value source).run target with
      | none => return none
      | some value =>
          let text ← escapeQuotes literal
          return some (.mk value text (some source.span))) := by
  simp only [Task.run, lowerPart, lowerValue, bind_assoc]
  refine bind_congr fun lowered => bind_congr fun value => ?_
  cases value <;> rfl

mutual

theorem expression_settled (target : Target) :
    ∀ source : Expression, (Task.expression source).Settled target
  | .identifier named => fun first =>
      (identifier_settled target named first).weaken
        fun _ _ _ derived => .identifier derived
  | .receiver span => fun _ => settles_pure .receiver
  | .number text span => fun first =>
      (number_settled target text span first).map
        fun _ _ _ derived => .numeral derived
  | .string text span => fun _ => settles_pure .string
  | .boolean truth span => fun _ => settles_pure .boolean
  | .template head parts span => fun first => by
      refine settles_escapeQuotes ?_
      exact (parts_settled target parts first).map
        fun _ _ _ derived => .template derived
  | .array elements span => fun first =>
      (values_settled target elements first).map
        fun _ _ _ derived => .array derived
  | .object members span => fun first =>
      (members_settled target members first).map
        fun _ _ _ derived => .object derived
  | .parenthesized inner span => fun first =>
      (expression_settled target inner first).map
        fun _ _ _ derived => .parenthesized derived
  | .unary operator operand span => fun first => by
      have operandSettled := expression_settled target operand first
      cases supported : lowerUnaryOperator? operator with
      | none =>
          simp only [Task.run, lowerExpression, supported]
          exact settles_giveUp _ _
      | some lowered =>
          simp only [Task.run, lowerExpression, supported]
          exact operandSettled.map fun _ _ _ derived => .unary supported derived
  | .binary operator left right span => fun first => by
      have leftSettled := expression_settled target left
      have rightSettled := expression_settled target right
      cases supported : lowerBinaryOperator? operator with
      | none =>
          simp only [Task.run, lowerExpression, supported]
          exact settles_giveUp _ _
      | some lowered =>
          simp only [Task.run, lowerExpression, supported]
          exact (leftSettled first).both rightSettled
            fun _ _ _ _ _ _ leftDerived rightDerived =>
              .binary supported leftDerived rightDerived
  | .assignment operator place value span => fun first => by
      have placeSettled := expression_settled target place
      have valueSettled := expression_settled target value
      cases combines : combination operator with
      | unsupported =>
          simp only [Task.run, lowerExpression, combines]
          exact settles_giveUp _ _
      | replace =>
          simp only [Task.run, lowerExpression, combines]
          exact settles_assignment (by rw [combined?, combines]) placeSettled
            valueSettled
      | combine combined =>
          simp only [Task.run, lowerExpression, combines]
          exact settles_assignment (by rw [combined?, combines]) placeSettled
            valueSettled
  | .member object property true span => fun _ => settles_giveUp _ _
  | .member object property false span => fun first => by
      have objectSettled := (expression_settled target object).path
      have nameSettled := name_settled target property.name property.span
      exact (objectSettled first).both nameSettled
        fun _ _ _ _ _ _ objectDerived nameDerived =>
          .access objectDerived nameDerived
  | .index object subscript span => fun first => by
      have objectSettled := (expression_settled target object).path
      have subscriptSettled := (expression_settled target subscript).value
      exact (objectSettled first).both subscriptSettled
        fun _ _ _ _ _ _ objectDerived subscriptDerived =>
          .index objectDerived subscriptDerived
  | .call callee arguments returns span => fun first => by
      have calleeSettled := expression_settled target callee
      have argumentsSettled := values_settled target arguments
      cases form : calleeForm callee with
      | unsupported syntaxName =>
          simp only [Task.run, lowerExpression, form]
          exact settles_giveUp _ _
      | helper exported nameSpan =>
          simp only [Task.run, lowerExpression, form]
          split
          · next isRange =>
              subst isRange
              exact (range_settled target span arguments first).weaken
                fun _ _ _ derived => .rangeCall form derived
          · next notRange =>
              exact (helperCall_settled target exported nameSpan span arguments
                first).weaken fun _ _ _ derived => .call form notRange derived
      | method =>
          simp only [Task.run, lowerExpression, form]
          refine (calleeSettled first).bind ?_ ?_
          · intro result middle before calleeDerived
            obtain ⟨object, property, accessSpan, base, name, _, _, _, rfl, rfl,
              rfl, baseDerived, nameDerived⟩ :=
              exists_access_of_method form calleeDerived
            exact (argumentsSettled middle).map
              fun _ _ _ argumentsDerived =>
                .methodCall baseDerived nameDerived argumentsDerived
          · exact Withheld.after argumentsSettled.extends fun _ => withheld_pure
  | .other kind span => fun _ => settles_giveUp _ _

theorem helperCall_settled (target : Target) (exported : String)
    (nameSpan span : Span) :
    ∀ arguments : List Expression,
      (Task.helperCall exported nameSpan span arguments).Settled target
  | [] => fun _ => settles_giveUp _ _
  | receiver :: others => fun first => by
      have receiverSettled := (expression_settled target receiver).path
      have nameSettled := name_settled target exported nameSpan
      have othersSettled := values_settled target others
      rw [run_helperCall]
      refine (receiverSettled first).bind ?_ ?_
      · intro base second before receiverDerived
        refine (nameSettled second).both othersSettled ?_
        intro name third between values next after nameDerived othersDerived
        rw [← Effect.append_assoc]
        exact .helperCall receiverDerived nameDerived othersDerived
      · exact Withheld.after nameSettled.extends fun _ =>
          Withheld.after othersSettled.extends fun _ => withheld_pure

theorem range_settled (target : Target) (span : Span) :
    ∀ arguments : List Expression,
      (Task.range span arguments).Settled target
  | [] => fun _ => settles_giveUp _ _
  | [lowest] => fun _ =>
      settles_giveUp_after
        ((expression_settled target lowest).bound .first).extends _ _
  | lowest :: highest :: others => fun first => by
      have lowestSettled := (expression_settled target lowest).bound .first
      have highestSettled := (expression_settled target highest).bound .last
      exact (lowestSettled first).both highestSettled
        fun _ _ _ _ _ _ lowestDerived highestDerived =>
          .range lowestDerived highestDerived

theorem values_settled (target : Target) :
    ∀ sources : List Expression, (Task.values sources).Settled target
  | [] => fun _ => settles_pure .noValues
  | source :: others => fun first =>
      ((expression_settled target source).value first).both
        (values_settled target others)
        fun _ _ _ _ _ _ derived othersDerived =>
          .moreValues derived othersDerived

theorem part_settled (target : Target) :
    ∀ source : TemplatePart, (Task.part source).Settled target
  | .mk source literal => fun first => by
      have sourceSettled := (expression_settled target source).value
      rw [run_part]
      refine (sourceSettled first).bind ?_ withheld_pure
      intro value middle effect derived
      refine settles_escapeQuotes (settles_pure ?_)
      rw [Effect.append_empty]
      exact .part derived

theorem parts_settled (target : Target) :
    ∀ sources : List TemplatePart, (Task.parts sources).Settled target
  | [] => fun _ => settles_pure .noParts
  | part :: others => fun first =>
      (part_settled target part first).both (parts_settled target others)
        fun _ _ _ _ _ _ derived othersDerived =>
          .moreParts derived othersDerived

theorem member_settled (target : Target) :
    ∀ source : ObjectMember, (Task.member source).Settled target
  | .shorthand named => shorthand_settled target named
  | .property key source _ => fun first =>
      (propertyName_settled target key first).both
        (expression_settled target source).value
        fun _ _ _ _ _ _ keyDerived derived => .property keyDerived derived
  | .other _ _ => fun _ => settles_giveUp _ _

theorem members_settled (target : Target) :
    ∀ sources : List ObjectMember, (Task.members sources).Settled target
  | [] => fun _ => settles_pure .noMembers
  | member :: others => fun first =>
      (member_settled target member first).both (members_settled target others)
        fun _ _ _ _ _ _ derived othersDerived =>
          .moreMembers derived othersDerived

end

/-- Every step of the lowering of expressions settles. -/
theorem task_settled (target : Target) :
    ∀ task : Task, task.Settled target
  | .name text span => name_settled target text span
  | .identifier named => identifier_settled target named
  | .number text span => number_settled target text span
  | .propertyName key => propertyName_settled target key
  | .expression source => expression_settled target source
  | .value source => (expression_settled target source).value
  | .path source => (expression_settled target source).path
  | .bound side source => (expression_settled target source).bound side
  | .values sources => values_settled target sources
  | .part source => part_settled target source
  | .parts sources => parts_settled target sources
  | .member source => member_settled target source
  | .members sources => members_settled target sources
  | .range span arguments => range_settled target span arguments
  | .helperCall exported nameSpan span arguments =>
      helperCall_settled target exported nameSpan span arguments

/-- A step that has a result has a derivation, and adds nothing but its
effect. -/
theorem derives_of_run {target : Target} {task : Task} {result : task.Result}
    {state final : State}
    (ran : (task.run target).run state = (some result, final)) :
    ∃ next effect, final = state.after next effect ∧
      Derives target task state.temporaries result next effect := by
  rcases task_settled target task state.temporaries state rfl with
    ⟨found, next, effect, settled, derived⟩ | ⟨_, _, _, settled, _⟩
  · rw [ran] at settled
    cases settled
    exact ⟨next, effect, rfl, derived⟩
  · rw [ran] at settled
    cases settled

/-- A step that reports nothing has a derivation. -/
theorem derives_of_reports_eq {target : Target} {task : Task} {state : State}
    (silent : ((task.run target).run state).2.reports = state.reports) :
    ∃ result next effect,
      (task.run target).run state = (some result, state.after next effect) ∧
        Derives target task state.temporaries result next effect := by
  rcases task_settled target task state.temporaries state rfl with
    settled | ⟨final, report, others, ran, added⟩
  · exact settled
  · rw [ran, added] at silent
    simp at silent

/-- A step that adds no report has a result, and adds directives to those
collected before.  Of these, and of the numbers of temporaries before and after
the step, `holds` is true. -/
def Achieves {Result : Type} (step : Lower (Option Result))
    (holds : Nat → Result → Nat → List Template.Element → Prop) : Prop :=
  ∀ state : State, (step.run state).2.reports = state.reports →
    ∃ result directives,
      (step.run state).1 = some result ∧
        (step.run state).2.hoisted = state.hoisted ++ directives ∧
        holds state.temporaries result (step.run state).2.temporaries directives

/-- What holds of all derivations of a step is achieved by it. -/
theorem Task.achieves {target : Target} (task : Task)
    {holds : Nat → task.Result → Nat → List Template.Element → Prop}
    (derivable : ∀ {first result next effect},
      Derives target task first result next effect →
        holds first result next effect.hoisted) :
    Achieves (task.run target) holds := by
  intro state silent
  obtain ⟨result, next, effect, ran, derived⟩ := derives_of_reports_eq silent
  refine ⟨result, effect.hoisted, ?_, ?_, ?_⟩
  · rw [ran]
  · rw [ran]
    rfl
  · rw [ran]
    exact derivable derived

/-- A lowering as a whole starts with nothing collected. -/
theorem Achieves.whole {Result : Type} {step : Lower (Option Result)}
    {holds : Nat → Result → Nat → List Template.Element → Prop}
    (achieves : Achieves step holds) (silent : (step.run {}).2.reports = []) :
    ∃ result, (step.run {}).1 = some result ∧
      holds 0 result (step.run {}).2.temporaries (step.run {}).2.hoisted := by
  obtain ⟨result, directives, present, hoisted, held⟩ := achieves {} silent
  refine ⟨result, present, ?_⟩
  rw [hoisted]
  exact held

end VelocityScript.Lowering
