import VelocityScript.Proofs.Lowering.StatementDerivation
import VelocityScript.Proofs.Template.Printable

/-!
# What a template prints

No expression of a template is a bare path: every step that builds one, or that
collects a directive with one, interpolates it first.  This holds of every run,
whether it makes reports or not.
-/

namespace VelocityScript.Lowering

open Script
open Template.Expression (IsPrintable isPrintable_ofPath isPrintable_ofValue)

/-! ## Steps that collect what can be printed -/

/-- A condition on results that all of them meet. -/
def Anything {Result : Type} (_ : Result) : Prop := True

/-- The result, if there is one, is fine. -/
def Each {Result : Type} (fine : Result → Prop) (lowered : Option Result) : Prop :=
  ∀ result ∈ lowered, fine result

/-- Where the directives collected so far can be printed, they still can after a
step, whose result is fine. -/
def Keeps {Result : Type} (fine : Result → Prop) (step : Lower Result) : Prop :=
  ∀ state, Template.Printable state.hoisted →
    fine (step.run state).1 ∧ Template.Printable (step.run state).2.hoisted

section Steps

variable {Result Other Final : Type}
variable {fine : Result → Prop} {otherFine : Other → Prop} {finalFine : Final → Prop}

theorem each_none : Each fine none := by
  intro result member
  cases member

theorem each_some {result : Result} : Each fine (some result) ↔ fine result := by
  constructor
  · intro each
    exact each result rfl
  · rintro isFine _ ⟨⟩
    exact isFine

theorem Each.map {lowered : Option Result} {build : Result → Other}
    (each : Each fine lowered)
    (builds : ∀ result, fine result → otherFine (build result)) :
    Each otherFine (lowered.map build) := by
  cases lowered with
  | none => exact each_none
  | some result => exact each_some.mpr (builds result (each_some.mp each))

theorem Each.bind {lowered : Option Result} {build : Result → Option Other}
    (each : Each fine lowered)
    (builds : ∀ result, fine result → Each otherFine (build result)) :
    Each otherFine (lowered.bind build) := by
  cases lowered with
  | none => exact each_none
  | some result => exact builds result (each_some.mp each)

theorem keeps_pure {result : Result} (isFine : fine result) :
    Keeps fine (pure result) :=
  fun _ printable => ⟨isFine, printable⟩

theorem Keeps.bind {step : Lower Result} {continued : Result → Lower Other}
    (kept : Keeps fine step)
    (continues : ∀ result, fine result → Keeps otherFine (continued result)) :
    Keeps otherFine (step >>= continued) := by
  intro state printable
  obtain ⟨isFine, after⟩ := kept state printable
  exact continues _ isFine _ after

theorem Keeps.map {step : Lower Result} {build : Result → Other}
    (kept : Keeps fine step)
    (builds : ∀ result, fine result → otherFine (build result)) :
    Keeps otherFine (do return build (← step)) := by
  apply kept.bind
  intro result isFine
  exact keeps_pure (builds result isFine)

theorem Keeps.mapOption {step : Lower (Option Result)} {build : Result → Other}
    (kept : Keeps (Each fine) step)
    (builds : ∀ result, fine result → otherFine (build result)) :
    Keeps (Each otherFine) (do return (← step).map build) :=
  kept.map fun _ each => each.map builds

theorem Keeps.both {step : Lower (Option Result)} {second : Lower (Option Other)}
    {build : Result → Other → Final} (kept : Keeps (Each fine) step)
    (secondKept : Keeps (Each otherFine) second)
    (builds : ∀ result other, fine result → otherFine other →
      finalFine (build result other)) :
    Keeps (Each finalFine) (do
      let result ← step
      let other ← second
      return result.bind fun result => other.map fun other =>
        build result other) := by
  apply kept.bind
  intro result each
  apply secondKept.map
  intro other otherEach
  refine each.bind fun result isFine => ?_
  exact otherEach.map fun other otherIsFine =>
    builds result other isFine otherIsFine

/-- A change of what does not concern the directives. -/
theorem keeps_modify {update : State → State}
    (same : ∀ state, (update state).hoisted = state.hoisted) :
    Keeps Anything (modify update : Lower Unit) := by
  intro state printable
  refine ⟨trivial, ?_⟩
  change Template.Printable (update state).hoisted
  rw [same]
  exact printable

theorem keeps_note (complaint : Complaint) (span : Span) :
    Keeps Anything (note complaint span) :=
  keeps_modify fun _ => rfl

theorem keeps_giveUp (complaint : Complaint) (span : Span) :
    Keeps (Each fine) (giveUp complaint span) :=
  (keeps_note complaint span).bind fun _ _ => keeps_pure each_none

theorem keeps_emit {element : Template.Element}
    (elementPrintable : Template.Printable [element]) :
    Keeps Anything (emit element) :=
  fun _ printable => ⟨trivial, printable.append elementPrintable⟩

theorem keeps_collecting {step : Lower Result} (kept : Keeps fine step) :
    Keeps (fun collected => fine collected.1 ∧ Template.Printable collected.2)
      (collecting step) := by
  intro state printable
  rw [run_collecting]
  exact ⟨kept { state with hoisted := [] } Template.printable_nil, printable⟩

theorem keeps_temporary (origin : Template.Origin) :
    Keeps Anything (temporary origin) :=
  fun _ printable => ⟨trivial, printable⟩

end Steps

/-! ## Values, paths, bounds and assignments -/

theorem printable_assign {place : Template.Place} {value : Template.Expression}
    {origin : Template.Origin} (interpolated : Template.Interpolated value.subexpressions) :
    Template.Printable [.assign place value origin] :=
  Template.printable_single.mpr interpolated

theorem keeps_hoist {lowered : Template.Expression} (printable : lowered.IsPrintable)
    (noPath : lowered.path? = none) : Keeps Anything (hoist lowered) := by
  apply (keeps_temporary _).bind
  intro made _
  have directive := printable.subexpressions_of_path? noPath
  exact (keeps_emit (printable_assign directive)).bind fun _ _ => keeps_pure trivial

theorem keeps_asValue {lowered : Option Template.Expression}
    (each : Each IsPrintable lowered) :
    Keeps (Each Anything) (asValue lowered) := by
  cases lowered with
  | none => exact keeps_pure each_none
  | some expression =>
      simp only [asValue]
      cases noValue : expression.value? with
      | some value => exact keeps_pure (each_some.mpr trivial)
      | none =>
          have noPath := Template.Expression.path?_eq_none_of_value? noValue
          exact (keeps_hoist (each_some.mp each) noPath).bind fun _ _ =>
            keeps_pure (each_some.mpr trivial)

theorem keeps_asPath {lowered : Option Template.Expression}
    (each : Each IsPrintable lowered) :
    Keeps (Each Anything) (asPath lowered) := by
  cases lowered with
  | none => exact keeps_pure each_none
  | some expression =>
      simp only [asPath]
      cases noPath : expression.path? with
      | some path => exact keeps_pure (each_some.mpr trivial)
      | none =>
          exact (keeps_hoist (each_some.mp each) noPath).bind fun _ _ =>
            keeps_pure (each_some.mpr trivial)

theorem keeps_asBound (side : BoundSide) (span : Span)
    (lowered : Option Template.Value) :
    Keeps (Each Anything) (asBound side span lowered) := by
  cases lowered with
  | none => exact keeps_pure each_none
  | some value =>
      cases value with
      | number => exact keeps_pure (each_some.mpr trivial)
      | reference => exact keeps_pure (each_some.mpr trivial)
      | _ => exact keeps_giveUp _ _

/-- What an assignment gives its place is interpolated, and so is what it combines
with that. -/
theorem keeps_assign (combined : Option Template.BinaryOperator)
    (source : Expression) (left : Option Template.Expression)
    {right : Option Template.Expression} (each : Each IsPrintable right)
    (span : Span) :
    Keeps (Each Anything)
      (assign combined source left (right.map .interpolated) span) := by
  cases left with
  | none => exact keeps_pure each_none
  | some left =>
      simp only [assign]
      cases left.reference?.bind Template.Reference.place? with
      | none => exact keeps_giveUp _ _
      | some place =>
          cases right with
          | none => exact keeps_pure each_none
          | some right =>
              have printable := each_some.mp each
              have assigned : Template.Interpolated
                  (assignedValue combined place right.interpolated
                    span).subexpressions := by
                cases combined with
                | none => exact printable
                | some operator =>
                    exact Template.Expression.isPrintable_binary
                      (isPrintable_ofValue place.reference.value) printable operator _
              exact (keeps_emit (printable_assign assigned)).bind fun _ _ =>
                keeps_pure (each_some.mpr trivial)

/-! ## Names, numbers and texts -/

theorem keeps_lowerName (name : String) (span : Span) :
    Keeps (Each Anything) (lowerName name span) := by
  unfold lowerName
  by_cases valid : Template.isValidIdentifier name = true
  · rw [if_pos valid]
    exact keeps_pure (each_some.mpr trivial)
  · rw [if_neg valid]
    exact keeps_giveUp _ _

theorem keeps_lowerNumber (text : String) (span : Span) :
    Keeps (Each Anything) (lowerNumber text span) := by
  unfold lowerNumber
  cases numericLiteral? text with
  | none => exact keeps_giveUp _ _
  | some value => exact keeps_pure (each_some.mpr trivial)

theorem keeps_lowerPropertyName (key : PropertyName) :
    Keeps (Each Anything) (lowerPropertyName key) := by
  cases key with
  | identifier name => exact keeps_pure (each_some.mpr trivial)
  | string text span => exact keeps_pure (each_some.mpr trivial)
  | number text span => exact keeps_lowerNumber text span
  | computed expression span => exact keeps_giveUp _ _
  | privateName text span => exact keeps_giveUp _ _

theorem keeps_escapeQuotes (text : String) :
    Keeps Anything (escapeQuotes text) := by
  unfold escapeQuotes
  by_cases quoted : hasQuote text = true
  · rw [if_pos quoted]
    exact Keeps.bind (keeps_modify fun _ => rfl) fun _ _ => keeps_pure trivial
  · rw [if_neg quoted]
    exact keeps_pure trivial

/-- A name that is lowered to a path. -/
theorem keeps_named (name : String) (span : Span)
    (build : Template.Identifier → Template.Path) :
    Keeps (Each IsPrintable) (do
      match ← lowerName name span with
      | none => return none
      | some name => return some (.ofPath (build name))) := by
  apply (keeps_lowerName name span).bind
  intro lowered _
  cases lowered with
  | none => exact keeps_pure each_none
  | some name => exact keeps_pure (each_some.mpr (isPrintable_ofPath _))

theorem keeps_lowerIdentifier (target : Target) (named : Identifier) :
    Keeps (Each IsPrintable) (lowerIdentifier target named) := by
  unfold lowerIdentifier
  split
  · exact keeps_named _ _ _
  · split
    · exact Keeps.bind (keeps_modify fun _ => rfl) fun _ _ => keeps_named _ _ _
    · exact keeps_named _ _ _

section Expressions

variable {step : Lower (Option Template.Expression)}

theorem Keeps.value (kept : Keeps (Each IsPrintable) step) :
    Keeps (Each Anything) (do asValue (← step)) :=
  kept.bind fun _ each => keeps_asValue each

theorem Keeps.path (kept : Keeps (Each IsPrintable) step) :
    Keeps (Each Anything) (do asPath (← step)) :=
  kept.bind fun _ each => keeps_asPath each

theorem Keeps.bound (kept : Keeps (Each IsPrintable) step) (side : BoundSide)
    (span : Span) :
    Keeps (Each Anything) (do asBound side span (← asValue (← step))) :=
  kept.bind fun _ each =>
    (keeps_asValue each).bind fun value _ => keeps_asBound side span value

theorem Keeps.assigned {second : Lower (Option Template.Expression)}
    (left : Keeps (Each IsPrintable) step)
    (right : Keeps (Each IsPrintable) second)
    (combined : Option Template.BinaryOperator) (source : Expression)
    (span : Span) :
    Keeps (Each IsPrintable) (do
      let left ← step
      let right ← second
      let reference ←
        assign combined source left (right.map .interpolated) span
      return reference.map fun reference =>
        Template.Expression.ofValue reference.value) := by
  apply left.bind
  intro place _
  apply right.bind
  intro value each
  apply (keeps_assign combined source place each span).mapOption
  intro reference _
  exact isPrintable_ofValue _

end Expressions

/-! ## Expressions -/

mutual

theorem keeps_expression (target : Target) :
    ∀ source : Expression,
      Keeps (Each IsPrintable) (lowerExpression target source)
  | .identifier name => keeps_lowerIdentifier target name
  | .receiver _ => keeps_pure (each_some.mpr (isPrintable_ofPath _))
  | .number text span =>
      (keeps_lowerNumber text span).mapOption fun _ _ => isPrintable_ofValue _
  | .string _ _ => keeps_pure (each_some.mpr (isPrintable_ofValue _))
  | .boolean _ _ => keeps_pure (each_some.mpr (isPrintable_ofValue _))
  | .template head parts _ => by
      apply (keeps_escapeQuotes head).bind
      intro escaped _
      exact (keeps_parts target parts).mapOption fun _ _ => isPrintable_ofValue _
  | .array elements _ =>
      (keeps_values target elements).mapOption fun _ _ => isPrintable_ofValue _
  | .object members _ =>
      (keeps_members target members).mapOption fun _ _ => isPrintable_ofValue _
  | .parenthesized inner _ =>
      (keeps_expression target inner).mapOption fun _ printable =>
        Template.Expression.isPrintable_parenthesized printable _
  | .unary operator operand _ => by
      have operands := keeps_expression target operand
      simp only [lowerExpression]
      split
      · exact keeps_giveUp _ _
      · exact operands.mapOption fun _ printable =>
          Template.Expression.isPrintable_unary printable _ _
  | .binary operator left right _ => by
      have lefts := keeps_expression target left
      have rights := keeps_expression target right
      simp only [lowerExpression]
      split
      · exact keeps_giveUp _ _
      · exact lefts.both rights fun _ _ leftSide rightSide =>
          Template.Expression.isPrintable_binary leftSide rightSide _ _
  | .assignment operator place value span => by
      have places := keeps_expression target place
      have values := keeps_expression target value
      have assigned := fun combined => places.assigned values combined place span
      simp only [lowerExpression]
      split
      · exact keeps_giveUp _ _
      · exact assigned none
      · next combined _ => exact assigned (some combined)
  | .member object property isPrivate span => by
      have bases := (keeps_expression target object).path
      simp only [lowerExpression]
      split
      · exact keeps_giveUp _ _
      · exact bases.both (keeps_lowerName _ _) fun _ _ _ _ => isPrintable_ofPath _
  | .index object subscript _ =>
      (keeps_expression target object).path.both
        (keeps_expression target subscript).value
        fun _ _ _ _ => isPrintable_ofPath _
  | .call callee arguments _ span => by
      have callees := keeps_expression target callee
      have values := keeps_values target arguments
      have ranges := keeps_range target arguments
      have helpers := keeps_helperCall target arguments
      simp only [lowerExpression]
      split
      · exact keeps_giveUp _ _
      · split
        · exact ranges span
        · exact helpers _ _ span
      · apply callees.bind
        intro method _
        apply values.bind
        intro arguments each
        split
        · exact keeps_pure each_none
        · exact keeps_pure (each.map fun _ _ => isPrintable_ofPath _)
        · exact keeps_giveUp _ _
  | .other _ _ => keeps_giveUp _ _

theorem keeps_helperCall (target : Target) :
    ∀ (arguments : List Expression) (exported : String) (nameSpan span : Span),
      Keeps (Each IsPrintable)
        (lowerHelperCall target exported nameSpan span arguments)
  | [], _, _, _ => keeps_giveUp _ _
  | receiver :: others, exported, nameSpan, _ => by
      apply (keeps_expression target receiver).bind
      intro lowered each
      apply (keeps_asPath each).bind
      intro base _
      apply (keeps_lowerName exported nameSpan).bind
      intro name _
      apply (keeps_values target others).map
      intro arguments each
      cases base with
      | none => exact each_none
      | some base =>
          cases name with
          | none => exact each_none
          | some name => exact each.map fun _ _ => isPrintable_ofPath _

theorem keeps_range (target : Target) :
    ∀ (arguments : List Expression) (span : Span),
      Keeps (Each IsPrintable) (lowerRange target span arguments)
  | [], _ => keeps_giveUp _ _
  | [first], _ =>
      ((keeps_expression target first).bound .first first.span).bind
        fun _ _ => keeps_giveUp _ _
  | first :: last :: _, _ =>
      ((keeps_expression target first).bound .first first.span).both
        ((keeps_expression target last).bound .last last.span)
        fun _ _ _ _ => isPrintable_ofValue _

theorem keeps_values (target : Target) :
    ∀ sources : List Expression,
      Keeps (Each Anything) (lowerValues target sources)
  | [] => keeps_pure (each_some.mpr trivial)
  | source :: others =>
      (keeps_expression target source).value.both (keeps_values target others)
        fun _ _ _ _ => trivial

theorem keeps_part (target : Target) :
    ∀ part : TemplatePart, Keeps (Each Anything) (lowerPart target part)
  | .mk source literal => by
      simp only [lowerPart]
      apply (keeps_expression target source).bind
      intro lowered each
      apply (keeps_asValue each).bind
      intro value _
      cases value with
      | none => exact keeps_pure each_none
      | some value =>
          exact (keeps_escapeQuotes literal).bind fun _ _ =>
            keeps_pure (each_some.mpr trivial)

theorem keeps_parts (target : Target) :
    ∀ parts : List TemplatePart,
      Keeps (Each Anything) (lowerParts target parts)
  | [] => keeps_pure (each_some.mpr trivial)
  | part :: others =>
      (keeps_part target part).both (keeps_parts target others)
        fun _ _ _ _ => trivial

theorem keeps_member (target : Target) :
    ∀ member : ObjectMember, Keeps (Each Anything) (lowerMember target member)
  | .shorthand named =>
      (keeps_lowerIdentifier target named).value.mapOption fun _ _ => trivial
  | .property name value _ =>
      (keeps_lowerPropertyName name).both (keeps_expression target value).value
        fun _ _ _ _ => trivial
  | .other _ _ => keeps_giveUp _ _

theorem keeps_members (target : Target) :
    ∀ members : List ObjectMember,
      Keeps (Each Anything) (lowerMembers target members)
  | [] => keeps_pure (each_some.mpr trivial)
  | member :: others =>
      (keeps_member target member).both (keeps_members target others)
        fun _ _ _ _ => trivial

end

/-! ## Statements without statements inside -/

theorem printable_standalone (target : Target) (source : Expression)
    (reference : Template.Reference) :
    Template.Printable (standalone target source reference) := by
  unfold standalone
  by_cases dropped : (isCall reference && !returnsNothing source) = true
  · rw [if_pos dropped]
    cases target with
    | appsync => exact Template.printable_nil
    | apigateway => exact printable_assign (isPrintable_ofValue _)
  · rw [if_neg dropped]
    exact Template.printable_nil

theorem keeps_evaluation (target : Target) (source : Expression) :
    Keeps Template.Printable (lowerEvaluation target source) := by
  unfold lowerEvaluation
  have collected := keeps_collecting (keeps_expression target source)
  split
  · exact (keeps_collecting (keeps_expression target _)).map
      fun _ fine => fine.2
  · exact (keeps_note _ _).bind fun _ _ => keeps_pure Template.printable_nil
  · apply collected.bind
    rintro ⟨lowered, hoisted⟩ ⟨-, printable⟩
    cases lowered with
    | none => exact keeps_pure printable
    | some lowered =>
        dsimp only
        cases lowered.reference? with
        | none => exact (keeps_note _ _).bind fun _ _ => keeps_pure printable
        | some reference =>
            exact keeps_pure
              (printable.append (printable_standalone target source reference))

theorem printable_emit (value : Option Template.Value) :
    Template.Printable (value.map .emit).toList := by
  cases value <;> exact Template.printable_nil

theorem keeps_result (target : Target) (returned : Option Expression) :
    Keeps Template.Printable (lowerResult target returned) := by
  cases returned with
  | none => exact keeps_pure Template.printable_nil
  | some source =>
      apply (keeps_collecting (keeps_expression target source).value).map
      rintro ⟨value, hoisted⟩ ⟨-, printable⟩
      have before : Template.Printable
          (if hoisted.isEmpty then [] else hoisted ++ [.newLine]) := by
        split
        · exact Template.printable_nil
        · exact printable.append Template.printable_nil
      exact before.append (printable_emit value)

theorem keeps_declaration (target : Target) (declaration : Declaration) :
    Keeps Template.Printable (lowerDeclaration target declaration) := by
  unfold lowerDeclaration
  split
  · exact keeps_pure Template.printable_nil
  · next initial _ =>
      split
      · apply (keeps_lowerName _ _).bind
        intro place _
        apply (keeps_collecting (keeps_expression target initial)).bind
        rintro ⟨lowered, hoisted⟩ ⟨each, printable⟩
        cases place with
        | none => exact keeps_pure printable
        | some place =>
            cases lowered with
            | none => exact keeps_pure printable
            | some value =>
                have assigned : value.IsPrintable := each_some.mp each
                exact keeps_pure (printable.append (printable_assign assigned))
      · exact (keeps_note _ _).bind fun _ _ => keeps_pure Template.printable_nil

theorem keeps_declarations (target : Target) (declared : List Declaration) :
    Keeps Template.Printable (lowerDeclarations target declared) := by
  induction declared with
  | nil => exact keeps_pure Template.printable_nil
  | cons declaration others inductionHypothesis =>
      apply (keeps_declaration target declaration).bind
      intro elements printable
      apply inductionHypothesis.map
      intro rest restPrintable
      exact printable.append restPrintable

theorem keeps_loopPattern (pattern : BindingName) :
    Keeps (Each fun made => Template.Printable made.2)
      (lowerLoopPattern pattern) := by
  cases pattern with
  | identifier name =>
      exact (keeps_lowerName _ _).mapOption fun _ _ => Template.printable_nil
  | object properties span => exact keeps_giveUp _ _
  | array elements span =>
      simp only [lowerLoopPattern, lowerEntryPattern]
      split
      · exact keeps_giveUp _ _
      · split
        · exact keeps_giveUp _ _
        · apply (keeps_temporary _).bind
          intro entry _
          apply (keeps_lowerName _ _).bind
          intro key _
          cases key with
          | none => exact keeps_pure each_none
          | some key =>
              apply (keeps_lowerName _ _).bind
              intro value _
              cases value with
              | none => exact keeps_pure each_none
              | some value =>
                  have taken : ∀ place property span, Template.Printable
                      [entryPart entry place property span] :=
                    fun _ _ _ => printable_assign (isPrintable_ofValue _)
                  exact keeps_pure (each_some.mpr
                    ((taken _ _ _).append
                      ((taken _ _ _).append Template.printable_nil)))

/-! ## Statements -/

/-- No expression in what follows the first clause of a branch is a bare path. -/
structure BranchRest.IsPrintable (rest : BranchRest) : Prop where
  others : Template.Interpolated (Template.expressionsOfClauses rest.others)
  otherwise : Template.Interpolated
    (Template.expressionsOfOtherwise rest.otherwise)

structure BranchParts.IsPrintable (parts : BranchParts) : Prop where
  first : Template.Interpolated parts.first.expressions
  others : Template.Interpolated (Template.expressionsOfClauses parts.others)
  otherwise : Template.Interpolated
    (Template.expressionsOfOtherwise parts.otherwise)

theorem keeps_branch {condition : Lower (Option Template.Expression)}
    {consequent : Lower (List Template.Element)}
    {alternative : Lower (Option BranchRest)}
    (conditions : Keeps (Each IsPrintable) condition)
    (elements : Keeps Template.Printable consequent) (span : Span)
    (rests : Keeps (Each BranchRest.IsPrintable) alternative) :
    Keeps (Each BranchParts.IsPrintable)
      (lowerBranch condition consequent span alternative) := by
  apply conditions.bind
  intro guard guarded
  apply elements.bind
  intro body printable
  apply rests.map
  intro rest follows
  refine guarded.bind fun guard guardPrintable => ?_
  refine follows.map fun rest restPrintable => ?_
  have first := Template.interpolated_append.mpr ⟨guardPrintable, printable⟩
  exact ⟨first, restPrintable.others, restPrintable.otherwise⟩

theorem interpolated_branch {parts : BranchParts} (printable : parts.IsPrintable)
    (origin : Template.Origin) :
    Template.Interpolated (Template.Element.branch parts.first parts.others
      parts.otherwise origin).expressions := by
  simp only [Template.Element.expressions, Template.interpolated_append]
  exact ⟨⟨printable.first, printable.others⟩, printable.otherwise⟩

theorem Each.printable_toList {element : Option Template.Element}
    (each : Each (fun element => Template.Interpolated element.expressions)
      element) :
    Template.Printable element.toList := by
  cases element with
  | none => exact Template.printable_nil
  | some element =>
      exact Template.printable_single.mpr (each element rfl)

theorem printable_blankLines (placement : Placement) :
    Template.Printable (blankLines placement) := by
  unfold blankLines
  induction placement.leadingNewlines - 1 with
  | zero => exact Template.printable_nil
  | succ count inductionHypothesis => exact inductionHypothesis

theorem Keeps.spaced {step : Lower (List Template.Element)}
    (elements : Keeps Template.Printable step) (placement : Placement) :
    Keeps Template.Printable (do return blankLines placement ++ (← step)) :=
  elements.map fun _ printable => (printable_blankLines placement).append printable

/-- The other side of a branch, where it is no branch. -/
theorem keeps_otherwise {target : Target} {source : Statement}
    (notBranch : isBranch source = false)
    (elements : Keeps Template.Printable (lowerStatement target source)) :
    Keeps (Each BranchRest.IsPrintable) (lowerAlternative target (some source)) := by
  rw [lowerAlternative_of_not_branch target notBranch]
  apply elements.map
  intro body printable
  exact each_some.mpr ⟨Template.interpolated_nil, printable⟩

mutual

theorem keeps_statement (target : Target) :
    ∀ source : Statement, Keeps Template.Printable (lowerStatement target source)
  | .block statements placement =>
      (keeps_statements target statements).spaced placement
  | .expression evaluated placement =>
      (keeps_evaluation target evaluated).spaced placement
  | .branch condition consequent alternative placement => by
      have parts := keeps_branch (keeps_expression target condition)
        (keeps_statement target consequent) consequent.span
        (keeps_alternative target alternative)
      apply (keeps_collecting parts).map
      rintro ⟨made, hoisted⟩ ⟨each, printable⟩
      apply ((printable_blankLines placement).append printable).append
      apply Each.printable_toList
      exact each.map fun _ fine => interpolated_branch fine _
  | .loop header iterable body placement => by
      have values := keeps_collecting (keeps_expression target iterable).value
      have bodies := keeps_statement target body
      cases header with
      | expression assigned =>
          exact (keeps_note _ _).bind fun _ _ =>
            keeps_pure (printable_blankLines placement)
      | declaration declared =>
          apply (keeps_loopPattern declared.name).bind
          intro pattern patternFine
          apply values.bind
          rintro ⟨value, hoisted⟩ ⟨valueFine, printable⟩
          apply bodies.map
          intro elements elementsPrintable
          apply ((printable_blankLines placement).append printable).append
          apply Each.printable_toList
          refine patternFine.bind fun made openingPrintable => ?_
          refine valueFine.map fun _ _ => ?_
          exact openingPrintable.append elementsPrintable
  | .result returned placement =>
      (keeps_result target returned).spaced placement
  | .declarations _ declared placement =>
      (keeps_declarations target declared).spaced placement
  | .other _ placement =>
      (keeps_note _ _).bind fun _ _ =>
        keeps_pure ((printable_blankLines placement).append Template.printable_nil)

theorem keeps_statements (target : Target) :
    ∀ sources : List Statement,
      Keeps Template.Printable (lowerStatements target sources)
  | [] => keeps_pure Template.printable_nil
  | source :: others => by
      apply (keeps_statement target source).bind
      intro elements printable
      apply (keeps_statements target others).map
      intro rest restPrintable
      exact printable.append restPrintable

theorem keeps_alternative (target : Target) :
    ∀ source : Option Statement,
      Keeps (Each BranchRest.IsPrintable) (lowerAlternative target source)
  | none =>
      keeps_pure (each_some.mpr
        ⟨Template.interpolated_nil, Template.interpolated_nil⟩)
  | some (.branch condition consequent alternative _) => by
      have parts := keeps_branch (keeps_expression target condition)
        (keeps_statement target consequent) consequent.span
        (keeps_alternative target alternative)
      apply parts.mapOption
      intro made fine
      exact ⟨Template.interpolated_append.mpr ⟨fine.first, fine.others⟩,
        fine.otherwise⟩
  | some (.block statements placement) =>
      keeps_otherwise rfl (keeps_statement target (.block statements placement))
  | some (.expression evaluated placement) =>
      keeps_otherwise rfl (keeps_statement target (.expression evaluated placement))
  | some (.loop header iterable body placement) =>
      keeps_otherwise rfl
        (keeps_statement target (.loop header iterable body placement))
  | some (.result returned placement) =>
      keeps_otherwise rfl (keeps_statement target (.result returned placement))
  | some (.declarations keyword declared placement) =>
      keeps_otherwise rfl
        (keeps_statement target (.declarations keyword declared placement))
  | some (.other kind placement) =>
      keeps_otherwise rfl (keeps_statement target (.other kind placement))

end

/-! ## Functions -/

theorem printable_prelude (state : State) : Template.Printable (prelude state) := by
  have escape : Template.Printable escapePrelude :=
    (printable_assign (isPrintable_ofValue _)).append Template.printable_nil
  have stringClass : Template.Printable stringClassPrelude :=
    (printable_assign (isPrintable_ofValue _)).append
      ((printable_assign (isPrintable_ofValue _)).append Template.printable_nil)
  unfold prelude
  apply Template.Printable.append
  · split
    · exact escape
    · exact Template.printable_nil
  · split
    · exact stringClass
    · exact Template.printable_nil

theorem keeps_function (target : Target) (function : FunctionDeclaration) :
    Keeps (Each fun file => Template.Interpolated file.block.expressions)
      (functionStep target function) := by
  unfold functionStep
  split
  · exact keeps_giveUp _ _
  · split
    · exact keeps_giveUp _ _
    · next body _ =>
        apply (keeps_statements target body.statements).bind
        intro elements printable state before
        refine ⟨each_some.mpr ?_, before⟩
        exact (printable_prelude state).append printable

/-- No expression of a template is a bare path, whether its lowering made reports
or not: neither what a directive assigns nor a condition, an operand or what stands
between parentheses.  So a path that one of them interpolates is written with its
`$`. -/
theorem lowered_template_prints_no_bare_path {target : Target}
    {function : FunctionDeclaration} {file : Template.File}
    (lowered : (lowerFunction target function).1 = some file) :
    ∀ expression ∈ file.block.expressions,
      expression.isBare = false ∧
        ∀ reference, expression.reference? = some reference →
          ∀ options depth, ∃ text,
            Template.written options true (expression.pieces depth) =
              '$' :: text := by
  intro expression member
  obtain ⟨each, -⟩ := keeps_function target function {} Template.printable_nil
  have notBare : expression.isBare = false := each file lowered expression member
  refine ⟨notBare, fun reference referred options depth => ?_⟩
  exact Template.written_of_reference? options depth notBare referred

/-- A function with a report, and with paths in each of the places: a condition, an
assigned value, operands and parentheses. -/
theorem lowered_template_prints_no_bare_path_reported :
    let span : Span := ⟨0, 0⟩
    let placement : Placement := ⟨span, 0⟩
    let read : String → Expression := fun name => .identifier ⟨name, span, .variableName⟩
    let function : FunctionDeclaration :=
      ⟨none, [.exported], [],
        some ⟨[.other .whileLoop placement,
          .branch (read "a")
            (.expression
              (.assignment .add (.member (read "b") ⟨"c", span, .unresolved⟩ false span)
                (.parenthesized (.unary .minus (read "d") span) span) span)
              placement)
            (some (.branch (.binary .and (read "e") (read "f") span)
              (.declarations .const [⟨.identifier ⟨"g", span, .variableName⟩,
                some (read "h"), span⟩] placement) none placement))
            placement], span⟩, false, span⟩
    ∃ file, (lowerFunction .apigateway function).1 = some file ∧
      (lowerFunction .apigateway function).2.length = 1 ∧
      file.block.expressions.length = 10 ∧
      ∀ expression ∈ file.block.expressions,
        expression.isBare = false ∧
          ∀ reference, expression.reference? = some reference →
            ∀ options depth, ∃ text,
              Template.written options true (expression.pieces depth) =
                '$' :: text := by
  intro span placement read function
  obtain ⟨file, lowered⟩ :
      ∃ file, (lowerFunction .apigateway function).1 = some file := by
    apply Option.isSome_iff_exists.mp
    decide +kernel
  have count : (lowerFunction .apigateway function).1.map
      (fun file => file.block.expressions.length) = some 10 := by
    decide +kernel
  rw [lowered] at count
  refine ⟨file, lowered, by decide +kernel, Option.some.inj count, ?_⟩
  exact lowered_template_prints_no_bare_path lowered

end VelocityScript.Lowering
