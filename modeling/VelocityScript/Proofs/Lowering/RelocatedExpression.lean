import VelocityScript.Proofs.Lowering.Settlement
import VelocityScript.Proofs.Script.Relocation
import VelocityScript.Proofs.Template.Relocation

/-!
# Steps for relocated scripts

The lowering hands the spans of a script on to its template and to its reports
and never looks at them.  So every step of it, for a relocated script, ends with
the relocated result.
-/

namespace VelocityScript.Lowering

open Script

def Report.relocate (move : Span → Span) (report : Report) : Report :=
  { report with span := move report.span }

def State.relocate (move : Span → Span) (state : State) : State :=
  { state with
    reports := state.reports.map (Report.relocate move)
    hoisted := Template.relocateElements move state.hoisted }

/-- A step of the lowering of a relocated script: it ends with the relocated
result in the relocated state. -/
def Relocates {Result : Type} (move : Span → Span) (image : Result → Result)
    (here there : Lower Result) : Prop :=
  ∀ state,
    there.run (state.relocate move) =
      (image (here.run state).1, (here.run state).2.relocate move)

variable {move : Span → Span}

section Steps

variable {Result Other : Type}
variable {image : Result → Result} {otherImage : Other → Other}
variable {here there : Lower Result}

theorem Relocates.bind {hereNext thereNext : Result → Lower Other}
    (first : Relocates move image here there)
    (next : ∀ result,
      Relocates move otherImage (hereNext result) (thereNext (image result))) :
    Relocates move otherImage (here >>= hereNext) (there >>= thereNext) := by
  intro state
  have ended := first state
  have continued := next (here.run state).1 (here.run state).2
  rw [StateT.run_bind, ended]
  exact continued

/-- A step whose result is dropped, and another one. -/
theorem Relocates.next {hereNext thereNext : Lower Other}
    (first : Relocates move image here there)
    (next : Relocates move otherImage hereNext thereNext) :
    Relocates move otherImage (do let _ ← here; hereNext)
      (do let _ ← there; thereNext) :=
  first.bind fun _ => next

theorem relocates_pure_of_eq {result moved : Result} (same : image result = moved) :
    Relocates move image (pure result) (pure moved) :=
  fun state => congrArg (Prod.mk · (state.relocate move)) same.symm

theorem relocates_pure (result : Result) :
    Relocates move image (pure result) (pure (image result)) :=
  relocates_pure_of_eq rfl

theorem Relocates.map {make moved : Result → Other}
    (step : Relocates move image here there)
    (commutes : ∀ result, otherImage (make result) = moved (image result)) :
    Relocates move otherImage (do return make (← here)) (do return moved (← there)) :=
  step.bind fun result => relocates_pure_of_eq (commutes result)

/-- A step whose result, if any, is built into something else. -/
theorem Relocates.mapOption {here there : Lower (Option Result)}
    {make moved : Result → Other}
    (step : Relocates move (Option.map image) here there)
    (commutes : ∀ result, otherImage (make result) = moved (image result)) :
    Relocates move (Option.map otherImage) (do return (← here).map make)
      (do return (← there).map moved) := by
  refine step.map fun result => ?_
  cases result with
  | none => rfl
  | some result => exact congrArg some (commutes result)

theorem Relocates.both {Final : Type} {finalImage : Final → Final}
    {here there : Lower (Option Result)}
    {hereSecond thereSecond : Lower (Option Other)}
    {make moved : Result → Other → Final}
    (first : Relocates move (Option.map image) here there)
    (second : Relocates move (Option.map otherImage) hereSecond thereSecond)
    (commutes : ∀ result other,
      finalImage (make result other) = moved (image result) (otherImage other)) :
    Relocates move (Option.map finalImage)
      (do
        let result ← here
        let other ← hereSecond
        return result.bind fun result => other.map fun other => make result other)
      (do
        let result ← there
        let other ← thereSecond
        return result.bind fun result =>
          other.map fun other => moved result other) := by
  refine first.bind fun result => second.map fun other => ?_
  cases result with
  | none => rfl
  | some result =>
      cases other with
      | none => rfl
      | some other => exact congrArg some (commutes result other)

theorem relocates_modify {revise otherRevise : State → State}
    (commutes : ∀ state,
      otherRevise (state.relocate move) = (revise state).relocate move) :
    Relocates move id (modify revise) (modify otherRevise) :=
  fun state => congrArg (Prod.mk PUnit.unit) (commutes state)

theorem relocates_note (complaint : Complaint) (span : Span) :
    Relocates move id (note complaint span) (note complaint (move span)) := by
  refine relocates_modify fun state => ?_
  simp only [State.relocate, List.map_append]
  rfl

theorem relocates_giveUp (complaint : Complaint) (span : Span) :
    Relocates move (Option.map image) (giveUp complaint span)
      (giveUp complaint (move span)) :=
  (relocates_note complaint span).bind fun _ => relocates_pure none

theorem relocates_emit (element : Template.Element) :
    Relocates move id (emit element) (emit (element.relocate move)) := by
  refine relocates_modify fun state => ?_
  simp only [State.relocate, Template.relocateElements_append]
  rfl

theorem relocates_collecting (step : Relocates move image here there) :
    Relocates move
      (fun collected =>
        (image collected.1, Template.relocateElements move collected.2))
      (collecting here) (collecting there) := by
  intro state
  have ended := step { state with hoisted := [] }
  have emptied : { state.relocate move with hoisted := [] } =
      ({ state with hoisted := [] } : State).relocate move := rfl
  rw [run_collecting, run_collecting, emptied, ended]
  rfl

end Steps

theorem relocates_temporary (origin : Template.Origin) :
    Relocates move (Template.Variable.relocate move) (temporary origin)
      (temporary (origin.map move)) :=
  fun _ => rfl

theorem relocates_hoist (lowered : Template.Expression) :
    Relocates move (Template.Variable.relocate move) (hoist lowered)
      (hoist (lowered.relocate move)) := by
  unfold hoist
  rw [Template.origin_relocate]
  refine (relocates_temporary lowered.origin).bind fun name => ?_
  exact (relocates_emit (.assign (.named name) lowered lowered.origin)).bind
    fun _ => relocates_pure name

theorem relocates_asValue (lowered : Option Template.Expression) :
    Relocates move (Option.map (Template.Value.relocate move)) (asValue lowered)
      (asValue (lowered.map (Template.Expression.relocate move))) := by
  cases lowered with
  | none => exact relocates_pure none
  | some expression =>
      simp only [Option.map_some, asValue, Template.value?_relocate]
      cases expression.value? with
      | some value => exact relocates_pure (some value)
      | none => exact (relocates_hoist expression).map fun _ => rfl

theorem relocates_asPath (lowered : Option Template.Expression) :
    Relocates move (Option.map (Template.Path.relocate move)) (asPath lowered)
      (asPath (lowered.map (Template.Expression.relocate move))) := by
  cases lowered with
  | none => exact relocates_pure none
  | some expression =>
      simp only [Option.map_some, asPath, Template.path?_relocate]
      cases expression.path? with
      | some path => exact relocates_pure (some path)
      | none => exact (relocates_hoist expression).map fun _ => rfl

theorem relocates_asBound (side : BoundSide) (span : Span)
    (lowered : Option Template.Value) :
    Relocates move (Option.map (Template.RangeBound.relocate move))
      (asBound side span lowered)
      (asBound side (move span) (lowered.map (Template.Value.relocate move))) := by
  cases lowered with
  | none => exact relocates_pure none
  | some value =>
      cases value with
      | number number origin => exact relocates_pure _
      | reference path origin => exact relocates_pure _
      | _ => exact relocates_giveUp (.invalidBound side) span

theorem relocates_lowerName (name : String) (span : Span) :
    Relocates move (Option.map (Template.Identifier.relocate move))
      (lowerName name span) (lowerName name (move span)) := by
  unfold lowerName
  split
  · exact relocates_pure _
  · exact relocates_giveUp (.invalidIdentifier name) span

theorem relocates_escapeQuotes (text : String) :
    Relocates move id (escapeQuotes text) (escapeQuotes text) := by
  unfold escapeQuotes
  split
  · refine Relocates.bind (relocates_modify fun _ => rfl) fun _ => ?_
    exact relocates_pure (escapedText text)
  · exact relocates_pure text

theorem relocates_lowerNumber (text : String) (span : Span) :
    Relocates move (Option.map (Template.Value.relocate move)) (lowerNumber text span)
      (lowerNumber text (move span)) := by
  unfold lowerNumber
  cases numericLiteral? text with
  | some value => exact relocates_pure _
  | none => exact relocates_giveUp (.invalidNumber text) span

theorem relocates_lowerPropertyName (name : PropertyName) :
    Relocates move (Option.map (Template.Value.relocate move))
      (lowerPropertyName name) (lowerPropertyName (name.relocate move)) := by
  cases name with
  | identifier named => exact relocates_pure _
  | string text span =>
      exact relocates_pure_of_eq
        (congrArg some (Template.quoted_relocate move text (some span)))
  | number text span => exact relocates_lowerNumber text span
  | computed source span => exact relocates_giveUp .computedPropertyName span
  | privateName text span => exact relocates_giveUp .privatePropertyName span

/-- A reference to a variable with the name of a script. -/
theorem relocates_variableName (name : String) (span : Span) :
    Relocates move (Option.map (Template.Expression.relocate move))
      (do
        match ← lowerName name span with
        | none => return none
        | some name => return some (.ofPath (.name name)))
      (do
        match ← lowerName name (move span) with
        | none => return none
        | some name => return some (.ofPath (.name name))) := by
  refine (relocates_lowerName name span).bind fun lowered => ?_
  cases lowered with
  | none => exact relocates_pure _
  | some lowered => exact relocates_pure _

theorem relocates_lowerIdentifier (target : Target) (named : Identifier) :
    Relocates move (Option.map (Template.Expression.relocate move))
      (lowerIdentifier target named)
      (lowerIdentifier target (named.relocate move)) := by
  have name := @relocates_lowerName move named.name named.span
  have variableName := @relocates_variableName move named.name named.span
  obtain ⟨text, span, binding⟩ := named
  change Relocates move _ (lowerIdentifier target ⟨text, span, binding⟩)
    (lowerIdentifier target ⟨text, move span, binding⟩)
  unfold lowerIdentifier
  by_cases isArgument : target = .appsync ∧ binding = .parameter
  · rw [if_pos isArgument, if_pos isArgument]
    refine name.bind fun lowered => ?_
    cases lowered <;> exact relocates_pure _
  · rw [if_neg isArgument, if_neg isArgument]
    dsimp only
    split
    · exact Relocates.bind (relocates_modify fun _ => rfl) fun _ => variableName
    · exact variableName

/-- The place of a relocated reference. -/
theorem placed_relocate (lowered : Template.Expression) :
    (lowered.relocate move).reference?.bind Template.Reference.place? =
      (lowered.reference?.bind Template.Reference.place?).map
        (Template.Place.relocate move) := by
  rw [Template.reference?_relocate]
  cases lowered.reference? with
  | none => rfl
  | some reference => exact Template.place?_relocate move reference

theorem relocates_assign (combined : Option Template.BinaryOperator)
    (source : Expression) (left right : Option Template.Expression) (span : Span) :
    Relocates move (Option.map (Template.Reference.relocate move))
      (assign combined source left right span)
      (assign combined (source.relocate move)
        (left.map (Template.Expression.relocate move))
        (right.map (Template.Expression.relocate move)) (move span)) := by
  cases left with
  | none => exact relocates_pure none
  | some left =>
      simp only [Option.map_some, assign, placed_relocate, span_relocate,
        syntaxName_relocate]
      cases left.reference?.bind Template.Reference.place? with
      | none => exact relocates_giveUp _ source.span
      | some place =>
          cases right with
          | none => exact relocates_pure none
          | some right =>
              simp only [Option.map_some, Template.reference_relocate]
              cases combined with
              | none =>
                  exact (relocates_emit (.assign place right (some span))).bind
                    fun _ => relocates_pure (some place.reference)
              | some operator =>
                  exact (relocates_emit
                    (.assign place
                      (.binary (.ofValue place.reference.value) operator right
                        (some span))
                      (some span))).bind
                    fun _ => relocates_pure (some place.reference)

/-! ## Expressions -/

def CalleeForm.relocate (move : Span → Span) : CalleeForm → CalleeForm
  | .helper exported span => .helper exported (move span)
  | .method => .method
  | .unsupported syntaxName => .unsupported syntaxName

theorem calleeForm_relocate (callee : Expression) :
    calleeForm (callee.relocate move) = (calleeForm callee).relocate move := by
  cases callee with
  | identifier named =>
      obtain ⟨name, span, binding⟩ := named
      cases binding <;> rfl
  | boolean truth span => cases truth <;> rfl
  | _ => rfl

section

variable {here there : Lower (Option Template.Expression)}

theorem Relocates.value
    (step : Relocates move (Option.map (Template.Expression.relocate move)) here
      there) :
    Relocates move (Option.map (Template.Value.relocate move))
      (do asValue (← here)) (do asValue (← there)) :=
  step.bind relocates_asValue

theorem Relocates.path
    (step : Relocates move (Option.map (Template.Expression.relocate move)) here
      there) :
    Relocates move (Option.map (Template.Path.relocate move))
      (do asPath (← here)) (do asPath (← there)) :=
  step.bind relocates_asPath

theorem Relocates.bound
    (step : Relocates move (Option.map (Template.Expression.relocate move)) here
      there) (side : BoundSide) (span : Span) :
    Relocates move (Option.map (Template.RangeBound.relocate move))
      (do asBound side span (← asValue (← here)))
      (do asBound side (move span) (← asValue (← there))) :=
  step.bind fun lowered =>
    (relocates_asValue lowered).bind (relocates_asBound side span)

end

theorem map_interpolated_relocate (lowered : Option Template.Expression) :
    (lowered.map (Template.Expression.relocate move)).map .interpolated =
      (lowered.map .interpolated).map (Template.Expression.relocate move) := by
  cases lowered with
  | none => rfl
  | some expression =>
      exact congrArg some (Template.interpolated_relocate move expression)

theorem relocates_assignment {place : Expression}
    {left right leftMoved rightMoved : Lower (Option Template.Expression)}
    (lefts : Relocates move (Option.map (Template.Expression.relocate move)) left
      leftMoved)
    (rights : Relocates move (Option.map (Template.Expression.relocate move)) right
      rightMoved)
    (combined : Option Template.BinaryOperator) (span : Span) :
    Relocates move (Option.map (Template.Expression.relocate move))
      (do
        let left ← left
        let right ← right
        let reference ←
          assign combined place left (right.map .interpolated) span
        return reference.map fun reference => .ofValue reference.value)
      (do
        let left ← leftMoved
        let right ← rightMoved
        let reference ←
          assign combined (place.relocate move) left (right.map .interpolated)
            (move span)
        return reference.map fun reference => .ofValue reference.value) := by
  refine lefts.bind fun left => rights.bind fun right => ?_
  rw [map_interpolated_relocate]
  exact (relocates_assign combined place left _ span).mapOption fun _ => rfl

/-- The end of the lowering of a method call. -/
theorem relocates_methodCall (method : Option Template.Expression)
    (arguments : Option (List Template.Value)) (calleeSpan span : Span) :
    Relocates move (Option.map (Template.Expression.relocate move))
      (match method with
        | none => return none
        | some (.ofPath (.property base name origin)) =>
            return arguments.map fun arguments =>
              .ofPath (.call base name origin arguments (some span))
        | some other => giveUp (.callee other.kind.text) calleeSpan)
      (match method.map (Template.Expression.relocate move) with
        | none => return none
        | some (.ofPath (.property base name origin)) =>
            return (arguments.map (Template.relocateValues move)).map
              fun arguments =>
                .ofPath (.call base name origin arguments (some (move span)))
        | some other => giveUp (.callee other.kind.text) (move calleeSpan)) := by
  cases method with
  | none => exact relocates_pure none
  | some lowered =>
      have kinds := Template.kind_relocate move lowered
      cases lowered with
      | ofPath path =>
          cases path with
          | property base name origin =>
              refine relocates_pure_of_eq ?_
              cases arguments <;> rfl
          | _ => exact relocates_giveUp _ calleeSpan
      | ofValue value =>
          simp only [Option.map_some, Template.Expression.relocate] at kinds ⊢
          rw [kinds]
          exact relocates_giveUp _ calleeSpan
      | _ => exact relocates_giveUp _ calleeSpan

mutual

theorem relocates_lowerExpression (target : Target) :
    ∀ source : Expression,
      Relocates move (Option.map (Template.Expression.relocate move))
        (lowerExpression target source)
        (lowerExpression target (source.relocate move))
  | .identifier named => relocates_lowerIdentifier target named
  | .receiver _ => relocates_pure _
  | .number text span => (relocates_lowerNumber text span).mapOption fun _ => rfl
  | .string text span =>
      relocates_pure_of_eq
        (congrArg (some ∘ Template.Expression.ofValue)
          (Template.quoted_relocate move text (some span)))
  | .boolean _ _ => relocates_pure _
  | .template head parts _ => by
      refine (relocates_escapeQuotes head).bind fun text => ?_
      exact (relocates_lowerParts target parts).mapOption fun _ => rfl
  | .array elements _ =>
      (relocates_lowerValues target elements).mapOption fun _ => rfl
  | .object members _ =>
      (relocates_lowerMembers target members).mapOption fun _ => rfl
  | .parenthesized inner _ => by
      refine (relocates_lowerExpression target inner).mapOption fun lowered => ?_
      rw [Template.interpolated_relocate]
      rfl
  | .unary operator operand span => by
      have operands := relocates_lowerExpression target operand
      simp only [Expression.relocate, lowerExpression]
      cases lowerUnaryOperator? operator with
      | none => exact relocates_giveUp _ span
      | some made =>
          refine operands.mapOption fun lowered => ?_
          rw [Template.interpolated_relocate]
          rfl
  | .binary operator left right span => by
      have lefts := relocates_lowerExpression target left
      have rights := relocates_lowerExpression target right
      simp only [Expression.relocate, lowerExpression]
      cases lowerBinaryOperator? operator with
      | none => exact relocates_giveUp _ span
      | some made =>
          refine lefts.both rights fun leftLowered rightLowered => ?_
          rw [Template.interpolated_relocate, Template.interpolated_relocate]
          rfl
  | .assignment operator place value span => by
      have places := relocates_lowerExpression target place
      have values := relocates_lowerExpression target value
      simp only [Expression.relocate, lowerExpression]
      cases combination operator with
      | unsupported => exact relocates_giveUp _ span
      | replace => exact relocates_assignment places values none span
      | combine combined =>
          exact relocates_assignment places values (some combined) span
  | .member _ property true _ => relocates_giveUp _ property.span
  | .member object property false _ =>
      (relocates_lowerExpression target object).path.both
        (relocates_lowerName property.name property.span) fun _ _ => rfl
  | .index object subscript _ =>
      (relocates_lowerExpression target object).path.both
        (relocates_lowerExpression target subscript).value fun _ _ => rfl
  | .call callee arguments _ span => by
      have callees := relocates_lowerExpression target callee
      have values := relocates_lowerValues target arguments
      have ranges := relocates_lowerRange target span arguments
      have helpers := fun exported nameSpan =>
        relocates_lowerHelperCall target exported nameSpan span arguments
      simp only [Expression.relocate, lowerExpression, calleeForm_relocate,
        span_relocate]
      cases calleeForm callee with
      | unsupported syntaxName => exact relocates_giveUp _ callee.span
      | helper exported nameSpan =>
          simp only [CalleeForm.relocate]
          split
          · exact ranges
          · exact helpers exported nameSpan
      | method =>
          refine callees.bind fun method => values.bind fun arguments => ?_
          exact relocates_methodCall method arguments callee.span span
  | .other _ span => relocates_giveUp _ span

theorem relocates_lowerHelperCall (target : Target) (exported : String)
    (nameSpan span : Span) :
    ∀ sources : List Expression,
      Relocates move (Option.map (Template.Expression.relocate move))
        (lowerHelperCall target exported nameSpan span sources)
        (lowerHelperCall target exported (move nameSpan) (move span)
          (relocateExpressions move sources))
  | [] => relocates_giveUp _ span
  | receiver :: others => by
      have receivers := relocates_lowerExpression target receiver
      have values := relocates_lowerValues target others
      simp only [relocateExpressions, lowerHelperCall]
      refine receivers.bind fun lowered => ?_
      refine (relocates_asPath lowered).bind fun base => ?_
      refine (relocates_lowerName exported nameSpan).bind fun name => ?_
      refine values.map fun arguments => ?_
      cases base <;> cases name <;> cases arguments <;> rfl

theorem relocates_lowerRange (target : Target) (span : Span) :
    ∀ sources : List Expression,
      Relocates move (Option.map (Template.Expression.relocate move))
        (lowerRange target span sources)
        (lowerRange target (move span) (relocateExpressions move sources))
  | [] => relocates_giveUp _ span
  | [first] => by
      have firsts := relocates_lowerExpression target first
      simp only [relocateExpressions, lowerRange, span_relocate]
      exact (firsts.bound .first first.span).next (relocates_giveUp _ span)
  | first :: last :: _ => by
      have firsts := relocates_lowerExpression target first
      have lasts := relocates_lowerExpression target last
      simp only [relocateExpressions, lowerRange, span_relocate]
      exact (firsts.bound .first first.span).both (lasts.bound .last last.span)
        fun _ _ => rfl

theorem relocates_lowerValues (target : Target) :
    ∀ sources : List Expression,
      Relocates move (Option.map (Template.relocateValues move))
        (lowerValues target sources)
        (lowerValues target (relocateExpressions move sources))
  | [] => relocates_pure _
  | source :: others =>
      (relocates_lowerExpression target source).value.both
        (relocates_lowerValues target others) fun _ _ => rfl

theorem relocates_lowerPart (target : Target) :
    ∀ part : TemplatePart,
      Relocates move (Option.map (Template.TemplateSpan.relocate move))
        (lowerPart target part) (lowerPart target (part.relocate move))
  | .mk source literal => by
      have lowered := relocates_lowerExpression target source
      simp only [TemplatePart.relocate, lowerPart, span_relocate]
      refine lowered.bind fun expression => ?_
      refine (relocates_asValue expression).bind fun value => ?_
      cases value with
      | none => exact relocates_pure none
      | some value => exact (relocates_escapeQuotes literal).map fun _ => rfl

theorem relocates_lowerParts (target : Target) :
    ∀ parts : List TemplatePart,
      Relocates move (Option.map (Template.relocateSpans move))
        (lowerParts target parts) (lowerParts target (relocateParts move parts))
  | [] => relocates_pure _
  | part :: others =>
      (relocates_lowerPart target part).both (relocates_lowerParts target others)
        fun _ _ => rfl

theorem relocates_lowerMember (target : Target) :
    ∀ member : ObjectMember,
      Relocates move (Option.map (Template.MapEntry.relocate move))
        (lowerMember target member) (lowerMember target (member.relocate move))
  | .shorthand named =>
      (relocates_lowerIdentifier target named).value.mapOption fun _ => rfl
  | .property name value _ =>
      (relocates_lowerPropertyName name).both
        (relocates_lowerExpression target value).value fun _ _ => rfl
  | .other _ span => relocates_giveUp _ span

theorem relocates_lowerMembers (target : Target) :
    ∀ members : List ObjectMember,
      Relocates move (Option.map (Template.relocateEntries move))
        (lowerMembers target members)
        (lowerMembers target (relocateMembers move members))
  | [] => relocates_pure _
  | member :: others =>
      (relocates_lowerMember target member).both
        (relocates_lowerMembers target others) fun _ _ => rfl

end

end VelocityScript.Lowering
