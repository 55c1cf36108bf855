import VelocityScript.Proofs.Lowering.Matching
import VelocityScript.Proofs.Lowering.Parallel

/-!
# Lowering scripts that match

The lowerings of two scripts that match take the same branches, make the same
temporaries and the same reports, and build counterparts, when they do so at the
names, the receivers and the dropped results that match.
-/

namespace VelocityScript.Lowering

open Script

/-- What matches is lowered to counterparts, for two services. -/
structure Agreement (sites : Sites) (matching : Matching) (here there : Target) :
    Prop where
  names : ∀ {hereNamed thereNamed : Identifier},
    matching.names hereNamed thereNamed →
      Parallel sites (Option.Rel (ExpressionCounterpart sites))
        (lowerIdentifier here hereNamed) (lowerIdentifier there thereNamed)
  receivers : ∀ {span : Span}, matching.receivers span →
    PathCounterpart sites (.name ⟨here.receiver, some span⟩)
      (.name ⟨there.receiver, some span⟩)
  discards : ∀ {source : Expression} {hereCall thereCall : Template.Reference},
    matching.evaluated source → dropsResult source = true →
      hereCall.origin = some source.span →
        ReferenceCounterpart sites hereCall thereCall →
          ElementsCounterpart sites (discardCall here hereCall)
            (discardCall there thereCall)

variable {sites : Sites} {matching : Matching} {hereTarget thereTarget : Target}

/-! ## Expressions -/

/-- A result, if there is one, is an access. -/
def AccessOnly (lowered : Option Template.Expression) : Prop :=
  ∀ result, lowered = some result →
    ∃ base name origin, result = .ofPath (.property base name origin)

theorem accessOnly_of_method {target : Target} {callee : Expression}
    (form : calleeForm callee = .method) (state : State) :
    AccessOnly ((lowerExpression target callee).run state).1 := by
  intro result present
  have ran : ((Task.expression callee).run target).run state =
      (some result, ((lowerExpression target callee).run state).2) := by
    rw [← present]
    rfl
  obtain ⟨next, effect, -, derived⟩ := derives_of_run ran
  obtain ⟨_, _, _, base, name, _, _, _, -, rfl, -⟩ :=
    exists_access_of_method form derived
  exact ⟨base, name, _, rfl⟩

/-- A shorthand that is written out gives the same entry. -/
theorem lowerMember_writtenOut (target : Target) (key value : Identifier) :
    lowerMember target
        (.property (.identifier key) (.identifier value) key.span) = do
      let value ← asValue (← lowerIdentifier target value)
      let name := Template.Value.string key.name .double (some key.span)
      return value.map fun value => .mk name value (some key.span) := by
  simp only [lowerMember, lowerPropertyName, lowerExpression, pure_bind]
  rfl

mutual

theorem parallel_expression
    (agreement : Agreement sites matching hereTarget thereTarget) :
    ∀ {here there : Expression}, ExpressionMatch matching here there →
      Parallel sites (Option.Rel (ExpressionCounterpart sites))
        (lowerExpression hereTarget here) (lowerExpression thereTarget there)
  | _, _, .identifier names => agreement.names names
  | _, _, .receiver allowed =>
      parallel_pure (.some (.ofPath (agreement.receivers allowed)))
  | _, _, .number =>
      (parallel_lowerNumber _ _).mapOption fun _ _ value => .ofValue value
  | _, _, .string => by
      refine parallel_pure (.some (.ofValue ?_))
      unfold Template.Value.quoted
      split <;> exact .string
  | _, _, .boolean => parallel_pure (.some (.ofValue .boolean))
  | _, _, .template parts => by
      refine (parallel_escapeQuotes _).bind fun escaped _ same => ?_
      subst same
      exact (parallel_parts agreement parts).mapOption
        fun _ _ spans => .ofValue (.template spans)
  | _, _, .array elements =>
      (parallel_values agreement elements).mapOption
        fun _ _ values => .ofValue (.list values)
  | _, _, .object members =>
      (parallel_members agreement members).mapOption
        fun _ _ entries => .ofValue (.map entries)
  | _, _, .parenthesized inner =>
      (parallel_expression agreement inner).mapOption
        fun _ _ expression => .parenthesized expression.interpolated
  | _, _, .unary operand => by
      have operands := parallel_expression agreement operand
      simp only [lowerExpression]
      split
      · exact parallel_giveUp _ _
      · exact operands.mapOption
          fun _ _ expression => .unary expression.interpolated
  | _, _, .binary left right => by
      have lefts := parallel_expression agreement left
      have rights := parallel_expression agreement right
      simp only [lowerExpression]
      split
      · exact parallel_giveUp _ _
      · exact lefts.both rights fun _ _ _ _ leftSide rightSide =>
          .binary leftSide.interpolated rightSide.interpolated
  | _, _, .assignment place value => by
      have places := parallel_expression agreement place
      have values := parallel_expression agreement value
      have assigned := fun combined =>
        places.assigned values combined place.span_eq place.syntaxName_eq
      simp only [lowerExpression]
      split
      · exact parallel_giveUp _ _
      · exact assigned none _
      · next combined _ => exact assigned (some combined) _
  | .member _ _ true _, _, .member _ => parallel_giveUp _ _
  | .member _ _ false _, _, .member object => by
      have bases := (parallel_expression agreement object).path
      refine bases.both (parallel_lowerName _ _) ?_
      rintro base _ _ _ related ⟨rfl, rfl⟩
      exact .ofPath (.property related)
  | _, _, .index object subscript =>
      (parallel_expression agreement object).path.both
        (parallel_expression agreement subscript).value
        fun _ _ _ _ base value => .ofPath (.index base value)
  | _, _, .rangeCall hereForm thereForm bounds => by
      have ranges := parallel_range agreement bounds
      simp only [lowerExpression, hereForm, thereForm, if_true]
      exact ranges _
  | _, _, .helperCall hereForm thereForm notRange arguments => by
      have helpers := parallel_helperCall agreement arguments
      simp only [lowerExpression, hereForm, thereForm, if_neg notRange]
      exact helpers _ _ _
  | _, _, .methodCall hereForm thereForm callee arguments => by
      have callees := parallel_expression agreement callee
      have values := parallel_values agreement arguments
      simp only [lowerExpression, hereForm, thereForm]
      refine (callees.ensuring (accessOnly_of_method hereForm)
        (accessOnly_of_method thereForm)).bind fun _ _ results => ?_
      refine values.bind fun _ _ arguments => ?_
      obtain ⟨lowered, hereAccess, thereAccess⟩ := results
      cases lowered with
      | none => exact parallel_pure .none
      | some expressions =>
          obtain ⟨hereBase, name, origin, rfl⟩ := hereAccess _ rfl
          obtain ⟨thereBase, _, _, rfl⟩ := thereAccess _ rfl
          cases expressions with
          | ofPath paths =>
              cases paths with
              | property bases =>
                  exact parallel_pure (optionRel_map arguments
                    fun _ _ values => .ofPath (.call bases values))
  | _, _, .otherCall hereForm thereForm spans => by
      simp only [lowerExpression, hereForm, thereForm, spans]
      exact parallel_giveUp _ _
  | _, _, .other => parallel_giveUp _ _
termination_by structural here => here

theorem parallel_helperCall
    (agreement : Agreement sites matching hereTarget thereTarget) :
    ∀ {here there : List Expression},
      List.Forall₂ (ExpressionMatch matching) here there →
        ∀ (exported : String) (nameSpan span : Span),
          Parallel sites (Option.Rel (ExpressionCounterpart sites))
            (lowerHelperCall hereTarget exported nameSpan span here)
            (lowerHelperCall thereTarget exported nameSpan span there)
  | _, _, .nil => fun _ _ _ => parallel_giveUp _ _
  | _, _, .cons receiver others => fun _ _ _ => by
      have receivers := parallel_expression agreement receiver
      have values := parallel_values agreement others
      simp only [lowerHelperCall]
      refine receivers.bind fun _ _ lowered => ?_
      refine (parallel_asPath lowered).bind fun _ _ bases => ?_
      refine (parallel_lowerName _ _).bind fun _ _ names => ?_
      refine values.map fun _ _ arguments => ?_
      refine optionRel_bind bases fun _ _ base => ?_
      refine optionRel_bind names ?_
      rintro _ _ ⟨rfl, rfl⟩
      exact optionRel_map arguments fun _ _ values => .ofPath (.call base values)
termination_by structural here => here

theorem parallel_range
    (agreement : Agreement sites matching hereTarget thereTarget) :
    ∀ {here there : List Expression}, BoundsMatch matching here there →
      ∀ span : Span,
        Parallel sites (Option.Rel (ExpressionCounterpart sites))
          (lowerRange hereTarget span here) (lowerRange thereTarget span there)
  | _, _, .nil => fun _ => parallel_giveUp _ _
  | _, _, .single lowest => fun span => by
      have lower := parallel_expression agreement lowest
      simp only [lowerRange, lowest.span_eq]
      exact (lower.bound .first _).bind fun _ _ _ => parallel_giveUp _ _
  | _, _, .pair lowest highest => fun span => by
      have lower := parallel_expression agreement lowest
      have upper := parallel_expression agreement highest
      simp only [lowerRange, lowest.span_eq, highest.span_eq]
      exact (lower.bound .first _).both (upper.bound .last _)
        fun _ _ _ _ first last => .ofValue (.range first last)
termination_by structural here => here

theorem parallel_values
    (agreement : Agreement sites matching hereTarget thereTarget) :
    ∀ {here there : List Expression},
      List.Forall₂ (ExpressionMatch matching) here there →
        Parallel sites (Option.Rel (List.Forall₂ (ValueCounterpart sites)))
          (lowerValues hereTarget here) (lowerValues thereTarget there)
  | _, _, .nil => parallel_pure (.some .nil)
  | _, _, .cons source others =>
      (parallel_expression agreement source).value.both
        (parallel_values agreement others)
        fun _ _ _ _ value values => .cons value values
termination_by structural here => here

theorem parallel_part
    (agreement : Agreement sites matching hereTarget thereTarget) :
    ∀ {here there : TemplatePart}, PartMatch matching here there →
      Parallel sites (Option.Rel (SpanCounterpart sites))
        (lowerPart hereTarget here) (lowerPart thereTarget there)
  | _, _, .mk source => by
      have sources := parallel_expression agreement source
      simp only [lowerPart, source.span_eq]
      refine sources.bind fun _ _ lowered => ?_
      refine (parallel_asValue lowered).bind fun _ _ values => ?_
      cases values with
      | none => exact parallel_pure .none
      | some value =>
          refine (parallel_escapeQuotes _).bind fun escaped _ same => ?_
          subst same
          exact parallel_pure (.some (.mk value))
termination_by structural here => here

theorem parallel_parts
    (agreement : Agreement sites matching hereTarget thereTarget) :
    ∀ {here there : List TemplatePart},
      List.Forall₂ (PartMatch matching) here there →
        Parallel sites (Option.Rel (List.Forall₂ (SpanCounterpart sites)))
          (lowerParts hereTarget here) (lowerParts thereTarget there)
  | _, _, .nil => parallel_pure (.some .nil)
  | _, _, .cons part others =>
      (parallel_part agreement part).both (parallel_parts agreement others)
        fun _ _ _ _ span spans => .cons span spans
termination_by structural here => here

theorem parallel_member
    (agreement : Agreement sites matching hereTarget thereTarget) :
    ∀ {here there : ObjectMember}, MemberMatch matching here there →
      Parallel sites (Option.Rel (EntryCounterpart sites))
        (lowerMember hereTarget here) (lowerMember thereTarget there)
  | _, _, .shorthand keys names => by
      have values := (agreement.names names).value
      simp only [lowerMember, keys, matching.span_eq names]
      exact values.mapOption fun _ _ value => .mk value
  | _, _, .writtenOut keys spans names => by
      rw [lowerMember_writtenOut, keys, spans]
      exact (agreement.names names).value.mapOption fun _ _ value => .mk value
  | _, _, .property keys source => by
      have values := (parallel_expression agreement source).value
      simp only [lowerMember, keys]
      refine (parallel_lowerPropertyName _).both values ?_
      rintro name _ _ _ rfl value
      exact .mk value
  | _, _, .other => parallel_giveUp _ _
termination_by structural here => here

theorem parallel_members
    (agreement : Agreement sites matching hereTarget thereTarget) :
    ∀ {here there : List ObjectMember},
      List.Forall₂ (MemberMatch matching) here there →
        Parallel sites (Option.Rel (List.Forall₂ (EntryCounterpart sites)))
          (lowerMembers hereTarget here) (lowerMembers thereTarget there)
  | _, _, .nil => parallel_pure (.some .nil)
  | _, _, .cons member others =>
      (parallel_member agreement member).both (parallel_members agreement others)
        fun _ _ _ _ entry entries => .cons entry entries
termination_by structural here => here

end

/-! ## Statements without statements inside -/

/-- What standing as a statement asks of a lowered expression: it is a call with
a result exactly where the source is one, at the same place. -/
def DropsAlike (source : Expression) (lowered : Option Template.Expression) :
    Prop :=
  ∀ result reference, lowered = some result →
    result.reference? = some reference →
      (isCall reference && !returnsNothing source) = dropsResult source ∧
        (dropsResult source = true → reference.origin = some source.span)

theorem Derives.origin_of_drops {target : Target} {source : Expression}
    {first next : Nat} {result : Template.Expression}
    {reference : Template.Reference} {effect : Effect}
    (derived : Derives target (.expression source) first result next effect)
    (drops : dropsResult source = true)
    (referred : result.reference? = some reference) :
    reference.origin = some source.span := by
  cases derived with
  | rangeCall called range =>
      cases range
      cases referred
  | call called other helper =>
      cases helper
      cases referred
      rfl
  | methodCall base name values =>
      cases referred
      rfl
  | _ => cases drops

theorem dropsAlike_lowerExpression {target : Target} {source : Expression}
    (alone : standsAlone source = true) (state : State) :
    DropsAlike source ((lowerExpression target source).run state).1 := by
  intro result reference present referred
  have ran : ((Task.expression source).run target).run state =
      (some result, ((lowerExpression target source).run state).2) := by
    rw [← present]
    rfl
  obtain ⟨next, effect, -, derived⟩ := derives_of_run ran
  exact ⟨derived.drops_iff alone referred,
    fun drops => derived.origin_of_drops drops referred⟩

theorem standalone_counterpart
    (agreement : Agreement sites matching hereTarget thereTarget)
    {source other : Expression} (allowed : matching.evaluated source)
    (same : ExpressionMatch matching source other)
    {here there : Template.Reference}
    (references : ReferenceCounterpart sites here there)
    (drops : (isCall here && !returnsNothing source) = dropsResult source)
    (placed : dropsResult source = true → here.origin = some source.span) :
    ElementsCounterpart sites (standalone hereTarget source here)
      (standalone thereTarget other there) := by
  have calls : isCall here = isCall there := by
    obtain ⟨path, origins⟩ := references
    obtain ⟨herePath, origin⟩ := here
    obtain ⟨therePath, _⟩ := there
    cases origins
    exact path.isCall_eq origin
  unfold standalone
  rw [← calls, ← same.returnsNothing_eq, drops]
  split
  · next dropped =>
      exact agreement.discards allowed dropped (placed dropped) references
  · exact .cons (.emit references.value) (.single .newLine)

theorem parallel_evaluation
    (agreement : Agreement sites matching hereTarget thereTarget)
    {here there : Expression} (allowed : matching.evaluated here)
    (same : ExpressionMatch matching here there) :
    Parallel sites (ElementsCounterpart sites) (lowerEvaluation hereTarget here)
      (lowerEvaluation thereTarget there) := by
  have expressions := parallel_expression agreement same
  cases alone : standsAlone here with
  | false =>
      cases same with
      | assignment place value =>
          exact (parallel_collecting expressions).map fun _ _ collected => collected.2
      | binary left right =>
          exact (parallel_note _ _).bind fun _ _ _ => parallel_pure .nil
      | _ => cases alone
  | true =>
      have thereAlone : standsAlone there = true := same.standsAlone_eq.symm.trans alone
      rw [lowerEvaluation_of_standsAlone hereTarget alone,
        lowerEvaluation_of_standsAlone thereTarget thereAlone, same.span_eq,
        same.syntaxName_eq]
      refine (parallel_collecting (expressions.ensuring
        (dropsAlike_lowerExpression alone)
        (dropsAlike_lowerExpression thereAlone))).bind ?_
      rintro ⟨hereLowered, hereHoisted⟩ ⟨thereLowered, thereHoisted⟩
        ⟨⟨lowered, hereDrops, -⟩, hoisted⟩
      cases lowered with
      | none => exact parallel_pure hoisted
      | @some hereResult thereResult expression =>
          have references := expression.reference?
          have drops := hereDrops hereResult
          dsimp only
          generalize hereResult.reference? = hereReference at references drops ⊢
          generalize thereResult.reference? = thereReference at references ⊢
          cases references with
          | none =>
              exact (parallel_note _ _).bind fun _ _ _ => parallel_pure hoisted
          | some related =>
              obtain ⟨dropped, placed⟩ := drops _ rfl rfl
              exact parallel_pure (hoisted.append
                (standalone_counterpart agreement allowed same related dropped
                  placed))

theorem ElementsCounterpart.ofOption {here there : Option Template.Element}
    (options : Option.Rel (ElementCounterpart sites) here there) :
    ElementsCounterpart sites here.toList there.toList := by
  cases options with
  | none => exact .nil
  | some element => exact .single element

theorem parallel_result
    (agreement : Agreement sites matching hereTarget thereTarget) :
    ∀ {here there : Option Expression},
      Option.Rel (ExpressionMatch matching) here there →
        Parallel sites (ElementsCounterpart sites) (lowerResult hereTarget here)
          (lowerResult thereTarget there)
  | _, _, .none => parallel_pure .nil
  | _, _, .some source => by
      have values := (parallel_expression agreement source).value
      refine (parallel_collecting values).map ?_
      rintro ⟨_, here⟩ ⟨_, there⟩ ⟨value, hoisted⟩
      refine ElementsCounterpart.append ?_
        (.ofOption (optionRel_map value fun _ _ related => .emit related))
      rw [hoisted.isEmpty_eq]
      split
      · exact .nil
      · exact hoisted.append (.single .newLine)

theorem parallel_declaration
    (agreement : Agreement sites matching hereTarget thereTarget)
    {here there : Declaration} (same : DeclarationMatch matching here there) :
    Parallel sites (ElementsCounterpart sites) (lowerDeclaration hereTarget here)
      (lowerDeclaration thereTarget there) := by
  obtain ⟨herePattern, hereInitial, span⟩ := here
  obtain ⟨therePattern, thereInitial, otherSpan⟩ := there
  obtain ⟨pattern, initial, spans⟩ := same
  cases spans
  cases initial with
  | none => exact parallel_pure .nil
  | some initial =>
      cases pattern with
      | identifier named =>
          simp only [lowerDeclaration, named.name, named.span]
          refine (parallel_lowerName _ _).bind fun _ _ places => ?_
          refine (parallel_collecting
            (parallel_expression agreement initial)).bind ?_
          rintro ⟨_, here⟩ ⟨_, there⟩ ⟨value, hoisted⟩
          cases places with
          | none => exact parallel_pure hoisted
          | some same =>
              obtain ⟨rfl, rfl⟩ := same
              cases value with
              | none => exact parallel_pure hoisted
              | some expression =>
                  exact parallel_pure (hoisted.append
                    (.single (.assign ⟨.name, rfl⟩ expression.interpolated)))
      | array _ _ => exact (parallel_note _ _).bind fun _ _ _ => parallel_pure .nil
      | object => exact (parallel_note _ _).bind fun _ _ _ => parallel_pure .nil

theorem parallel_declarations
    (agreement : Agreement sites matching hereTarget thereTarget)
    {here there : List Declaration}
    (same : List.Forall₂ (DeclarationMatch matching) here there) :
    Parallel sites (ElementsCounterpart sites) (lowerDeclarations hereTarget here)
      (lowerDeclarations thereTarget there) := by
  induction same with
  | nil => exact parallel_pure .nil
  | cons declaration _ inductionHypothesis =>
      refine (parallel_declaration agreement declaration).bind fun _ _ elements => ?_
      exact inductionHypothesis.map fun _ _ rest => elements.append rest

/-- The variable of a loop is the same, and its directives are counterparts. -/
structure PatternCounterpart (sites : Sites)
    (here there : Template.Variable × List Template.Element) : Prop where
  item : here.1 = there.1
  opening : ElementsCounterpart sites here.2 there.2

theorem entryPart_counterpart (entry : Template.Variable)
    (place : Template.Identifier) (property : String) (span : Span) :
    ElementCounterpart sites (entryPart entry place property span)
      (entryPart entry place property span) :=
  .assign ⟨.name, rfl⟩ (.ofValue (.reference (.property .name)))

theorem parallel_loopPattern {here there : BindingName}
    (same : PatternMatch here there) :
    Parallel sites (Option.Rel (PatternCounterpart sites))
      (lowerLoopPattern here) (lowerLoopPattern there) := by
  cases same with
  | identifier named =>
      simp only [lowerLoopPattern, named.name, named.span]
      refine (parallel_lowerName _ _).mapOption ?_
      rintro _ _ ⟨rfl, rfl⟩
      exact ⟨rfl, .nil⟩
  | object => exact parallel_giveUp _ _
  | @array here there span lengths names =>
      simp only [lowerLoopPattern, lowerEntryPattern, lengths]
      split
      · exact parallel_giveUp _ _
      · generalize entryNames? here = hereNames at names ⊢
        generalize entryNames? there = thereNames at names ⊢
        cases names with
        | none => exact parallel_giveUp _ _
        | @some hereNames thereNames named =>
            obtain ⟨key, value⟩ := named
            simp only [key.name, key.span, value.name, value.span]
            refine (parallel_temporary _).bind fun entry _ same => ?_
            subst same
            refine (parallel_lowerName _ _).bind fun _ _ keys => ?_
            cases keys with
            | none => exact parallel_pure .none
            | some sameKey =>
                obtain ⟨rfl, rfl⟩ := sameKey
                refine parallel_named ⟨rfl, ?_⟩
                exact .cons (entryPart_counterpart _ _ _ _)
                  (.cons (entryPart_counterpart _ _ _ _) (.single .newLine))

/-! ## Statements -/

structure RestCounterpart (sites : Sites) (here there : BranchRest) : Prop where
  others : List.Forall₂ (ClauseCounterpart sites) here.others there.others
  otherwise : Option.Rel (BlockCounterpart sites) here.otherwise there.otherwise

structure PartsCounterpart (sites : Sites) (here there : BranchParts) : Prop where
  first : ClauseCounterpart sites here.first there.first
  others : List.Forall₂ (ClauseCounterpart sites) here.others there.others
  otherwise : Option.Rel (BlockCounterpart sites) here.otherwise there.otherwise

theorem parallel_branch
    (agreement : Agreement sites matching hereTarget thereTarget)
    {hereCondition thereCondition : Expression}
    (condition : ExpressionMatch matching hereCondition thereCondition)
    {here there : Statement} (spans : here.span = there.span)
    {hereAlternative thereAlternative : Option Statement}
    (consequents : Parallel sites (ElementsCounterpart sites)
      (lowerStatement hereTarget here) (lowerStatement thereTarget there))
    (alternatives : Parallel sites (Option.Rel (RestCounterpart sites))
      (lowerAlternative hereTarget hereAlternative)
      (lowerAlternative thereTarget thereAlternative)) :
    Parallel sites (Option.Rel (PartsCounterpart sites))
      (lowerBranch (lowerExpression hereTarget hereCondition)
        (lowerStatement hereTarget here) here.span
        (lowerAlternative hereTarget hereAlternative))
      (lowerBranch (lowerExpression thereTarget thereCondition)
        (lowerStatement thereTarget there) there.span
        (lowerAlternative thereTarget thereAlternative)) := by
  rw [spans]
  refine (parallel_expression agreement condition).bind fun _ _ conditions => ?_
  refine consequents.bind fun _ _ elements => ?_
  refine alternatives.map fun _ _ rests => ?_
  refine optionRel_bind conditions fun _ _ guard => ?_
  exact optionRel_map rests fun _ _ rest =>
    ⟨.mk guard.interpolated (.mk elements), rest.others, rest.otherwise⟩

/-- The other side of a branch, where it is no branch. -/
theorem parallel_otherwise {here there : Statement} (hereNot : isBranch here = false)
    (thereNot : isBranch there = false) (spans : here.span = there.span)
    (elements : Parallel sites (ElementsCounterpart sites)
      (lowerStatement hereTarget here) (lowerStatement thereTarget there)) :
    Parallel sites (Option.Rel (RestCounterpart sites))
      (lowerAlternative hereTarget (some here))
      (lowerAlternative thereTarget (some there)) := by
  rw [lowerAlternative_of_not_branch _ hereNot,
    lowerAlternative_of_not_branch _ thereNot, spans]
  exact elements.map fun _ _ related => .some ⟨.nil, .some (.mk related)⟩

theorem blankLines_counterpart (placement : Placement) :
    ElementsCounterpart sites (blankLines placement) (blankLines placement) := by
  unfold blankLines
  induction placement.leadingNewlines - 1 with
  | zero => exact .nil
  | succ count inductionHypothesis => exact .cons .newLine inductionHypothesis

theorem Parallel.spaced {here there : Lower (List Template.Element)}
    (elements : Parallel sites (ElementsCounterpart sites) here there)
    (placement : Placement) :
    Parallel sites (ElementsCounterpart sites)
      (do return blankLines placement ++ (← here))
      (do return blankLines placement ++ (← there)) :=
  elements.map fun _ _ related => (blankLines_counterpart _).append related

mutual

theorem parallel_statement
    (agreement : Agreement sites matching hereTarget thereTarget) :
    ∀ {here there : Statement}, StatementMatch matching here there →
      Parallel sites (ElementsCounterpart sites) (lowerStatement hereTarget here)
        (lowerStatement thereTarget there)
  | _, _, .block statements =>
      (parallel_statements agreement statements).spaced _
  | _, _, .expression allowed evaluated =>
      (parallel_evaluation agreement allowed evaluated).spaced _
  | _, _, .branch condition consequent alternative => by
      have parts := parallel_branch agreement condition consequent.span_eq
        (parallel_statement agreement consequent)
        (parallel_alternative agreement alternative)
      refine (parallel_collecting parts).map ?_
      rintro ⟨_, here⟩ ⟨_, there⟩ ⟨branch, hoisted⟩
      refine ((blankLines_counterpart _).append hoisted).append
        (.ofOption (optionRel_map branch fun _ _ related => ?_))
      exact .branch related.first related.others related.otherwise
  | _, _, .loop pattern iterable body => by
      have values := (parallel_expression agreement iterable).value
      have bodies := parallel_statement agreement body
      have spans := body.span_eq
      simp only [lowerStatement, spans]
      refine (parallel_loopPattern pattern).bind fun _ _ patterns => ?_
      refine (parallel_collecting values).bind ?_
      rintro ⟨_, here⟩ ⟨_, there⟩ ⟨value, hoisted⟩
      refine bodies.map fun _ _ elements => ?_
      refine ((blankLines_counterpart _).append hoisted).append
        (.ofOption (optionRel_bind patterns ?_))
      rintro ⟨item, hereOpening⟩ ⟨_, thereOpening⟩ ⟨rfl, opening⟩
      exact optionRel_map value fun _ _ related =>
        .loop related (.mk (opening.append elements))
  | _, _, .otherLoop spans => by
      simp only [lowerStatement, spans]
      exact (parallel_note _ _).bind fun _ _ _ =>
        parallel_pure (blankLines_counterpart _)
  | _, _, .result returned => (parallel_result agreement returned).spaced _
  | _, _, .declarations declared =>
      (parallel_declarations agreement declared).spaced _
  | _, _, .other =>
      (parallel_note _ _).bind fun _ _ _ =>
        parallel_pure ((blankLines_counterpart _).append (.single .text))
termination_by structural here => here

theorem parallel_statements
    (agreement : Agreement sites matching hereTarget thereTarget) :
    ∀ {here there : List Statement},
      List.Forall₂ (StatementMatch matching) here there →
        Parallel sites (ElementsCounterpart sites) (lowerStatements hereTarget here)
          (lowerStatements thereTarget there)
  | _, _, .nil => parallel_pure .nil
  | _, _, .cons source others =>
      (parallel_statement agreement source).bind fun _ _ elements =>
        (parallel_statements agreement others).map fun _ _ rest =>
          elements.append rest
termination_by structural here => here

theorem parallel_alternative
    (agreement : Agreement sites matching hereTarget thereTarget) :
    ∀ {here there : Option Statement},
      Option.Rel (StatementMatch matching) here there →
        Parallel sites (Option.Rel (RestCounterpart sites))
          (lowerAlternative hereTarget here) (lowerAlternative thereTarget there)
  | _, _, .none => parallel_pure (.some ⟨.nil, .none⟩)
  | _, _, .some (.branch condition consequent alternative) =>
      (parallel_branch agreement condition consequent.span_eq
        (parallel_statement agreement consequent)
        (parallel_alternative agreement alternative)).mapOption
          fun _ _ parts => ⟨.cons parts.first parts.others, parts.otherwise⟩
  | _, _, .some (.block statements) =>
      parallel_otherwise rfl rfl rfl
        (parallel_statement agreement (.block statements))
  | _, _, .some (.expression allowed evaluated) =>
      parallel_otherwise rfl rfl rfl
        (parallel_statement agreement (.expression allowed evaluated))
  | _, _, .some (.loop pattern iterable body) =>
      parallel_otherwise rfl rfl rfl
        (parallel_statement agreement (.loop pattern iterable body))
  | _, _, .some (.otherLoop spans) =>
      parallel_otherwise rfl rfl rfl (parallel_statement agreement (.otherLoop spans))
  | _, _, .some (.result returned) =>
      parallel_otherwise rfl rfl rfl (parallel_statement agreement (.result returned))
  | _, _, .some (.declarations declared) =>
      parallel_otherwise rfl rfl rfl
        (parallel_statement agreement (.declarations declared))
  | _, _, .some .other =>
      parallel_otherwise rfl rfl rfl (parallel_statement agreement .other)
termination_by structural here => here

end

/-! ## Functions -/

theorem prelude_counterpart {here there : State}
    (states : StateCounterpart sites here there) :
    ElementsCounterpart sites (prelude here) (prelude there) := by
  have escape : ElementsCounterpart sites escapePrelude escapePrelude :=
    .cons
      (.assign ⟨.name, rfl⟩ (.ofValue (.map (.cons (.mk .string) .nil))))
      (.single .newLine)
  have stringClass :
      ElementsCounterpart sites stringClassPrelude stringClassPrelude :=
    .cons (.assign ⟨.name, rfl⟩ (.ofValue .string))
      (.cons
        (.assign ⟨.name, rfl⟩ (.ofValue (.reference (.property .name))))
        (.single .newLine))
  unfold prelude
  rw [states.needsEscape, states.needsStringClass]
  refine ElementsCounterpart.append ?_ ?_ <;> split
  · exact escape
  · exact .nil
  · exact stringClass
  · exact .nil

theorem parallel_function
    (agreement : Agreement sites matching hereTarget thereTarget)
    {here there : FunctionDeclaration} (same : FunctionMatch matching here there) :
    Parallel sites (Option.Rel (FileCounterpart sites))
      (functionStep hereTarget here) (functionStep thereTarget there) := by
  have bodies := same.body
  unfold functionStep
  rw [same.complaint, same.name, same.span]
  split
  · exact parallel_giveUp _ _
  · generalize here.body = hereBody at bodies ⊢
    generalize there.body = thereBody at bodies ⊢
    cases bodies with
    | none => exact parallel_giveUp _ _
    | some body =>
        simp only [body.span]
        refine (parallel_statements agreement body.statements).bind
          fun _ _ elements => ?_
        intro first second states
        exact ⟨.some
          ⟨rfl, .mk ((prelude_counterpart states).append elements), rfl⟩, states⟩

end VelocityScript.Lowering
