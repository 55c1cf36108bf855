import VelocityScript.Proofs.Lowering.RelocatedExpression
import VelocityScript.Proofs.Lowering.StatementDerivation

/-!
# Templates of relocated scripts

A relocated script gives the relocated templates and reports.
-/

namespace VelocityScript.Lowering

open Script

variable {move : Span → Span}

/-! ## Statements -/

theorem returnsNothing_relocate (source : Expression) :
    returnsNothing (source.relocate move) = returnsNothing source := by
  cases source with
  | call callee arguments returns span => cases returns <;> rfl
  | _ => rfl

theorem isCall_relocate (reference : Template.Reference) :
    isCall (reference.relocate move) = isCall reference := by
  obtain ⟨path, origin⟩ := reference
  cases path <;> rfl

theorem standalone_relocate (target : Target) (source : Expression)
    (reference : Template.Reference) :
    Template.relocateElements move (standalone target source reference) =
      standalone target (source.relocate move) (reference.relocate move) := by
  unfold standalone
  rw [isCall_relocate, returnsNothing_relocate]
  split
  · cases target <;> rfl
  · rfl

theorem standsAlone_relocate (source : Expression) :
    standsAlone (source.relocate move) = standsAlone source := by
  cases source <;> rfl

theorem relocates_evaluated (target : Target) {source : Expression}
    (alone : standsAlone source = true) :
    Relocates move (Template.relocateElements move) (lowerEvaluation target source)
      (lowerEvaluation target (source.relocate move)) := by
  rw [lowerEvaluation_of_standsAlone target alone, lowerEvaluation_of_standsAlone
    target ((standsAlone_relocate source).trans alone)]
  refine (relocates_collecting (relocates_lowerExpression target source)).bind
    fun collected => ?_
  obtain ⟨lowered, hoisted⟩ := collected
  cases lowered with
  | none => exact relocates_pure hoisted
  | some lowered =>
      simp only [Option.map_some, Template.reference?_relocate, span_relocate,
        syntaxName_relocate]
      cases lowered.reference? with
      | none => exact (relocates_note _ source.span).next (relocates_pure hoisted)
      | some reference =>
          refine relocates_pure_of_eq ?_
          rw [Template.relocateElements_append, standalone_relocate]

theorem relocates_lowerEvaluation (target : Target) (source : Expression) :
    Relocates move (Template.relocateElements move) (lowerEvaluation target source)
      (lowerEvaluation target (source.relocate move)) := by
  cases source with
  | assignment operator place value span =>
      exact (relocates_collecting (relocates_lowerExpression target _)).map
        fun _ => rfl
  | binary operator left right span =>
      exact (relocates_note (.binaryStatement operator) span).next (relocates_pure [])
  | _ => exact relocates_evaluated target rfl

theorem relocates_lowerValue (target : Target) (source : Expression) :
    Relocates move (Option.map (Template.Value.relocate move))
      (lowerValue target source) (lowerValue target (source.relocate move)) :=
  (relocates_lowerExpression target source).value

theorem relocates_lowerResult (target : Target) (returned : Option Expression) :
    Relocates move (Template.relocateElements move) (lowerResult target returned)
      (lowerResult target (returned.map (Expression.relocate move))) := by
  cases returned with
  | none => exact relocates_pure []
  | some source =>
      refine (relocates_collecting (relocates_lowerValue target source)).map
        fun collected => ?_
      obtain ⟨value, hoisted⟩ := collected
      have opening : Template.relocateElements move
            (if hoisted.isEmpty then [] else hoisted ++ [.newLine]) =
          if (Template.relocateElements move hoisted).isEmpty then []
          else Template.relocateElements move hoisted ++ [.newLine] := by
        rw [Template.isEmpty_relocateElements]
        split
        · rfl
        · exact Template.relocateElements_append move hoisted [.newLine]
      have printed : Template.relocateElements move (value.map .emit).toList =
          ((value.map (Template.Value.relocate move)).map .emit).toList := by
        cases value <;> rfl
      dsimp only
      rw [Template.relocateElements_append, opening, printed]

theorem relocates_lowerDeclaration (target : Target) (declared : Declaration) :
    Relocates move (Template.relocateElements move)
      (lowerDeclaration target declared)
      (lowerDeclaration target (declared.relocate move)) := by
  obtain ⟨name, initial, span⟩ := declared
  cases initial with
  | none => exact relocates_pure []
  | some initial =>
      have lowered :=
        relocates_collecting (@relocates_lowerExpression move target initial)
      cases name with
      | array elements patternSpan =>
          exact (relocates_note .destructuring patternSpan).next (relocates_pure [])
      | object properties patternSpan =>
          exact (relocates_note .destructuring patternSpan).next (relocates_pure [])
      | identifier named =>
          refine (relocates_lowerName named.name named.span).bind fun place => ?_
          refine lowered.bind fun collected => ?_
          obtain ⟨value, hoisted⟩ := collected
          cases place with
          | none => exact relocates_pure _
          | some place =>
              cases value with
              | none => exact relocates_pure _
              | some value =>
                  refine relocates_pure_of_eq ?_
                  rw [Template.relocateElements_append]
                  simp only [Template.interpolated_relocate]
                  rfl

theorem relocates_lowerDeclarations (target : Target) :
    ∀ declared : List Declaration,
      Relocates move (Template.relocateElements move)
        (lowerDeclarations target declared)
        (lowerDeclarations target (declared.map (Declaration.relocate move)))
  | [] => relocates_pure []
  | declaration :: others => by
      refine (relocates_lowerDeclaration target declaration).bind fun elements => ?_
      refine (relocates_lowerDeclarations target others).map fun rest => ?_
      exact Template.relocateElements_append move elements rest

theorem length_relocateBindings (elements : List BindingElement) :
    (relocateBindings move elements).length = elements.length := by
  induction elements with
  | nil => rfl
  | cons element others inductionHypothesis =>
      cases element <;> exact congrArg Nat.succ inductionHypothesis

theorem entryNames?_relocate (first second : BindingElement) :
    entryNames? (relocateBindings move [first, second]) =
      (entryNames? [first, second]).map fun names =>
        (names.1.relocate move, names.2.relocate move) := by
  rcases first with _ | ⟨_ | _ | _⟩ <;> rcases second with _ | ⟨_ | _ | _⟩ <;> rfl

/-- What a loop declares, relocated. -/
def relocateOpening (move : Span → Span)
    (opening : Template.Variable × List Template.Element) :
    Template.Variable × List Template.Element :=
  (opening.1.relocate move, Template.relocateElements move opening.2)

theorem relocates_lowerEntryPattern (elements : List BindingElement) (span : Span) :
    Relocates move (Option.map (relocateOpening move))
      (lowerEntryPattern elements span)
      (lowerEntryPattern (relocateBindings move elements) (move span)) := by
  unfold lowerEntryPattern
  rw [length_relocateBindings]
  split
  · exact relocates_giveUp .entryPatternSize span
  · next size =>
      match elements, Decidable.not_not.mp size with
      | [first, second], _ =>
          rw [entryNames?_relocate]
          cases entryNames? [first, second] with
          | none => exact relocates_giveUp .entryPatternNames span
          | some names =>
              obtain ⟨key, value⟩ := names
              refine (relocates_temporary (some span)).bind fun entry => ?_
              refine (relocates_lowerName key.name key.span).bind fun keyName => ?_
              cases keyName with
              | none => exact relocates_pure none
              | some keyName =>
                  refine (relocates_lowerName value.name value.span).bind
                    fun valueName => ?_
                  cases valueName <;> exact relocates_pure _

theorem relocates_lowerLoopPattern (pattern : BindingName) :
    Relocates move (Option.map (relocateOpening move)) (lowerLoopPattern pattern)
      (lowerLoopPattern (pattern.relocate move)) := by
  cases pattern with
  | identifier named =>
      exact (relocates_lowerName named.name named.span).mapOption fun _ => rfl
  | array elements span => exact relocates_lowerEntryPattern elements span
  | object properties span => exact relocates_giveUp .loopPattern span

def BranchParts.relocate (move : Span → Span) (parts : BranchParts) : BranchParts :=
  { first := parts.first.relocate move
    others := Template.relocateClauses move parts.others
    otherwise := Template.relocateOtherwise move parts.otherwise }

def BranchRest.relocate (move : Span → Span) (rest : BranchRest) : BranchRest :=
  { others := Template.relocateClauses move rest.others
    otherwise := Template.relocateOtherwise move rest.otherwise }

theorem relocates_lowerBranch
    {condition conditionMoved : Lower (Option Template.Expression)}
    {consequent consequentMoved : Lower (List Template.Element)}
    {alternative alternativeMoved : Lower (Option BranchRest)} (span : Span)
    (conditions : Relocates move (Option.map (Template.Expression.relocate move))
      condition conditionMoved)
    (consequents : Relocates move (Template.relocateElements move) consequent
      consequentMoved)
    (alternatives : Relocates move (Option.map (BranchRest.relocate move)) alternative
      alternativeMoved) :
    Relocates move (Option.map (BranchParts.relocate move))
      (lowerBranch condition consequent span alternative)
      (lowerBranch conditionMoved consequentMoved (move span) alternativeMoved) := by
  refine conditions.bind fun guard => ?_
  refine consequents.bind fun elements => ?_
  refine alternatives.map fun rest => ?_
  cases guard with
  | none => rfl
  | some guard =>
      cases rest with
      | none => rfl
      | some rest =>
          simp only [Option.map_some, Option.bind_some,
            Template.interpolated_relocate]
          rfl

theorem blankLines_relocate (placement : Placement) :
    Template.relocateElements move (blankLines placement) =
      blankLines (placement.relocate move) := by
  unfold blankLines
  change Template.relocateElements move
      (List.replicate (placement.leadingNewlines - 1) .newLine) =
    List.replicate (placement.leadingNewlines - 1) .newLine
  induction placement.leadingNewlines - 1 with
  | zero => rfl
  | succ count inductionHypothesis =>
      exact congrArg (Template.Element.newLine :: ·) inductionHypothesis

theorem Relocates.spaced {here there : Lower (List Template.Element)}
    (step : Relocates move (Template.relocateElements move) here there)
    (placement : Placement) :
    Relocates move (Template.relocateElements move)
      (do return blankLines placement ++ (← here))
      (do return blankLines (placement.relocate move) ++ (← there)) := by
  refine step.map fun elements => ?_
  rw [Template.relocateElements_append, blankLines_relocate]

theorem isBranch_relocate (source : Statement) :
    isBranch (source.relocate move) = isBranch source := by
  cases source <;> rfl

theorem relocates_otherwise {target : Target} {source : Statement}
    (notBranch : isBranch source = false)
    (lowered : Relocates move (Template.relocateElements move)
      (lowerStatement target source)
      (lowerStatement target (source.relocate move))) :
    Relocates move (Option.map (BranchRest.relocate move))
      (lowerAlternative target (some source))
      (lowerAlternative target (some (source.relocate move))) := by
  rw [lowerAlternative_of_not_branch target notBranch,
    lowerAlternative_of_not_branch target
      ((isBranch_relocate source).trans notBranch)]
  rw [span_relocate_statement]
  exact lowered.map fun _ => rfl

mutual

theorem relocates_lowerStatement (target : Target) :
    ∀ source : Statement,
      Relocates move (Template.relocateElements move) (lowerStatement target source)
        (lowerStatement target (source.relocate move))
  | .block statements placement =>
      (relocates_lowerStatements target statements).spaced placement
  | .expression evaluated placement =>
      (relocates_lowerEvaluation target evaluated).spaced placement
  | .branch condition consequent alternative placement => by
      have parts := relocates_lowerBranch consequent.span
        (relocates_lowerExpression target condition)
        (relocates_lowerStatement target consequent)
        (relocates_lowerAlternative target alternative)
      simp only [Statement.relocate, lowerStatement, span_relocate_statement]
      refine (relocates_collecting parts).map fun collected => ?_
      obtain ⟨parts, hoisted⟩ := collected
      dsimp only
      rw [Template.relocateElements_append, Template.relocateElements_append,
        blankLines_relocate]
      cases parts <;> rfl
  | .loop (.expression assigned) iterable body placement => by
      simp only [Statement.relocate, LoopHeader.relocate, lowerStatement,
        span_relocate]
      exact (relocates_note .loopHeader assigned.span).next
        (relocates_pure_of_eq (blankLines_relocate placement))
  | .loop (.declaration declared) iterable body placement => by
      have bodies := relocates_lowerStatement target body
      simp only [Statement.relocate, LoopHeader.relocate, lowerStatement,
        span_relocate_statement]
      refine (relocates_lowerLoopPattern declared.name).bind fun pattern => ?_
      refine (relocates_collecting (relocates_lowerValue target iterable)).bind
        fun collected => ?_
      obtain ⟨value, hoisted⟩ := collected
      refine bodies.map fun elements => ?_
      rw [Template.relocateElements_append, Template.relocateElements_append,
        blankLines_relocate]
      cases pattern with
      | none => rfl
      | some opening =>
          cases value with
          | none => rfl
          | some value =>
              have inside :=
                Template.relocateElements_append move opening.2 elements
              simp only [Option.map_some, Option.bind_some, Option.toList_some,
                Template.relocateElements, Template.Element.relocate,
                Template.Block.relocate, inside]
              rfl
  | .result returned placement =>
      (relocates_lowerResult target returned).spaced placement
  | .declarations _ declared placement =>
      (relocates_lowerDeclarations target declared).spaced placement
  | .other kind placement => by
      refine (relocates_note (.statement kind) placement.span).next ?_
      refine relocates_pure_of_eq ?_
      rw [Template.relocateElements_append, blankLines_relocate]
      rfl

theorem relocates_lowerStatements (target : Target) :
    ∀ sources : List Statement,
      Relocates move (Template.relocateElements move) (lowerStatements target sources)
        (lowerStatements target (relocateStatements move sources))
  | [] => relocates_pure []
  | source :: others => by
      refine (relocates_lowerStatement target source).bind fun elements => ?_
      refine (relocates_lowerStatements target others).map fun rest => ?_
      exact Template.relocateElements_append move elements rest

theorem relocates_lowerAlternative (target : Target) :
    ∀ source : Option Statement,
      Relocates move (Option.map (BranchRest.relocate move))
        (lowerAlternative target source)
        (lowerAlternative target (relocateAlternative move source))
  | none => relocates_pure _
  | some (.branch condition consequent alternative placement) => by
      have parts := relocates_lowerBranch consequent.span
        (relocates_lowerExpression target condition)
        (relocates_lowerStatement target consequent)
        (relocates_lowerAlternative target alternative)
      simp only [relocateAlternative, Statement.relocate, lowerAlternative,
        span_relocate_statement]
      exact parts.mapOption fun _ => rfl
  | some (.block statements placement) =>
      relocates_otherwise rfl
        (relocates_lowerStatement target (.block statements placement))
  | some (.expression evaluated placement) =>
      relocates_otherwise rfl
        (relocates_lowerStatement target (.expression evaluated placement))
  | some (.loop header iterable body placement) =>
      relocates_otherwise rfl
        (relocates_lowerStatement target (.loop header iterable body placement))
  | some (.result returned placement) =>
      relocates_otherwise rfl
        (relocates_lowerStatement target (.result returned placement))
  | some (.declarations keyword declared placement) =>
      relocates_otherwise rfl
        (relocates_lowerStatement target (.declarations keyword declared placement))
  | some (.other kind placement) =>
      relocates_otherwise rfl
        (relocates_lowerStatement target (.other kind placement))

end

/-! ## Modules -/

theorem prelude_relocate (state : State) :
    Template.relocateElements move (prelude state) =
      prelude (state.relocate move) := by
  unfold prelude
  rw [Template.relocateElements_append]
  obtain ⟨_, needsEscape, needsStringClass, _, _⟩ := state
  cases needsEscape <;> cases needsStringClass <;> rfl

theorem functionComplaint?_relocate (function : FunctionDeclaration) :
    functionComplaint? (function.relocate move) = functionComplaint? function :=
  rfl

theorem templateName_relocate (function : FunctionDeclaration) :
    templateName (function.relocate move) = templateName function := by
  unfold templateName FunctionDeclaration.relocate
  cases function.name <;> rfl

theorem relocates_functionStep (target : Target) (function : FunctionDeclaration) :
    Relocates move (Option.map (Template.File.relocate move))
      (functionStep target function)
      (functionStep target (function.relocate move)) := by
  have named := @templateName_relocate move function
  unfold functionStep
  rw [functionComplaint?_relocate]
  cases functionComplaint? function with
  | some complaint => exact relocates_giveUp complaint function.span
  | none =>
      cases bodied : function.body with
      | none =>
          simp only [FunctionDeclaration.relocate, bodied, Option.map_none]
          exact relocates_giveUp .missingBody function.span
      | some body =>
          simp only [named]
          simp only [FunctionDeclaration.relocate, bodied, Option.map_some]
          refine (relocates_lowerStatements target body.statements).bind
            fun elements => ?_
          intro state
          have opening : prelude (state.relocate move) ++
                Template.relocateElements move elements =
              Template.relocateElements move (prelude state ++ elements) := by
            rw [Template.relocateElements_append, prelude_relocate]
          refine Prod.ext ?_ rfl
          exact congrArg
            (fun elements =>
              some (Template.File.mk (templateName function)
                (.mk elements (some (move body.span)))
                (some (move function.span))))
            opening

/-- The template and the reports of a relocated function. -/
theorem lowerFunction_relocate (target : Target) (function : FunctionDeclaration) :
    lowerFunction target (function.relocate move) =
      ((lowerFunction target function).1.map (Template.File.relocate move),
        (lowerFunction target function).2.map (Report.relocate move)) := by
  have followed := @relocates_functionStep move target function {}
  have initial : ({} : State).relocate move = {} := rfl
  rw [initial] at followed
  unfold lowerFunction
  rw [followed]
  rfl

def Outcome.relocate (move : Span → Span) (outcome : Outcome) : Outcome :=
  { files := outcome.files.map (Template.File.relocate move)
    reports := outcome.reports.map (Report.relocate move) }

theorem implements_relocate (name : Option String) (item : Item) :
    implements name (item.relocate move) = implements name item := by
  cases item with
  | function declared =>
      obtain ⟨functionName, _, _, body, _, _⟩ := declared
      cases functionName <;> cases body <;> rfl
  | _ => rfl

theorem any_implements_relocate (name : Option String) (items : List Item) :
    (items.map (Item.relocate move)).any (implements name) =
      items.any (implements name) := by
  rw [List.any_map]
  exact congrArg items.any (funext (implements_relocate name))

theorem lowerItems_relocate (target : Target) :
    ∀ items : List Item,
      lowerItems target (items.map (Item.relocate move)) =
        (lowerItems target items).relocate move
  | [] => rfl
  | .imports _ :: others => lowerItems_relocate target others
  | .typeDeclaration _ :: others => lowerItems_relocate target others
  | .statement content :: others => by
      have rest := lowerItems_relocate target others
      rw [List.map_cons]
      change lowerItems target (.statement (content.relocate move) :: _) = _
      simp only [lowerItems, rest, span_relocate_statement,
        syntaxName_relocate_statement]
      rfl
  | .function function :: others => by
      have rest := lowerItems_relocate target others
      have names : (function.relocate move).name.map Identifier.name =
          function.name.map Identifier.name := by
        unfold FunctionDeclaration.relocate
        cases function.name <;> rfl
      have bodies : (function.relocate move).body.isNone = function.body.isNone :=
        Option.isNone_map
      rw [List.map_cons]
      change lowerItems target (.function (function.relocate move) :: _) = _
      simp only [lowerItems, rest, names, bodies, any_implements_relocate,
        lowerFunction_relocate]
      split
      · rfl
      · simp only [Outcome.relocate, List.map_append]
        cases (lowerFunction target function).1 <;> rfl

theorem lowerModule_relocate (target : Target) (script : Module) :
    lowerModule target (script.relocate move) =
      (lowerModule target script).relocate move :=
  lowerItems_relocate target script.items

/-- Scripts that differ only in where their parts stand have templates that
differ only in their origins, and both have reports or none has. -/
theorem lowerModule_eq_up_to_places (target : Target) {here there : Module}
    (same : here.withoutSpans = there.withoutSpans) :
    (lowerModule target here.resolve).files.map Template.File.withoutOrigins =
        (lowerModule target there.resolve).files.map Template.File.withoutOrigins ∧
      ((lowerModule target here.resolve).reports = [] ↔
        (lowerModule target there.resolve).reports = []) := by
  let nowhere : Span → Span := fun _ => ⟨0, 0⟩
  have moved : ∀ script : Module,
      lowerModule target script.withoutSpans.resolve =
        (lowerModule target script.resolve).relocate nowhere := by
    intro script
    rw [Module.withoutSpans, resolve_relocate_module, lowerModule_relocate]
  have outcomes : (lowerModule target here.resolve).relocate nowhere =
      (lowerModule target there.resolve).relocate nowhere := by
    rw [← moved, ← moved, same]
  have reports := congrArg Outcome.reports outcomes
  refine ⟨congrArg Outcome.files outcomes, ?_⟩
  constructor
  · intro silent
    simpa only [Outcome.relocate, silent, List.map_nil, List.nil_eq,
      List.map_eq_nil_iff] using reports
  · intro silent
    simpa only [Outcome.relocate, silent, List.map_nil,
      List.map_eq_nil_iff] using reports

end VelocityScript.Lowering
