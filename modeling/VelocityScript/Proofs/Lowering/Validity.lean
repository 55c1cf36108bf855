import VelocityScript.Proofs.Lowering.Accountability
import VelocityScript.Proofs.Lowering.Provision

/-!
# Lowered templates pass the check

The directives that a statement hoists stand in front of it, and provide for
all that it reads: those of every condition of a chain of branches in front of
the whole chain, and those of an iterable in front of the loop.  So a template
that is lowered without reports has no findings, as long as no name of the
script is that of a temporary.
-/

namespace VelocityScript.Lowering

open Script

/-- The check accepts the elements wherever they stand. -/
def Accepted (elements : List Template.Element) : Prop :=
  ∀ context, (Template.checkElements context elements).1 = []

theorem Accepted.nil : Accepted [] := fun _ => rfl

theorem Accepted.append {first second : List Template.Element}
    (firstAccepted : Accepted first) (secondAccepted : Accepted second) :
    Accepted (first ++ second) := by
  intro context
  rw [Template.checkElements_append, firstAccepted, secondAccepted]
  rfl

theorem accepted_blankLines (placement : Placement) :
    Accepted (blankLines placement) := by
  unfold blankLines
  induction placement.leadingNewlines - 1 with
  | zero => exact .nil
  | succ count inductionHypothesis =>
      have line : Accepted [.newLine] := fun _ => rfl
      exact line.append inductionHypothesis

/-- The check accepts the directives wherever they stand, and finds nothing
from then on. -/
structure Serves (directives : List Template.Element)
    (check : Template.CheckContext → List Template.Finding) : Prop where
  accepted : Accepted directives
  clean : ∀ context later : Template.CheckContext,
    (context.after directives).assigned ⊆ later.assigned → check later = []

theorem Provides.serves {first next : Nat}
    {directives : List Template.Element}
    {check : Template.CheckContext → List Template.Finding}
    (provides : Provides first next directives check) :
    Serves directives check where
  accepted := provides.sets.accepted
  clean context later known := by
    apply provides.clean
    intro number above below
    exact known (provides.sets.covers context number above below)

namespace Serves

variable {directives before after elements : List Template.Element}
variable {check left right : Template.CheckContext → List Template.Finding}

/-- What follows the directives is accepted when it holds only what they
serve. -/
theorem followed (serves : Serves directives check)
    (holds : ∀ context : Template.CheckContext,
      (∀ inside : Template.CheckContext,
        context.assigned ⊆ inside.assigned → check inside = []) →
      (Template.checkElements context elements).1 = []) :
    Accepted (directives ++ elements) := by
  intro context
  have following := holds (context.after directives) (serves.clean context)
  rw [Template.checkElements_append, serves.accepted, following]
  rfl

end Serves

/-- What the check finds in the clauses of a branch and in the block after
them. -/
def checkRest (others : List Template.Clause)
    (otherwise : Option Template.Block) (context : Template.CheckContext) :
    List Template.Finding :=
  let (inOthers, assigned) := Template.checkClauses context others
  inOthers ++ (Template.checkOtherwise { context with assigned } otherwise).1

/-- The names that a step meets. -/
def Passage.names : Passage → List String
  | .evaluation source => source.names
  | .result returned => namesOfOption returned
  | .declaration declared => declared.allNames
  | .declarations declared => namesOfDeclarations declared
  | .loopPattern pattern => pattern.names
  | .branch condition consequent rest =>
      condition.names ++ consequent.names ++ namesOfAlternative rest
  | .alternative source => namesOfAlternative source
  | .statement source => source.names
  | .statements sources => namesOfStatements sources

/-- The elements are accepted, and leave no directives to those around them. -/
structure SelfContained (elements hoisted : List Template.Element) : Prop where
  nothing : hoisted = []
  accepted : Accepted elements

theorem SelfContained.append {first second : List Template.Element}
    {before after : Effect} (firstStands : SelfContained first before.hoisted)
    (secondStands : SelfContained second after.hoisted) :
    SelfContained (first ++ second) (before ++ after).hoisted where
  nothing := by
    rw [Effect.append_hoisted, firstStands.nothing, secondStands.nothing]
    rfl
  accepted := firstStands.accepted.append secondStands.accepted

theorem SelfContained.spaced {elements hoisted : List Template.Element}
    (stands : SelfContained elements hoisted) (placement : Placement) :
    SelfContained (blankLines placement ++ elements) hoisted where
  nothing := stands.nothing
  accepted := (accepted_blankLines placement).append stands.accepted

/-- What the check makes of the result of a step.  Only branches leave
directives to those around them. -/
def Passage.Passes : (passage : Passage) → passage.Result →
    List Template.Element → Prop
  | .evaluation _, elements, hoisted | .result _, elements, hoisted
  | .declaration _, elements, hoisted | .declarations _, elements, hoisted
  | .statement _, elements, hoisted | .statements _, elements, hoisted =>
      SelfContained elements hoisted
  | .loopPattern _, (item, opening), hoisted =>
      hoisted = [] ∧ Template.isValidIdentifier item.name.text = true ∧
        ∀ context : Template.CheckContext, item.name.text ∈ context.assigned →
          (Template.checkElements context opening).1 = []
  | .branch _ _ _, parts, hoisted =>
      Serves hoisted (checkRest (parts.first :: parts.others) parts.otherwise)
  | .alternative _, rest, hoisted =>
      Serves hoisted (checkRest rest.others rest.otherwise)

/-- The elements of a reference that stands as a statement hold nothing but the
reference and names that are always valid. -/
theorem check_standalone (target : Target) (source : Expression)
    {reference : Template.Reference} {context : Template.CheckContext}
    (readable : ∀ inside : Template.CheckContext,
      context.assigned ⊆ inside.assigned → reference.path.check inside = []) :
    (Template.checkElements context (standalone target source reference)).1 =
      [] := by
  unfold standalone
  split
  · cases target with
    | appsync =>
        have here := readable context fun _ member => member
        have util : "util" ∈ ownNames := by decide
        have quiet : "qr" ∈ ownNames := by decide
        simp [discardCall, Template.checkElements, Template.Element.check,
          Template.Value.check, Template.Path.check, Template.checkValues,
          Template.Reference.value, here, check_ownName util,
          check_ownName quiet]
    | apigateway =>
        have inside := readable (context.enter .setDirective)
          fun _ member => member
        have valid : Template.isValidIdentifier "discard" = true := by decide
        simp [discardCall, Template.checkElements, Template.Element.check,
          Template.Expression.check, Template.Value.check, Template.Place.check,
          Template.Reference.value, inside,
          Template.CheckContext.checkName, valid]
  · have here := readable context fun _ member => member
    simp [Template.checkElements, Template.Element.check,
      Template.Reference.value, Template.Value.check, here]

/-- An assignment to a valid name is accepted where its value is. -/
theorem check_assign_named (name : Template.Identifier)
    {value : Template.Expression} {context : Template.CheckContext}
    (valid : Template.isValidIdentifier name.text = true)
    (readable : ∀ inside : Template.CheckContext,
      context.assigned ⊆ inside.assigned → value.check inside = [])
    (origin : Template.Origin) :
    ((Template.Element.assign (.named (.ofIdentifier name)) value origin).check
      context).1 = [] := by
  have inside := readable (context.enter .setDirective) fun _ member => member
  have written :
      (context.enter .setDirective).checkName
        (Template.Variable.ofIdentifier name).name = [] :=
    Template.CheckContext.checkName_of_valid valid
  simp only [Template.Element.check, Template.Place.check, inside, written,
    List.append_nil]

/-- A part of an entry is taken where the entry is known. -/
theorem check_entryPart {entry : Template.Variable}
    {place : Template.Identifier} {property : String}
    {context : Template.CheckContext}
    (entryValid : Template.isValidIdentifier entry.name.text = true)
    (placeValid : Template.isValidIdentifier place.text = true)
    (own : property ∈ ownNames) (known : entry.name.text ∈ context.assigned)
    (span : Span) :
    ((entryPart entry place property span).check context).1 = [] := by
  refine check_assign_named place placeValid ?_ (some span)
  intro inside wider
  refine List.append_eq_nil_iff.mpr ⟨?_, check_ownName own _ inside⟩
  exact Template.CheckContext.checkRead_of_mem entryValid (wider known)

theorem check_entryParts (entry : Template.Variable)
    {keyName valueName : Template.Identifier} {context : Template.CheckContext}
    (entryValid : Template.isValidIdentifier entry.name.text = true)
    (keyValid : Template.isValidIdentifier keyName.text = true)
    (valueValid : Template.isValidIdentifier valueName.text = true)
    (known : entry.name.text ∈ context.assigned) (keySpan valueSpan : Span) :
    (Template.checkElements context
      [entryPart entry keyName "key" keySpan,
        entryPart entry valueName "value" valueSpan, .newLine]).1 = [] := by
  have key : "key" ∈ ownNames := by decide
  have value : "value" ∈ ownNames := by decide
  have inKey := check_entryPart entryValid keyValid key known keySpan
  have stillKnown := Template.Element.check_keeps context
    (entryPart entry keyName "key" keySpan) known
  have inValue : ((entryPart entry valueName "value" valueSpan).check
      { context with
        assigned := ((entryPart entry keyName "key" keySpan).check context).2 }
      ).1 = [] := by
    refine check_entryPart entryValid valueValid value ?_ valueSpan
    exact stillKnown
  simp only [Template.checkElements, inKey, inValue, Template.Element.check,
    List.append_nil]

theorem check_singleton {element : Template.Element}
    {context : Template.CheckContext} (found : (element.check context).1 = []) :
    (Template.checkElements context [element]).1 = [] := by
  simp only [Template.checkElements, found, List.append_nil]

/-- The clauses after a first one serve a branch with it. -/
theorem Serves.clause {before after elements : List Template.Element}
    {condition : Template.Expression} {others : List Template.Clause}
    {otherwise : Option Template.Block}
    (conditionServed : Serves before condition.check)
    (accepted : Accepted elements)
    (restServed : Serves after (checkRest others otherwise))
    (blockOrigin origin : Template.Origin) :
    Serves (before ++ after)
      (checkRest (.mk condition (.mk elements blockOrigin) origin :: others)
        otherwise) where
  accepted := conditionServed.accepted.append restServed.accepted
  clean context later known := by
    rw [Template.CheckContext.after_append] at known
    have inCondition : condition.check later = [] := by
      refine conditionServed.clean context later fun name member => ?_
      exact known (Template.CheckContext.after_keeps _ after member)
    have inRest := restServed.clean (context.after before)
      { later with assigned := (Template.checkElements later elements).2 }
      fun name member =>
        Template.checkElements_keeps later elements (known member)
    simp only [checkRest, List.append_eq_nil_iff] at inRest
    simp only [checkRest, Template.checkClauses, Template.Clause.check,
      Template.Block.check, inCondition, accepted later, inRest.1, inRest.2,
      List.append_nil]

theorem check_branch {clause : Template.Clause} {others : List Template.Clause}
    {otherwise : Option Template.Block} {context : Template.CheckContext}
    (readable : ∀ inside : Template.CheckContext,
      context.assigned ⊆ inside.assigned →
        checkRest (clause :: others) otherwise inside = [])
    (origin : Template.Origin) :
    ((Template.Element.branch clause others otherwise origin).check
      context).1 = [] := by
  have inside := readable (context.enter .ifDirective) fun _ member => member
  simp only [checkRest, Template.checkClauses] at inside
  simpa only [Template.Element.check] using inside

/-- A loop is accepted where its iterable is: the body knows the variable. -/
theorem check_loop {item : Template.Variable} {iterable : Template.Value}
    {opening elements : List Template.Element} {context : Template.CheckContext}
    (readable : ∀ inside : Template.CheckContext,
      context.assigned ⊆ inside.assigned → iterable.check inside = [])
    (valid : Template.isValidIdentifier item.name.text = true)
    (opens : ∀ inside : Template.CheckContext,
      item.name.text ∈ inside.assigned →
        (Template.checkElements inside opening).1 = [])
    (accepted : Accepted elements) (blockOrigin origin : Template.Origin) :
    ((Template.Element.loop item iterable (.mk (opening ++ elements) blockOrigin)
      origin).check context).1 = [] := by
  have inIterable := readable (context.enter .foreachDirective)
    fun _ member => member
  have inItem : (context.enter .foreachDirective).checkName item.name = [] :=
    Template.CheckContext.checkName_of_valid valid
  have inOpening := opens ((context.enter .foreachDirective).assign item.name)
    List.mem_cons_self
  simp only [Template.Element.check, Template.Block.check, inIterable, inItem,
    Template.checkElements_append, inOpening, accepted _, List.append_nil]

/-- A derivation of statements passes the check. -/
theorem Yields.passes {target : Target} {passage : Passage} {first next : Nat}
    {result : passage.Result} {effect : Effect}
    (yielded : Yields target passage first result next effect)
    (unreserved : Unreserved passage.names) :
    passage.Passes result effect.hoisted := by
  induction yielded with
  | assignment derived =>
      exact ⟨rfl, (derived.provides unreserved).serves.accepted⟩
  | standalone alone derived referred =>
      have served := (derived.provides unreserved).serves
      simp only [Task.check, ← check_of_reference? referred] at served
      refine ⟨rfl, served.followed fun context readable => ?_⟩
      exact check_standalone target _ readable
  | noResult => exact ⟨rfl, .nil⟩
  | result derived =>
      have served := (derived.provides unreserved).serves
      refine ⟨rfl, ?_⟩
      split
      · next none =>
          rw [List.isEmpty_iff.mp none] at served
          refine served.followed fun context readable => check_singleton ?_
          exact readable context fun _ member => member
      · rw [List.append_assoc]
        refine served.followed fun context readable => ?_
        change (Template.checkElements context [.emit _]).1 = []
        exact check_singleton (readable context fun _ member => member)
  | uninitialised absent => exact ⟨rfl, .nil⟩
  | initialised named valued place derived =>
      simp only [Passage.names, Declaration.allNames, valued, namesOfOption,
        unreserved_append] at unreserved
      obtain ⟨valid, rfl, -, rfl⟩ := place.name_inversion
      have served := (derived.provides unreserved.2).interpolated.serves
      refine ⟨rfl, served.followed fun context readable => ?_⟩
      refine check_singleton (check_assign_named _ ?_ readable _)
      exact Template.isValidIdentifier_bareName valid
  | noDeclarations => exact ⟨rfl, .nil⟩
  | moreDeclarations declaration others declarationPasses othersPass =>
      simp only [Passage.names, namesOfDeclarations, List.flatMap_cons,
        unreserved_append] at unreserved
      exact SelfContained.append (declarationPasses unreserved.1)
        (othersPass unreserved.2)
  | item derived =>
      obtain ⟨valid, rfl, -, rfl⟩ := derived.name_inversion
      exact ⟨rfl, Template.isValidIdentifier_bareName valid, fun _ _ => rfl⟩
  | @entry elements span key value first middle next keyName valueName _ _ named
      keyDerived valueDerived =>
      obtain ⟨keyValid, rfl, -, rfl⟩ := keyDerived.name_inversion
      obtain ⟨valueValid, rfl, -, rfl⟩ := valueDerived.name_inversion
      have entryValid := Template.isValidIdentifier_temporaryName first
      refine ⟨rfl, entryValid, fun context known => ?_⟩
      refine check_entryParts (temporaryVariable first (some span)) entryValid
        ?_ ?_ known key.span value.span
      · exact Template.isValidIdentifier_bareName keyValid
      · exact Template.isValidIdentifier_bareName valueValid
  | branch condition consequent alternative consequentPasses restPasses =>
      simp only [Passage.names, unreserved_append] at unreserved
      have served := (condition.provides unreserved.1.1).interpolated.serves
      obtain ⟨none, accepted⟩ := consequentPasses unreserved.1.2
      rw [Effect.append_hoisted, Effect.append_hoisted, none, List.append_nil]
      exact served.clause accepted (restPasses unreserved.2) _ _
  | noAlternative => exact ⟨.nil, fun _ _ _ => rfl⟩
  | chained parts partsPass => exact partsPass unreserved
  | otherwise notBranch statement statementPasses =>
      obtain ⟨none, accepted⟩ := statementPasses unreserved
      rw [none]
      exact ⟨.nil, fun _ later _ => accepted later⟩
  | block statements statementsPass => exact (statementsPass unreserved).spaced _
  | evaluation evaluated evaluatedPasses =>
      exact (evaluatedPasses unreserved).spaced _
  | branching parts partsPass =>
      refine ⟨rfl, ?_⟩
      rw [List.append_assoc]
      refine (accepted_blankLines _).append ?_
      refine (partsPass unreserved).followed fun context readable => ?_
      exact check_singleton (check_branch readable _)
  | looping pattern iterable body patternPasses bodyPasses =>
      simp only [Passage.names, Statement.names, LoopHeader.names,
        Declaration.allNames, unreserved_append] at unreserved
      obtain ⟨none, valid, opens⟩ := patternPasses unreserved.1.1.1
      have stands := bodyPasses unreserved.2
      have served := (iterable.provides unreserved.1.2).serves
      refine ⟨?_, ?_⟩
      · simp [none, stands.nothing]
      · rw [List.append_assoc]
        refine (accepted_blankLines _).append ?_
        refine served.followed fun context readable => check_singleton ?_
        exact check_loop readable valid opens stands.accepted _ _
  | returning returned returnedPasses => exact (returnedPasses unreserved).spaced _
  | declaring declared declaredPass => exact (declaredPass unreserved).spaced _
  | noStatements => exact ⟨rfl, .nil⟩
  | moreStatements statement others statementPasses othersPass =>
      simp only [Passage.names, namesOfStatements, unreserved_append]
        at unreserved
      exact SelfContained.append (statementPasses unreserved.1)
        (othersPass unreserved.2)

theorem accepted_assign_own {name : String} {value : Template.Expression}
    (own : name ∈ ownNames) (clean : ∀ context, value.check context = []) :
    Accepted [.assign (.named ⟨⟨name, none⟩, none⟩) value none] := by
  intro context
  refine check_singleton (check_assign_named ⟨name, none⟩ ?_ ?_ none)
  · exact (ordinary_of_mem_ownNames own).1
  · exact fun inside _ => clean inside

theorem accepted_prelude (state : State) : Accepted (prelude state) := by
  have line : Accepted [.newLine] := fun _ => rfl
  have escape : "esc" ∈ ownNames := by decide
  have stringClass : Catalogue.stringClass ∈ ownNames := by decide
  have property : "class" ∈ ownNames := by decide
  have escapes : Accepted escapePrelude :=
    (accepted_assign_own escape fun _ => rfl).append line
  have named : Accepted
      [.assign (.named ⟨⟨Catalogue.stringClass, none⟩, none⟩)
        (.ofValue (.string "" .double none)) none] :=
    accepted_assign_own stringClass fun _ => rfl
  have classes : Accepted stringClassPrelude := by
    refine named.append ((accepted_assign_own stringClass ?_).append line)
    intro context
    exact List.append_eq_nil_iff.mpr
      ⟨check_ownName stringClass none context, check_ownName property none context⟩
  refine Accepted.append ?_ ?_ <;> split
  · exact escapes
  · exact .nil
  · exact classes
  · exact .nil

/-- A template lowered without reports has no findings: its names are valid,
and its temporaries are set before they are read. -/
theorem lowered_template_passes_check {target : Target}
    {function : FunctionDeclaration} (unreserved : Unreserved function.names)
    (silent : (lowerFunction target function).2 = []) :
    ∃ file, (lowerFunction target function).1 = some file ∧
      file.check = [] := by
  obtain ⟨file, lowered, yielded⟩ := functionYields_of_reports_eq_nil silent
  refine ⟨file, lowered, ?_⟩
  cases yielded with
  | body complaint bodied statements =>
      simp only [FunctionDeclaration.names, bodied] at unreserved
      have stands : SelfContained _ _ := statements.passes unreserved
      exact ((accepted_prelude _).append stands.accepted) ⟨[], []⟩

/-- A loop over the entries of a sum has two temporaries: one for the entry, and
one that the sum is put into. -/
theorem lowered_template_passes_check_entries :
    let span : Span := ⟨0, 0⟩
    let named := fun name => Identifier.mk name span .variableName
    let pattern := BindingName.array
      [.bound (.identifier (named "k")), .bound (.identifier (named "$v"))] span
    let sum := Expression.binary .add (.identifier (named "a"))
      (.identifier (named "b")) span
    let function : FunctionDeclaration :=
      { name := none
        modifiers := [.exported]
        parameters := []
        body := some
          { statements :=
              [.loop (.declaration ⟨pattern, none, span⟩) sum
                (.result (some (.identifier (named "$v"))) ⟨span, 0⟩) ⟨span, 0⟩]
            span }
        isGenerator := false
        span }
    (Unreserved function.names ∧ (lowerFunction .appsync function).2 = []) ∧
      ∃ file, (lowerFunction .appsync function).1 = some file ∧
        file.check = [] := by
  intro span named pattern sum function
  have unreserved : Unreserved function.names := by
    decide
  have silent : (lowerFunction .appsync function).2 = [] := by
    decide +kernel
  exact ⟨⟨unreserved, silent⟩, lowered_template_passes_check unreserved silent⟩

end VelocityScript.Lowering
