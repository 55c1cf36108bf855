import VelocityScript.Proofs.Lowering.Transpilation
import VelocityScript.Proofs.Script.Precedence
import VelocityScript.Proofs.Template.Grouping

/-!
# Lowered operators need no parentheses

The operators of scripts that templates have keep their order of precedence.
So an operator lowered from a parsed script has operands that need no
parentheses, and an assignment that combines its target with a right side that
binds more tightly gives one that has such operands too.
-/

namespace VelocityScript.Lowering

open Script

/-! ## Levels and precedence -/

/-- The level of a lowered operator, by its precedence: templates have no
operators of the levels in between. -/
theorem level_eq_of_lowered {operator : BinaryOperator}
    {lowered : Template.BinaryOperator}
    (kept : lowerBinaryOperator? operator = some lowered) :
    operator.level = lowered.precedence +
      (if 3 ≤ lowered.precedence then 3 else 0) +
        if 5 ≤ lowered.precedence then 1 else 0 := by
  cases operator <;> cases kept <;> rfl

theorem rightLevel_eq_of_lowered {operator : BinaryOperator}
    {lowered : Template.BinaryOperator}
    (kept : lowerBinaryOperator? operator = some lowered) :
    operator.rightLevel = operator.level + 1 := by
  refine if_neg ?_
  rintro rfl
  cases kept

/-- The operators of a template are ordered as those they are lowered from. -/
theorem level_le_iff_precedence_le {operator other : BinaryOperator}
    {lowered otherLowered : Template.BinaryOperator}
    (kept : lowerBinaryOperator? operator = some lowered)
    (otherKept : lowerBinaryOperator? other = some otherLowered) :
    operator.level ≤ other.level ↔
      lowered.precedence ≤ otherLowered.precedence := by
  rw [level_eq_of_lowered kept, level_eq_of_lowered otherKept]
  split <;> split <;> split <;> split <;> omega

theorem precedence_lt_of_rightLevel_le {operator other : BinaryOperator}
    {lowered otherLowered : Template.BinaryOperator}
    (kept : lowerBinaryOperator? operator = some lowered)
    (otherKept : lowerBinaryOperator? other = some otherLowered)
    (ordered : operator.rightLevel ≤ other.level) :
    lowered.precedence < otherLowered.precedence := by
  rw [rightLevel_eq_of_lowered kept, Nat.succ_le_iff] at ordered
  refine Nat.lt_of_not_le fun reversed => Nat.not_le.mpr ordered ?_
  exact (level_le_iff_precedence_le otherKept kept).mpr reversed

/-- Only an operator is lowered to an operator. -/
theorem Derives.binary_inversion {target : Target} {source : Expression}
    {first next : Nat} {left right : Template.Expression}
    {lowered : Template.BinaryOperator} {origin : Template.Origin}
    {effect : Effect}
    (derived : Derives target (.expression source) first
      (.binary left lowered right origin) next effect) :
    ∃ operator leftSource rightSource span,
      source = .binary operator leftSource rightSource span ∧
        lowerBinaryOperator? operator = some lowered := by
  cases derived with
  | identifier named => cases named
  | binary kept leftDerived rightDerived => exact ⟨_, _, _, _, rfl, kept⟩
  | rangeCall called range => cases range
  | call called other helper => cases helper

/-- What binds at a level of the script binds at the precedence of the template,
if operators of that level have it. -/
theorem Derives.bindsFrom {target : Target} {source : Expression}
    {first next : Nat} {result : Template.Expression} {effect : Effect}
    (derived : Derives target (.expression source) first result next effect)
    {level precedence : Nat} (binds : source.bindsFrom level = true)
    (ordered : ∀ operator lowered,
      lowerBinaryOperator? operator = some lowered → level ≤ operator.level →
        precedence ≤ lowered.precedence) :
    result.interpolated.bindsFrom precedence = true := by
  rw [Template.Expression.bindsFrom_interpolated]
  cases result with
  | binary left lowered right origin =>
      obtain ⟨operator, _, _, _, rfl, kept⟩ := derived.binary_inversion
      exact decide_eq_true
        (ordered operator lowered kept (of_decide_eq_true binds))
  | _ => rfl

/-! ## Derivations of expressions -/

/-- The operands of an operator, and the right side of an assignment, bind
tightly enough to be lowered without parentheses. -/
def keepsGrouping (source : Expression) : Bool :=
  source.isGrouped && source.combinesTightly

/-- The expressions that a step meets. -/
def Task.subexpressions : Task → List Expression
  | .name _ _ | .identifier _ | .number _ _ | .propertyName _ => []
  | .expression source | .value source | .path source | .bound _ source =>
      source.subexpressions
  | .values sources => subexpressionsOfAll sources
  | .part source => source.subexpressions
  | .parts sources => subexpressionsOfParts sources
  | .member source => source.subexpressions
  | .members sources => subexpressionsOfMembers sources
  | .range _ arguments | .helperCall _ _ _ arguments =>
      subexpressionsOfAll arguments

/-- The expressions in the result of a step.  Values have none. -/
def Task.expressions : (task : Task) → task.Result → List Template.Expression
  | .identifier _, result | .expression _, result | .range _ _, result
  | .helperCall _ _ _ _, result => result.subexpressions
  | .name _ _, _ | .number _ _, _ | .propertyName _, _ | .value _, _
  | .path _, _ | .bound _ _, _ | .values _, _ | .part _, _ | .parts _, _
  | .member _, _ | .members _, _ => []

/-- The directives of a step and its result group their operators. -/
structure Groups (directives : List Template.Element)
    (expressions : List Template.Expression) : Prop where
  directives : Template.Grouped (Template.expressionsOf directives)
  result : Template.Grouped expressions

namespace Groups

variable {before after directives : List Template.Element}
variable {left right : List Template.Expression}

theorem none : Groups [] [] :=
  ⟨Template.grouped_nil, Template.grouped_nil⟩

theorem ofPath (path : Template.Path) :
    Groups [] (Template.Expression.ofPath path).subexpressions :=
  ⟨Template.grouped_nil, List.forall_mem_singleton.mpr rfl⟩

theorem ofValue (groups : Groups directives left) (value : Template.Value) :
    Groups directives (Template.Expression.ofValue value).subexpressions :=
  ⟨groups.directives, List.forall_mem_singleton.mpr rfl⟩

theorem append (first : Groups before left) (second : Groups after right) :
    Groups (before ++ after) (left ++ right) := by
  refine ⟨?_, Template.grouped_append.mpr ⟨first.result, second.result⟩⟩
  rw [Template.expressionsOf_append]
  exact Template.grouped_append.mpr ⟨first.directives, second.directives⟩

/-- The result is dropped. -/
theorem collected (groups : Groups directives left) : Groups directives [] :=
  ⟨groups.directives, Template.grouped_nil⟩

/-- One more directive takes the result. -/
theorem assign {expression : Template.Expression}
    (groups : Groups directives expression.subexpressions)
    (place : Template.Place) (origin : Template.Origin) :
    Groups (directives ++ [.assign place expression origin]) [] := by
  refine ⟨?_, Template.grouped_nil⟩
  rw [Template.expressionsOf_append]
  refine Template.grouped_append.mpr ⟨groups.directives, ?_⟩
  exact Template.grouped_append.mpr ⟨groups.result, Template.grouped_nil⟩

theorem interpolated {expression : Template.Expression}
    (groups : Groups directives expression.subexpressions) :
    Groups directives expression.interpolated.subexpressions :=
  ⟨groups.directives, Template.grouped_interpolated.mpr groups.result⟩

end Groups

/-- The operator that an assignment combines with. -/
theorem exists_operator_of_combined {operator : AssignmentOperator}
    {lowered : Template.BinaryOperator}
    (combined : combined? operator = some (some lowered)) :
    ∃ binaryOperator, lowerBinaryOperator? binaryOperator = some lowered ∧
      operator.valueLevel = binaryOperator.rightLevel := by
  cases operator <;> cases combined
  · exact ⟨.add, rfl, rfl⟩
  · exact ⟨.subtract, rfl, rfl⟩
  · exact ⟨.multiply, rfl, rfl⟩
  · exact ⟨.divide, rfl, rfl⟩
  · exact ⟨.remainder, rfl, rfl⟩

/-- The value of an assignment is grouped when its right side is, and binds
tightly enough. -/
theorem Groups.assignedValue {directives : List Template.Element}
    {right : Template.Expression}
    (groups : Groups directives right.subexpressions)
    {combined : Option Template.BinaryOperator}
    (binds : ∀ lowered, combined = some lowered →
      right.bindsFrom (lowered.precedence + 1) = true)
    (place : Template.Place) (span : Span) :
    Groups directives
      (assignedValue combined place right span).subexpressions := by
  refine ⟨groups.directives, ?_⟩
  cases combined with
  | none => exact groups.result
  | some lowered =>
      refine Template.grouped_cons.mpr ⟨?_, Template.grouped_cons.mpr
        ⟨rfl, groups.result⟩⟩
      exact (Bool.and_eq_true _ _).mpr ⟨rfl, binds lowered rfl⟩

theorem every_keepsGrouping_cons {source : Expression}
    {others : List Expression} :
    Every keepsGrouping (source :: others) ↔
      (source.isGrouped = true ∧ source.combinesTightly = true) ∧
        Every keepsGrouping others := by
  rw [every_cons, keepsGrouping, Bool.and_eq_true]

/-- A derivation groups its operators where the script does. -/
theorem Derives.groups {target : Target} {task : Task} {first next : Nat}
    {result : task.Result} {effect : Effect}
    (derived : Derives target task first result next effect)
    (kept : Every keepsGrouping task.subexpressions) :
    Groups effect.hoisted (task.expressions result) := by
  induction derived with
  | name valid => exact .none
  | argument bound named grouped =>
      exact ⟨(grouped kept).directives, List.forall_mem_singleton.mpr rfl⟩
  | variableName free named grouped =>
      rw [Effect.append_hoisted, naming_hoisted]
      exact ⟨(grouped kept).directives, List.forall_mem_singleton.mpr rfl⟩
  | number parsed => exact .none
  | identifierKey => exact .none
  | stringKey => exact .none
  | numberKey parsed grouped => exact grouped kept
  | identifier named grouped => exact grouped (every_nil _)
  | receiver => exact .ofPath _
  | numeral parsed grouped => exact (grouped (every_nil _)).ofValue _
  | string => exact Groups.none.ofValue _
  | boolean => exact Groups.none.ofValue _
  | template parts grouped =>
      exact (grouped (every_keepsGrouping_cons.mp kept).2).ofValue _
  | array values grouped =>
      exact (grouped (every_keepsGrouping_cons.mp kept).2).ofValue _
  | object members grouped =>
      exact (grouped (every_keepsGrouping_cons.mp kept).2).ofValue _
  | parenthesized inner grouped =>
      have inside := (grouped (every_keepsGrouping_cons.mp kept).2).interpolated
      exact ⟨inside.directives, Template.grouped_cons.mpr ⟨rfl, inside.result⟩⟩
  | unary lowered operand grouped =>
      obtain ⟨⟨binds, -⟩, keptOperand⟩ := every_keepsGrouping_cons.mp kept
      have inside := (grouped keptOperand).interpolated
      refine ⟨inside.directives, Template.grouped_cons.mpr ⟨?_, inside.result⟩⟩
      refine operand.bindsFrom binds fun operator _ _ high => ?_
      exact absurd (level_lt_prefixLevel operator) (Nat.not_lt.mpr high)
  | binary lowered left right leftGrouped rightGrouped =>
      obtain ⟨⟨binds, -⟩, keptOperands⟩ := every_keepsGrouping_cons.mp kept
      obtain ⟨keptLeft, keptRight⟩ := every_append.mp keptOperands
      obtain ⟨leftBinds, rightBinds⟩ := (Bool.and_eq_true _ _).mp binds
      have both := (leftGrouped keptLeft).interpolated.append
        (rightGrouped keptRight).interpolated
      refine ⟨both.directives, Template.grouped_cons.mpr ⟨?_, both.result⟩⟩
      refine (Bool.and_eq_true _ _).mpr ⟨?_, ?_⟩
      · exact left.bindsFrom leftBinds fun _ _ inner =>
          (level_le_iff_precedence_le lowered inner).mp
      · exact right.bindsFrom rightBinds fun _ _ =>
          precedence_lt_of_rightLevel_le lowered
  | assignment combined left right placed leftGrouped rightGrouped =>
      obtain ⟨⟨-, tight⟩, keptSides⟩ := every_keepsGrouping_cons.mp kept
      obtain ⟨keptLeft, keptRight⟩ := every_append.mp keptSides
      have both := (leftGrouped keptLeft).collected.append
        (rightGrouped keptRight).interpolated
      refine ((both.assignedValue ?_ _ _).assign _ _).ofValue _
      rintro operator rfl
      obtain ⟨binaryOperator, lowered, level⟩ :=
        exists_operator_of_combined combined
      rw [Expression.combinesTightly, level] at tight
      exact right.bindsFrom tight fun _ _ =>
        precedence_lt_of_rightLevel_le lowered
  | access base name baseGrouped nameGrouped =>
      have both := (baseGrouped (every_keepsGrouping_cons.mp kept).2).append
        (nameGrouped (every_nil _))
      exact ⟨both.directives, List.forall_mem_singleton.mpr rfl⟩
  | index base value baseGrouped valueGrouped =>
      obtain ⟨keptBase, keptValue⟩ :=
        every_append.mp (every_keepsGrouping_cons.mp kept).2
      have both := (baseGrouped keptBase).append (valueGrouped keptValue)
      exact ⟨both.directives, List.forall_mem_singleton.mpr rfl⟩
  | rangeCall called range grouped =>
      exact grouped (every_append.mp (every_keepsGrouping_cons.mp kept).2).2
  | call called other helper grouped =>
      exact grouped (every_append.mp (every_keepsGrouping_cons.mp kept).2).2
  | methodCall base name values baseGrouped nameGrouped valuesGrouped =>
      obtain ⟨keptCallee, keptArguments⟩ :=
        every_append.mp (every_keepsGrouping_cons.mp kept).2
      have all := ((baseGrouped (every_keepsGrouping_cons.mp keptCallee).2).append
        (nameGrouped (every_nil _))).append (valuesGrouped keptArguments)
      exact ⟨all.directives, List.forall_mem_singleton.mpr rfl⟩
  | kept inner found grouped => exact (grouped kept).collected
  | hoisted inner found grouped => exact (grouped kept).assign _ _
  | keptPath inner found grouped => exact (grouped kept).collected
  | hoistedPath inner found grouped => exact (grouped kept).assign _ _
  | numberBound value grouped => exact grouped kept
  | referenceBound value grouped => exact grouped kept
  | noValues => exact .none
  | moreValues value values valueGrouped valuesGrouped =>
      obtain ⟨keptValue, keptValues⟩ := every_append.mp kept
      exact (valueGrouped keptValue).append (valuesGrouped keptValues)
  | part value grouped =>
      rw [Effect.append_hoisted, escaping_hoisted, List.append_nil]
      exact grouped kept
  | noParts => exact .none
  | moreParts part parts partGrouped partsGrouped =>
      obtain ⟨keptPart, keptParts⟩ := every_append.mp kept
      exact (partGrouped keptPart).append (partsGrouped keptParts)
  | shorthand named grouped => exact (grouped kept).collected
  | property key value keyGrouped valueGrouped =>
      exact (keyGrouped (every_nil _)).append (valueGrouped kept)
  | noMembers => exact .none
  | moreMembers member members memberGrouped membersGrouped =>
      obtain ⟨keptMember, keptMembers⟩ := every_append.mp kept
      exact (memberGrouped keptMember).append (membersGrouped keptMembers)
  | range lower upper lowerGrouped upperGrouped =>
      obtain ⟨keptLower, keptOthers⟩ := every_append.mp kept
      exact ((lowerGrouped keptLower).append
        (upperGrouped (every_append.mp keptOthers).1)).ofValue _
  | helperCall base name values baseGrouped nameGrouped valuesGrouped =>
      obtain ⟨keptBase, keptValues⟩ := every_append.mp kept
      have all := ((baseGrouped keptBase).append
        (nameGrouped (every_nil _))).append (valuesGrouped keptValues)
      exact ⟨all.directives, List.forall_mem_singleton.mpr rfl⟩

/-! ## Derivations of statements -/

/-- The expressions that a step meets. -/
def Passage.subexpressions : Passage → List Expression
  | .evaluation source => source.subexpressions
  | .result returned => subexpressionsOfOption returned
  | .declaration declared => subexpressionsOfOption declared.initial
  | .declarations declared => subexpressionsOfDeclarations declared
  | .loopPattern _ => []
  | .branch condition consequent rest =>
      condition.subexpressions ++ consequent.subexpressions ++
        subexpressionsOfAlternative rest
  | .alternative source => subexpressionsOfAlternative source
  | .statement source => source.subexpressions
  | .statements sources => subexpressionsOfStatements sources

/-- The expressions in the result of a step. -/
def Passage.expressions :
    (passage : Passage) → passage.Result → List Template.Expression
  | .evaluation _, elements | .result _, elements | .declaration _, elements
  | .declarations _, elements | .statement _, elements
  | .statements _, elements => Template.expressionsOf elements
  | .loopPattern _, (_, opening) => Template.expressionsOf opening
  | .branch _ _ _, parts =>
      parts.first.expressions ++ Template.expressionsOfClauses parts.others ++
        Template.expressionsOfOtherwise parts.otherwise
  | .alternative _, rest =>
      Template.expressionsOfClauses rest.others ++
        Template.expressionsOfOtherwise rest.otherwise

/-- Elements without expressions of their own follow the directives. -/
theorem Groups.followed {directives : List Template.Element}
    {expressions : List Template.Expression}
    (groups : Groups directives expressions) {elements : List Template.Element}
    (without : Template.expressionsOf elements = []) :
    Template.Grouped (Template.expressionsOf (directives ++ elements)) := by
  rw [Template.expressionsOf_append, without, List.append_nil]
  exact groups.directives

theorem expressionsOf_standalone (target : Target) (source : Expression)
    (reference : Template.Reference) :
    Template.Grouped
      (Template.expressionsOf (standalone target source reference)) := by
  unfold standalone
  split
  · cases target with
    | appsync => exact Template.grouped_nil
    | apigateway => exact List.forall_mem_singleton.mpr rfl
  · exact Template.grouped_nil

theorem expressionsOf_blankLines (placement : Placement) :
    Template.expressionsOf (blankLines placement) = [] := by
  unfold blankLines
  induction placement.leadingNewlines - 1 with
  | zero => rfl
  | succ count inductionHypothesis => exact inductionHypothesis

theorem Groups.spaced {directives elements : List Template.Element}
    (groups : Groups directives (Template.expressionsOf elements))
    (placement : Placement) :
    Groups directives
      (Template.expressionsOf (blankLines placement ++ elements)) := by
  rw [Template.expressionsOf_append, expressionsOf_blankLines, List.nil_append]
  exact groups

/-- A derivation of statements groups its operators where the script does. -/
theorem Yields.groups {target : Target} {passage : Passage} {first next : Nat}
    {result : passage.Result} {effect : Effect}
    (yielded : Yields target passage first result next effect)
    (kept : Every keepsGrouping passage.subexpressions) :
    Groups effect.hoisted (passage.expressions result) := by
  induction yielded with
  | assignment derived =>
      exact ⟨Template.grouped_nil, (derived.groups kept).directives⟩
  | standalone alone derived referred =>
      refine ⟨Template.grouped_nil, ?_⟩
      simp only [Passage.expressions, Template.expressionsOf_append]
      exact Template.grouped_append.mpr
        ⟨(derived.groups kept).directives, expressionsOf_standalone _ _ _⟩
  | noResult => exact .none
  | result derived =>
      refine ⟨Template.grouped_nil, ?_⟩
      have grouped := derived.groups kept
      simp only [Passage.expressions, Template.expressionsOf_append]
      refine Template.grouped_append.mpr ⟨?_, Template.grouped_nil⟩
      split
      · exact Template.grouped_nil
      · exact grouped.followed rfl
  | uninitialised absent => exact .none
  | initialised named valued place derived =>
      simp only [Passage.subexpressions, valued, subexpressionsOfOption] at kept
      obtain ⟨-, -, -, rfl⟩ := place.name_inversion
      have grouped := (derived.groups kept).interpolated
      exact ⟨Template.grouped_nil, (grouped.assign _ _).directives⟩
  | noDeclarations => exact .none
  | moreDeclarations declaration others declarationGrouped othersGrouped =>
      obtain ⟨keptFirst, keptOthers⟩ := every_append.mp kept
      simp only [Passage.expressions, Template.expressionsOf_append]
      exact (declarationGrouped keptFirst).append (othersGrouped keptOthers)
  | item derived =>
      exact ⟨(derived.groups kept).directives, Template.grouped_nil⟩
  | entry named keyDerived valueDerived =>
      have both := (keyDerived.groups kept).append (valueDerived.groups kept)
      refine ⟨both.directives, ?_⟩
      exact List.forall_mem_cons.mpr ⟨rfl, List.forall_mem_singleton.mpr rfl⟩
  | branch condition consequent alternative consequentGrouped restGrouped =>
      obtain ⟨keptFirst, keptRest⟩ := every_append.mp kept
      obtain ⟨keptCondition, keptConsequent⟩ := every_append.mp keptFirst
      have all := (((condition.groups keptCondition).interpolated).append
        (consequentGrouped keptConsequent)).append (restGrouped keptRest)
      simp only [Passage.expressions, Template.Clause.expressions,
        Template.Block.expressions, List.append_assoc, Effect.append_hoisted]
        at all ⊢
      exact all
  | noAlternative => exact .none
  | chained parts partsGrouped =>
      have grouped := partsGrouped kept
      simp only [Passage.expressions, Template.expressionsOfClauses] at grouped ⊢
      exact grouped
  | otherwise notBranch statement statementGrouped => exact statementGrouped kept
  | block statements statementsGrouped =>
      exact (statementsGrouped kept).spaced _
  | evaluation evaluated evaluatedGrouped =>
      exact (evaluatedGrouped kept).spaced _
  | branching parts partsGrouped =>
      have grouped := partsGrouped kept
      refine ⟨Template.grouped_nil, ?_⟩
      simp only [Passage.expressions, Template.expressionsOf_append,
        expressionsOf_blankLines, List.nil_append]
      refine Template.grouped_append.mpr ⟨grouped.directives, ?_⟩
      exact Template.grouped_append.mpr ⟨grouped.result, Template.grouped_nil⟩
  | looping pattern iterable body patternGrouped bodyGrouped =>
      obtain ⟨keptIterable, keptBody⟩ := every_append.mp kept
      have opened := patternGrouped (every_nil _)
      have iterated := iterable.groups keptIterable
      have inside := bodyGrouped keptBody
      refine ⟨?_, ?_⟩
      · exact ((opened.append .none).append inside).directives
      · simp only [Passage.expressions, Template.expressionsOf_append,
          expressionsOf_blankLines, List.nil_append]
        refine Template.grouped_append.mpr ⟨iterated.directives, ?_⟩
        refine Template.grouped_append.mpr ⟨?_, Template.grouped_nil⟩
        simp only [Template.Element.expressions, Template.Block.expressions,
          Template.expressionsOf_append]
        exact (opened.append inside).result
  | returning returned returnedGrouped =>
      exact (returnedGrouped kept).spaced _
  | declaring declared declaredGrouped =>
      exact (declaredGrouped kept).spaced _
  | noStatements => exact .none
  | moreStatements statement others statementGrouped othersGrouped =>
      obtain ⟨keptFirst, keptOthers⟩ := every_append.mp kept
      simp only [Passage.expressions, Template.expressionsOf_append]
      exact (statementGrouped keptFirst).append (othersGrouped keptOthers)

theorem grouped_prelude (state : State) :
    Template.Grouped (Template.expressionsOf (prelude state)) := by
  unfold prelude
  rw [Template.expressionsOf_append]
  refine Template.grouped_append.mpr ⟨?_, ?_⟩ <;> split <;> decide

theorem FunctionYields.isGrouped {target : Target}
    {function : FunctionDeclaration} {file : Template.File}
    (yielded : FunctionYields target function file)
    (kept : Every keepsGrouping function.subexpressions) : file.IsGrouped := by
  cases yielded with
  | body complaint bodied statements =>
      simp only [FunctionDeclaration.subexpressions, bodied] at kept
      unfold Template.File.IsGrouped
      simp only [Template.Block.expressions, Template.expressionsOf_append]
      exact Template.grouped_append.mpr
        ⟨grouped_prelude _, (statements.groups kept).result⟩

/-- Whether a text parses, and its combining assignments have right sides that
bind more tightly than the operators they combine with. -/
def combinesTightly (source : SourceText) : Bool :=
  match parse source.text with
  | .ok script => script.subexpressions.all Expression.combinesTightly
  | .error _ => false

/-- In the templates of a text whose combining assignments have right sides that
bind more tightly, no operator needs parentheses: the text of the templates
groups as their trees do. -/
theorem operators_need_no_parentheses {target : Target} {source : SourceText}
    (tight : combinesTightly source = true)
    (clean : (transpile target source).isClean = true) :
    ∀ file ∈ (transpile target source).files, file.IsGrouped := by
  intro file produced
  obtain ⟨script, function, parsed, member, yielded⟩ :=
    functionYields_of_mem_files clean produced
  simp only [combinesTightly, parsed, List.all_eq_true] at tight
  have grouped : Every Expression.isGrouped script.resolve.subexpressions :=
    (every_resolve_module isGrouped_ignoresScope script).mpr
      (parse_grouped parsed)
  have combined : Every Expression.combinesTightly
      script.resolve.subexpressions :=
    (every_resolve_module combinesTightly_ignoresScope script).mpr tight
  refine yielded.isGrouped fun source inFunction => ?_
  have inModule : source ∈ script.resolve.subexpressions :=
    List.mem_flatMap.mpr ⟨.function function, member, inFunction⟩
  exact (Bool.and_eq_true _ _).mpr
    ⟨grouped source inModule, combined source inModule⟩

/-- Parentheses stay where a difference is subtracted. -/
theorem operators_need_no_parentheses_difference :
    let source : SourceText :=
      ⟨"difference.ts",
        "export function f(a) \x7b let b = a * -3; b -= (3 - 1); return b; \x7d"⟩
    (combinesTightly source = true ∧
      (transpile .appsync source).isClean = true) ∧
        ∃ file ∈ (transpile .appsync source).files, file.IsGrouped := by
  intro source
  have tight : combinesTightly source = true := by
    decide +kernel
  have clean : (transpile .appsync source).isClean = true := by
    decide +kernel
  have present : (transpile .appsync source).files.isEmpty = false := by
    decide +kernel
  obtain ⟨file, produced⟩ :=
    List.exists_mem_of_ne_nil _ (List.isEmpty_eq_false_iff.mp present)
  exact ⟨⟨tight, clean⟩, file, produced,
    operators_need_no_parentheses tight clean file produced⟩

/-- An assignment that subtracts a difference is lowered without the parentheses
that the difference needs. -/
theorem combining_assignment_loses_grouping :
    let source : SourceText :=
      ⟨"difference.ts",
        "export function f() \x7b let a = 9; a -= 3 - 1; return a; \x7d"⟩
    (transpile .apigateway source).isClean = true ∧
      ∃ file ∈ (transpile .apigateway source).files, ¬ file.IsGrouped := by
  decide +kernel

end VelocityScript.Lowering
