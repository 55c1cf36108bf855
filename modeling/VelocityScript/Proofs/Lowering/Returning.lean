import VelocityScript.Proofs.Lowering.Outline
import VelocityScript.Proofs.Lowering.Transpilation

/-!
# What happens after a return

A template has nothing that ends it: the value of a return statement is printed
where it stands, and the template goes on behind it.  So the value is the last
thing that a path does exactly where the script itself puts nothing behind the
return statement, and this can be read off the script.
-/

namespace VelocityScript.Lowering

open Script
open Template (Flow)

variable {target : Target} {first next : Nat} {effect : Effect}

/-! ## Steps that return no value -/

theorem areIdle_standalone (target : Target) (source : Expression)
    (reference : Template.Reference) :
    Template.areIdle (standalone target source reference) = false := by
  unfold standalone
  split
  · cases target <;> rfl
  · rfl

/-- An expression that stands as a statement always leaves something. -/
theorem Yields.areIdle_evaluation {source : Expression}
    {elements : List Template.Element}
    (yielded : Yields target (.evaluation source) first elements next effect) :
    Template.areIdle elements = false := by
  cases yielded with
  | assignment derived => exact derived.areIdle_hoisted
  | standalone alone derived converted =>
      rw [Template.areIdle_append, areIdle_standalone, Bool.and_false]

theorem Yields.areIdle_declaration {declared : Declaration}
    {elements : List Template.Element}
    (yielded : Yields target (.declaration declared) first elements next
      effect) :
    Template.areIdle elements = declared.initial.isNone := by
  cases yielded with
  | uninitialised absent =>
      rw [absent]
      rfl
  | initialised named valued place derived =>
      rw [valued, Template.areIdle_append]
      exact Bool.and_false _

theorem Yields.areIdle_declarations {declared : List Declaration}
    {elements : List Template.Element}
    (yielded : Yields target (.declarations declared) first elements next
      effect) :
    Template.areIdle elements = declared.all (·.initial.isNone) := by
  induction declared generalizing first elements effect with
  | nil =>
      cases yielded
      rfl
  | cons declaration others inductionHypothesis =>
      cases yielded with
      | moreDeclarations declaration others =>
          rw [Template.areIdle_append, declaration.areIdle_declaration,
            inductionHypothesis others, List.all_cons]

theorem Yields.areIdle_loopPattern {declared : Declaration}
    {item : Template.Variable} {opening : List Template.Element}
    (yielded : Yields target (.loopPattern declared.name) first (item, opening)
      next effect) :
    Template.areIdle opening = bindsElements (.declaration declared) := by
  obtain ⟨name, initial, span⟩ := declared
  cases yielded with
  | item derived => rfl
  | entry named keyDerived valueDerived => rfl

/-! ## Outlines of derivations -/

/-- A statement that returns no value is outlined as it is. -/
theorem Yields.outlined_plain {source : Statement}
    {elements : List Template.Element}
    (yielded : Yields target (.statement source) first elements next effect)
    (outlined : outlineStatement target source =
      (do return plain (← lowerStatement target source))) :
    Ends first (some (plain elements)) next effect
      (Passage.outline target (.statement source)) := by
  refine ends_some_iff.mpr ?_
  rw [outlined]
  exact (ends_some_iff.mp yielded.ends).thenPure rfl

theorem reflects_result (value : Template.Value) :
    Reflects [] [.simple (.result value)] true false true :=
  ⟨rfl, rfl, rfl⟩

/-- The outline of a derivation runs like the derivation, is the control
structure of the result apart from the marks, and reflects the properties of
the script. -/
theorem Yields.outlined {passage : Passage} {result : passage.Result}
    (yielded : Yields target passage first result next effect)
    (marks : passage.marksResults = true) :
    ∃ flows, Ends first (some flows) next effect (passage.outline target) ∧
      Flow.mapAll Marked.element flows = passage.flows result ∧
      Reflects effect.hoisted flows passage.returnsValue passage.isQuiet
        passage.returnsLast := by
  induction yielded with
  | assignment _ => cases marks
  | standalone _ _ _ => cases marks
  | uninitialised _ => cases marks
  | initialised _ _ _ _ => cases marks
  | noDeclarations => cases marks
  | moreDeclarations _ _ _ _ => cases marks
  | item _ => cases marks
  | entry _ _ _ => cases marks
  | noResult =>
      exact ⟨[], ends_some_iff.mpr (ends_pure _ _), rfl, reflects_nil⟩
  | @result source _ _ value effect derived =>
      let before : List Template.Element :=
        if effect.hoisted.isEmpty then [] else effect.hoisted ++ [.newLine]
      refine ⟨plain before ++ [.simple (.result value)], ?_, ?_, ?_⟩
      · exact ends_some_iff.mpr (derived.ends.collected.thenPure rfl)
      · rw [Flow.mapAll_append, mapAll_element_plain, Passage.flows,
          Template.flowsOf_append]
        rfl
      · have reflected := (reflects_result value).after before
        rw [Bool.and_false] at reflected
        exact reflected
  | @branch _ _ _ _ _ _ _ _ _ _ before _ _ derived consequent _
      consequentOutlined alternativeOutlined =>
      obtain ⟨taken, takenEnds, takenErased, takenReflects⟩ :=
        consequentOutlined rfl
      obtain ⟨others, othersEnd, othersErased, othersReflect⟩ :=
        alternativeOutlined rfl
      refine ⟨[.either taken others], ?_, ?_, ?_⟩
      · rw [Effect.append_assoc]
        exact derived.ends.bind ((ends_some_iff.mp takenEnds).bind
          (othersEnd.thenPure rfl))
      · rw [Flow.mapAll, Flow.map, takenErased, othersErased]
        rfl
      · rw [consequent.hoisted_eq_nil rfl] at takenReflects
        rw [Effect.append_hoisted, Effect.append_hoisted,
          consequent.hoisted_eq_nil rfl, List.append_nil]
        have reflected :=
          takenReflects.either before.hoisted othersReflect
        rw [derived.areIdle_hoisted] at reflected
        exact reflected
  | noAlternative => exact ⟨[], ends_pure _ _, rfl, reflects_nil⟩
  | chained _ branchOutlined => exact branchOutlined rfl
  | otherwise notBranch _ sourceOutlined =>
      obtain ⟨flows, ended, erased, reflected⟩ := sourceOutlined rfl
      refine ⟨flows, ?_, erased, reflected⟩
      rw [Passage.outline, outlineAlternative_of_not_branch target notBranch]
      exact ended
  | @block _ placement _ _ _ _ statements statementsOutlined =>
      obtain ⟨flows, ended, erased, reflected⟩ := statementsOutlined rfl
      refine ⟨plain (blankLines placement) ++ flows, ?_, ?_, ?_⟩
      · exact ends_some_iff.mpr ((ends_some_iff.mp ended).thenPure rfl)
      · rw [Flow.mapAll_append, mapAll_element_plain, erased, Passage.flows,
          Passage.flows, Template.flowsOf_append]
      · rw [statements.hoisted_eq_nil rfl] at reflected ⊢
        exact reflected.afterBlankLines placement
  | @evaluation _ placement _ _ elements _ evaluated _ =>
      refine ⟨_, (Yields.evaluation evaluated).outlined_plain rfl,
        mapAll_element_plain _, ?_⟩
      rw [evaluated.hoisted_eq_nil rfl]
      have reflected := reflects_plain (blankLines placement ++ elements)
      rw [Template.areIdle_append, evaluated.areIdle_evaluation,
        Bool.and_false] at reflected
      exact reflected
  | @branching _ _ _ placement _ _ _ effect branched branchOutlined =>
      obtain ⟨flows, ended, erased, reflected⟩ := branchOutlined rfl
      refine ⟨plain (blankLines placement) ++ plain effect.hoisted ++ flows,
        ?_, ?_, ?_⟩
      · exact ends_some_iff.mpr (ended.collected.thenPure rfl)
      · rw [Flow.mapAll_append, Flow.mapAll_append, mapAll_element_plain,
          mapAll_element_plain, erased, Passage.flows, Passage.flows,
          Template.flowsOf_append, Template.flowsOf_append]
        rfl
      · rw [List.append_assoc]
        exact reflected.placed.afterBlankLines placement
  | @looping declared iterable body placement _ _ _ _ item opening elements
      value before between after pattern derived bodied _ bodyOutlined =>
      obtain ⟨round, ended, erased, reflected⟩ := bodyOutlined rfl
      refine ⟨plain (blankLines placement) ++ plain between.hoisted ++
        [.repeated (plain opening ++ round)], ?_, ?_, ?_⟩
      · rw [Effect.append_assoc]
        exact ends_some_iff.mpr (pattern.ends.bind (derived.ends.collected.bind
          ((ends_some_iff.mp ended).thenPure rfl)))
      · simp only [Flow.mapAll_append, mapAll_element_plain, Flow.mapAll,
          Flow.map, erased, Passage.flows, Template.flowsOf_append,
          Template.flowsOf, Template.Element.flow, Template.Block.flows]
      · rw [Effect.append_hoisted, Effect.append_hoisted,
          pattern.hoisted_eq_nil rfl, bodied.hoisted_eq_nil rfl]
        rw [bodied.hoisted_eq_nil rfl] at reflected
        have repeated := ((reflected.after opening).repeated).after
          between.hoisted
        rw [pattern.areIdle_loopPattern, derived.areIdle_hoisted,
          ← Bool.and_assoc, Bool.and_comm (Task.isDirect _)] at repeated
        rw [List.append_assoc (plain _)]
        exact repeated.afterBlankLines placement
  | @returning _ placement _ _ _ _ returned returnedOutlined =>
      obtain ⟨flows, ended, erased, reflected⟩ := returnedOutlined rfl
      refine ⟨plain (blankLines placement) ++ flows, ?_, ?_, ?_⟩
      · exact ends_some_iff.mpr ((ends_some_iff.mp ended).thenPure rfl)
      · rw [Flow.mapAll_append, mapAll_element_plain, erased, Passage.flows,
          Passage.flows, Template.flowsOf_append]
      · rw [returned.hoisted_eq_nil rfl] at reflected ⊢
        exact reflected.afterBlankLines placement
  | @declaring _ _ placement _ _ elements _ declared _ =>
      refine ⟨_, (Yields.declaring declared).outlined_plain rfl,
        mapAll_element_plain _, ?_⟩
      rw [declared.hoisted_eq_nil rfl]
      have reflected := reflects_plain (blankLines placement ++ elements)
      rw [Template.areIdle_append, areIdle_blankLines,
        declared.areIdle_declarations, Bool.true_and] at reflected
      exact reflected
  | noStatements =>
      exact ⟨[], ends_some_iff.mpr (ends_pure _ _), rfl, reflects_nil⟩
  | moreStatements statement others statementOutlined othersOutlined =>
      obtain ⟨flows, ended, erased, reflected⟩ := statementOutlined rfl
      obtain ⟨later, laterEnd, laterErased, laterReflect⟩ := othersOutlined rfl
      refine ⟨flows ++ later, ?_, ?_, ?_⟩
      · exact ends_some_iff.mpr ((ends_some_iff.mp ended).bind
          ((ends_some_iff.mp laterEnd).thenPure rfl))
      · rw [Flow.mapAll_append, erased, laterErased, Passage.flows,
          Passage.flows, Passage.flows, Template.flowsOf_append]
      · rw [statement.hoisted_eq_nil rfl] at reflected
        rw [others.hoisted_eq_nil rfl] at laterReflect
        rw [Effect.append_hoisted, statement.hoisted_eq_nil rfl,
          others.hoisted_eq_nil rfl]
        exact reflected.append laterReflect

/-- The outline of a function is the control structure of its template, and
closes where the function returns last. -/
theorem FunctionYields.outlined {function : FunctionDeclaration}
    {file : Template.File} (yielded : FunctionYields target function file) :
    Flow.mapAll Marked.element (outline target function) = file.block.flows ∧
      Flow.closesAll Marked.isResult Marked.acts (outline target function) =
        functionReturnsLast function := by
  cases yielded with
  | @body body elements next effect complaint bodied statements =>
      obtain ⟨flows, ended, erased, reflected⟩ := statements.outlined rfl
      have ran := ends_some_iff.mp ended {} rfl
      have outlined : outline target function =
          plain (prelude (({} : State).after next effect)) ++ flows := by
        simp only [outline, bodied, ran]
      rw [statements.hoisted_eq_nil rfl] at reflected
      rw [outlined]
      refine ⟨?_, ?_⟩
      · rw [Flow.mapAll_append, mapAll_element_plain, erased, Passage.flows,
          Template.Block.flows, Template.flowsOf_append]
      · rw [(reflected.after _).last, functionReturnsLast, bodied]
        rfl

/-- The paths through the template of a function without reports are those of
its outline.  On all of them nothing but layout comes after the value of a
return statement exactly where the function itself puts nothing behind one. -/
theorem return_ends_template_iff {function : FunctionDeclaration}
    (silent : (lowerFunction target function).2 = []) :
    ∃ file, (lowerFunction target function).1 = some file ∧
      (∀ taken, Flow.Path file.block.flows taken ↔
        ∃ marked, Flow.Path (outline target function) marked ∧
          marked.map Marked.element = taken) ∧
      ((∀ marked, Flow.Path (outline target function) marked →
          Flow.EndsThere Marked.isResult Marked.acts marked) ↔
        functionReturnsLast function = true) := by
  obtain ⟨file, lowered, yielded⟩ := functionYields_of_reports_eq_nil silent
  obtain ⟨erased, closes⟩ := yielded.outlined
  refine ⟨file, lowered, fun taken => ?_, ?_⟩
  · rw [← erased]
    exact Flow.path_mapAll_iff Marked.element
  · rw [← closes]
    exact (Flow.closesAll_iff Marked.acts_of_isResult).symm

/-- A value is returned on both sides of a branch, and only a declaration
without a value stands behind it. -/
theorem return_ends_template_iff_branch :
    let span : Span := ⟨0, 0⟩
    let placement : Placement := ⟨span, 2⟩
    let named : Identifier := ⟨"a", span, .parameter⟩
    let sum : Expression :=
      .binary .add (.identifier named) (.number "1" span) span
    let function : FunctionDeclaration :=
      { name := none
        modifiers := [.exported]
        parameters := [⟨.identifier named, false, span⟩]
        body := some
          ⟨[.branch (.identifier named)
              (.result (some (.array [sum] span)) placement)
              (some (.result (some (.identifier named)) placement)) placement,
            .declarations .let [⟨.identifier ⟨"b", span, .unresolved⟩, none, span⟩]
              placement], span⟩
        isGenerator := false
        span }
    (lowerFunction .apigateway function).2 = [] ∧
      ∀ marked, Flow.Path (outline .apigateway function) marked →
        Flow.EndsThere Marked.isResult Marked.acts marked := by
  intro span placement named sum function
  have silent : (lowerFunction .apigateway function).2 = [] := by
    decide +kernel
  obtain ⟨file, lowered, paths, last⟩ := return_ends_template_iff silent
  exact ⟨silent, last.mpr rfl⟩

/-- The value of a return statement in a branch is printed, and then that of
the one behind the branch. -/
theorem return_in_branch_goes_on :
    let source : SourceText :=
      ⟨"returns.ts",
        "export function f(a) \x7b if (a) \x7b return 1; \x7d return 2; \x7d"⟩
    (transpile .apigateway source).isClean = true ∧
      (transpile .apigateway source).files.map (·.render {}) =
        ["## Function: f\n#if($a)\n  1#end\n2"] ∧
      ∃ function ∈ resolvedFunctions source,
        (lowerFunction .apigateway function).2 = [] ∧
          ¬ ∀ marked, Flow.Path (outline .apigateway function) marked →
            Flow.EndsThere Marked.isResult Marked.acts marked := by
  intro source
  have runsOn : ∃ function ∈ resolvedFunctions source,
      (lowerFunction .apigateway function).2 = [] ∧
        Flow.closesAll Marked.isResult Marked.acts
          (outline .apigateway function) = false := by
    decide +kernel
  refine ⟨by decide +kernel, by decide +kernel, ?_⟩
  obtain ⟨function, member, silent, unclosed⟩ := runsOn
  refine ⟨function, member, silent, fun ends => ?_⟩
  rw [(Flow.closesAll_iff Marked.acts_of_isResult).mpr ends] at unclosed
  cases unclosed

end VelocityScript.Lowering
