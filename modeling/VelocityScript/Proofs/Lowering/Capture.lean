import VelocityScript.Proofs.Lowering.Transpilation
import VelocityScript.Proofs.Lowering.Variables

/-!
# The variables of a template

The variables in the template of a function are those that the variables of the
function are kept in, those that the lowering makes, and those that the service
or a helper module provides.  The names that the lowering makes are numbered or
fixed and do not depend on the names of the function, so a variable of the
function can have one of them.  That happens exactly where the function has a
variable with the number of a temporary that is made, or with the name of a
prelude or of the sink that its template needs.
-/

namespace VelocityScript.Lowering

open Script

/-- Whether a name stands for a variable, a parameter or a loop binding. -/
def isVariable (named : Identifier) : Bool :=
  match named.binding with
  | .variableName | .parameter => true
  | _ => false

/-- The variables of a template in which the variables of a function are
kept. -/
def sourceVariables (target : Target) (function : FunctionDeclaration) :
    List String :=
  (function.reach.declared.map fun named => bareName named.name) ++
    (function.reach.mentioned.filter isVariable).map fun named =>
      (location target named.toVariable).root

/-- The variables that the lowering of a function makes: its temporaries, those
of its preludes, and the one that takes results that nobody uses. -/
def madeVariables (target : Target) (function : FunctionDeclaration) :
    List String :=
  let state := ((functionStep target function).run {}).2
  (List.range state.temporaries).map Template.temporaryName ++
    Template.visitElements .variables (prelude state) ++
    if target = .apigateway then
      (function.reach.evaluated.filter dropsResult).map fun _ => "discard"
    else
      []

/-- The variables of a template that the service or a helper module
provides. -/
def ambientVariables (target : Target) (function : FunctionDeclaration) :
    List String :=
  ((function.reach.mentioned.filter fun named => !isVariable named).map
      fun named => (location target named.toVariable).root) ++
    (function.reach.receivers.map fun _ => target.receiver) ++
    if target = .appsync then
      (function.reach.evaluated.filter dropsResult).map fun _ => "util"
    else
      []

/-- No variable of a function has a name that its lowering makes. -/
structure AvoidsMadeNames (target : Target) (function : FunctionDeclaration) :
    Prop where
  temporary : ∀ number < temporaryCount target function,
    Template.temporaryName number ∉ sourceVariables target function
  escape : (∃ text ∈ function.reach.texts, hasQuote text = true) →
    "esc" ∉ sourceVariables target function
  stringClass :
    (∃ named ∈ function.reach.mentioned, isStringClass named = true) →
      Catalogue.stringClass ∉ sourceVariables target function
  sink : target = .apigateway →
    (∃ source ∈ function.reach.evaluated, dropsResult source = true) →
      "discard" ∉ sourceVariables target function

theorem mem_variables_prelude {state : State} {name : String} :
    name ∈ Template.visitElements .variables (prelude state) ↔
      (state.needsEscape = true ∧ name = "esc") ∨
        (state.needsStringClass = true ∧ name = Catalogue.stringClass) := by
  have escape : Template.visitElements .variables escapePrelude = ["esc"] := rfl
  have stringClass : Template.visitElements .variables stringClassPrelude =
      [Catalogue.stringClass, Catalogue.stringClass, Catalogue.stringClass] := rfl
  unfold prelude
  rw [Template.visitElements_append, List.mem_append]
  cases state.needsEscape <;> cases state.needsStringClass <;>
    simp [escape, stringClass, Template.visitElements]

theorem mem_variablesOf_iff {target : Target} {function : FunctionDeclaration}
    {name : String} :
    name ∈ variablesOf target function.reach ↔
      name ∈ sourceVariables target function ∨
        name ∈ ambientVariables target function ∨
          target = .apigateway ∧
            (∃ source ∈ function.reach.evaluated, dropsResult source = true) ∧
              name = "discard" := by
  have mentioned : (name ∈ function.reach.mentioned.map fun named =>
        (location target named.toVariable).root) ↔
      (name ∈ (function.reach.mentioned.filter isVariable).map fun named =>
        (location target named.toVariable).root) ∨
      name ∈ (function.reach.mentioned.filter fun named =>
        !isVariable named).map fun named =>
          (location target named.toVariable).root := by
    simp only [List.mem_map, List.mem_filter]
    grind
  unfold variablesOf sourceVariables ambientVariables
  simp only [List.mem_append, mentioned]
  cases target with
  | appsync =>
      simp only [sink, if_true, reduceCtorEq, false_and, or_false]
      grind
  | apigateway =>
      simp only [sink, reduceCtorEq, if_false, List.not_mem_nil, or_false,
        List.mem_map, List.mem_filter, true_and]
      grind

theorem mem_madeVariables_iff {target : Target} {function : FunctionDeclaration}
    {name : String} :
    name ∈ madeVariables target function ↔
      IsMade 0 (temporaryCount target function) name ∨
        name ∈ Template.visitElements .variables
          (prelude ((functionStep target function).run {}).2) ∨
        target = .apigateway ∧
          (∃ source ∈ function.reach.evaluated, dropsResult source = true) ∧
            name = "discard" := by
  unfold madeVariables IsMade temporaryCount
  simp only [List.mem_append, List.mem_map, List.mem_range]
  split
  · simp only [List.mem_map, List.mem_filter]
    grind
  · simp only [List.not_mem_nil]
    grind

/-- What the lowering of a function without reports leaves behind. -/
structure LeavesBehind (target : Target) (function : FunctionDeclaration)
    (file : Template.File) : Prop where
  escape : ((functionStep target function).run {}).2.needsEscape =
    function.reach.texts.any hasQuote
  stringClass : ((functionStep target function).run {}).2.needsStringClass =
    function.reach.mentioned.any isStringClass
  valid : ∀ named ∈ function.reach.mentioned,
    Template.isValidIdentifier named.name = true
  shown : ∀ name, name ∈ file.visit .variables ↔
    name ∈ madeVariables target function ∨
      name ∈ sourceVariables target function ∨
        name ∈ ambientVariables target function

theorem FunctionYields.leavesBehind {target : Target}
    {function : FunctionDeclaration} {file : Template.File}
    (yielded : FunctionYields target function file) :
    LeavesBehind target function file := by
  cases yielded with
  | @body body elements next effect complaint bodied statements =>
      have final : ((functionStep target function).run {}).2 =
          ({} : State).after next effect := by
        have ended := ends_some_iff.mp statements.ends {} rfl
        simp only [functionStep, complaint, bodied, StateT.run_bind, ended]
        rfl
      have reached : (Passage.statements body.statements).reach =
          function.reach := by
        simp only [Passage.reach, FunctionDeclaration.reach, bodied]
      have asks := statements.asks
      rw [reached] at asks
      refine ⟨?_, ?_, asks.valid, fun name => ?_⟩
      · rw [final, ← asks.escape]
        simp [State.after]
      · rw [final, ← asks.stringClass]
        simp [State.after]
      · have shown := statements.shows.exact name
        rw [reached, ← temporaryCount_eq complaint bodied statements,
          mem_variablesOf_iff, statements.hoisted_eq_nil rfl] at shown
        rw [mem_madeVariables_iff, final, Template.File.visit,
          Template.Block.visit, Template.visitElements_append, List.mem_append]
        simp only [Template.visitElements, Passage.visit, List.not_mem_nil,
          false_or] at shown
        rw [shown]
        grind

theorem LeavesBehind.mentioned {target : Target} {function : FunctionDeclaration}
    {file : Template.File} (leaves : LeavesBehind target function file)
    {named : Identifier} (mentioned : named ∈ function.reach.mentioned) :
    (location target named.toVariable).root ∈ file.visit .variables := by
  rw [leaves.shown, sourceVariables, ambientVariables]
  by_cases isSource : isVariable named = true
  · refine .inr (.inl (List.mem_append_right _ (List.mem_map.mpr ?_)))
    exact ⟨named, List.mem_filter.mpr ⟨mentioned, isSource⟩, rfl⟩
  · refine .inr (.inr (List.mem_append_left _ (List.mem_append_left _ ?_)))
    refine List.mem_map.mpr ⟨named, List.mem_filter.mpr ⟨mentioned, ?_⟩, rfl⟩
    simpa using isSource

/-- The made names and the variables of a function are different exactly where
no variable has one of the names that the source asks for. -/
theorem LeavesBehind.avoids_iff {target : Target}
    {function : FunctionDeclaration} {file : Template.File}
    (leaves : LeavesBehind target function file) :
    (∀ name ∈ madeVariables target function,
        name ∉ sourceVariables target function) ↔
      AvoidsMadeNames target function := by
  simp only [mem_madeVariables_iff, mem_variables_prelude, leaves.escape,
    leaves.stringClass, List.any_eq_true]
  constructor
  · intro apart
    refine ⟨fun number made => ?_, fun needed => ?_, fun needed => ?_,
      fun gateway dropped => ?_⟩
    · exact apart _ (.inl ⟨number, Nat.zero_le number, made, rfl⟩)
    · exact apart _ (.inr (.inl (.inl ⟨needed, rfl⟩)))
    · exact apart _ (.inr (.inl (.inr ⟨needed, rfl⟩)))
    · exact apart _ (.inr (.inr ⟨gateway, dropped, rfl⟩))
  · rintro avoids name
      (⟨number, -, made, rfl⟩ | (⟨needed, rfl⟩ | ⟨needed, rfl⟩) |
        ⟨gateway, dropped, rfl⟩)
    · exact avoids.temporary number made
    · exact avoids.escape needed
    · exact avoids.stringClass needed
    · exact avoids.sink gateway dropped

/-- The variables of every template of a text without diagnostics are those that
the lowering makes, those of the function, and those that are provided; and the
made ones capture no variable of the function exactly where it avoids their
names. -/
theorem made_variables_capture_none_iff {target : Target} {source : SourceText}
    {file : Template.File} (clean : (transpile target source).isClean = true)
    (produced : file ∈ (transpile target source).files) :
    ∃ function ∈ resolvedFunctions source,
      lowerFunction target function = (some file, []) ∧
      (∀ name, name ∈ file.visit .variables ↔
        name ∈ madeVariables target function ∨
          name ∈ sourceVariables target function ∨
            name ∈ ambientVariables target function) ∧
      ((∀ name ∈ madeVariables target function,
          name ∉ sourceVariables target function) ↔
        AvoidsMadeNames target function) := by
  obtain ⟨function, member, yielded⟩ := exists_resolvedFunction clean produced
  have leaves := yielded.leavesBehind
  exact ⟨function, member, yielded.lowerFunction_eq, leaves.shown,
    leaves.avoids_iff⟩

/-- A template with a temporary, a prelude and a sink, and none of their names
in the function. -/
theorem made_variables_capture_none_iff_sink :
    let source : SourceText :=
      ⟨"sink.ts",
        "export function f(a) \x7b a.go([a, 2 + 3]); return `\"$\x7ba\x7d`; \x7d"⟩
    (transpile .apigateway source).isClean = true ∧
      ∃ file ∈ (transpile .apigateway source).files,
        ∃ function ∈ resolvedFunctions source,
          lowerFunction .apigateway function = (some file, []) ∧
          (∀ name, name ∈ file.visit .variables ↔
            name ∈ ["local_0", "esc", "discard", "a"]) ∧
          AvoidsMadeNames .apigateway function := by
  intro source
  have clean : (transpile .apigateway source).isClean = true := by
    decide +kernel
  have present : (transpile .apigateway source).files.isEmpty = false := by
    decide +kernel
  obtain ⟨file, produced⟩ :=
    List.exists_mem_of_ne_nil _ (List.isEmpty_eq_false_iff.mp present)
  obtain ⟨function, member, lowered, shown, avoids⟩ :=
    made_variables_capture_none_iff clean produced
  have named : ∀ function ∈ resolvedFunctions source,
      madeVariables .apigateway function = ["local_0", "esc", "discard"] ∧
        sourceVariables .apigateway function = ["a", "a", "a"] ∧
          ambientVariables .apigateway function = [] := by
    decide +kernel
  obtain ⟨made, own, provided⟩ := named function member
  rw [made, own] at avoids
  refine ⟨clean, file, produced, function, member, lowered, fun name => ?_,
    avoids.mp (by decide)⟩
  rw [shown, made, own, provided]
  simp [or_assoc]

/-- A variable of the function is set again by the temporary of the same
name. -/
theorem temporary_captures_variable :
    let source : SourceText :=
      ⟨"capture.ts",
        "export function f() \x7b let local_0 = 1; return [local_0, 2 + 3]; \x7d"⟩
    (transpile .apigateway source).isClean = true ∧
      (∃ function ∈ resolvedFunctions source,
        "local_0" ∈ madeVariables .apigateway function ∧
          "local_0" ∈ sourceVariables .apigateway function) ∧
      ∃ file ∈ (transpile .apigateway source).files,
        file.visit .targets = ["local_0", "local_0"] ∧
          file.render {} =
            "## Function: f\n#set($local_0 = 1)\n#set($local_0 = 2 + 3)\n\n[\n" ++
              "  $local_0,\n  $local_0\n]" := by
  decide +kernel

end VelocityScript.Lowering
