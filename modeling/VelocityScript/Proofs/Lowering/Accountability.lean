import VelocityScript.Proofs.Lowering.Accounting
import VelocityScript.Proofs.Lowering.Adequacy
import VelocityScript.Template.Printer

/-!
# Nothing is dropped silently

A step of the lowering of expressions has a result exactly when it adds no
report.  Branches and loop patterns have none only where they add one.  So a
function without reports is lowered as a whole: its template comes from a
derivation, in which every step has a result.
-/

namespace VelocityScript.Lowering

open Script

/-- Reports are only added, and none is added exactly when the step has a
result. -/
def Accountable {Result : Type} (step : Lower (Option Result)) : Prop :=
  ∀ state : State, ∃ added,
    (step.run state).2.reports = state.reports ++ added ∧
      ((step.run state).1.isSome = true ↔ added = [])

/-- Reports are only added, and some are where the step has no result. -/
def Answerable {Result : Type} (step : Lower (Option Result)) : Prop :=
  ∀ state : State, ∃ added,
    (step.run state).2.reports = state.reports ++ added ∧
      ((step.run state).1 = none → added ≠ [])

/-- A template comes from a function all of whose steps have a result. -/
inductive FunctionYields (target : Target) :
    FunctionDeclaration → Template.File → Prop
  | body {function : FunctionDeclaration} {body : Block}
      {elements : List Template.Element} {next : Nat} {effect : Effect} :
      functionComplaint? function = none →
      function.body = some body →
      Yields target (.statements body.statements) 0 elements next effect →
      FunctionYields target function
        { name := templateName function
          block :=
            .mk (prelude (({} : State).after next effect) ++ elements)
              (some body.span)
          origin := some function.span }

theorem Task.Settled.accountable {target : Target} {task : Task}
    (settled : task.Settled target) : Accountable (task.run target) := by
  intro state
  rcases settled state.temporaries state rfl with
    ⟨result, next, effect, ran, _⟩ | ⟨final, report, others, ran, added⟩
  · refine ⟨[], ?_, ?_⟩ <;> simp [ran]
  · refine ⟨report :: others, ?_, ?_⟩
    · rw [ran]
      exact added
    · simp [ran]

theorem Accounts.answerable {Result : Type} {step : Lower (Option Result)}
    {post : Nat → Result → Nat → Effect → Prop}
    (accounted : Accounts (Present post) step) : Answerable step := by
  intro state
  obtain ⟨added, grown⟩ := accounted.grows state
  refine ⟨added, grown.symm, ?_⟩
  rintro absent rfl
  rw [List.append_nil] at grown
  obtain ⟨_, _, _, _, present, _⟩ := accounted.finishes state grown.symm
  rw [absent] at present
  cases present

/-- A fresh state remembers what a step adds to it. -/
theorem State.after_injective {first next other : Nat} {effect later : Effect}
    (same : ({ temporaries := first } : State).after next effect =
      ({ temporaries := first } : State).after other later) :
    next = other ∧ effect = later := by
  simp only [State.after, List.nil_append, Bool.false_or, State.mk.injEq,
    true_and] at same
  obtain ⟨counted, escape, stringClass, hoisted⟩ := same
  exact ⟨counted, Effect.ext escape stringClass hoisted⟩

/-- Derivations are exactly the runs with a result. -/
theorem derives_iff {target : Target} {task : Task} {first next : Nat}
    {result : task.Result} {effect : Effect} :
    Derives target task first result next effect ↔
      Ends first (some result) next effect (task.run target) := by
  constructor
  · exact Derives.ends
  · intro ended
    obtain ⟨found, added, same, derived⟩ :=
      derives_of_run (ended { temporaries := first } rfl)
    obtain ⟨rfl, rfl⟩ := State.after_injective same
    exact derived

/-- Derivations of statements are exactly the runs with a result and without
reports. -/
theorem yields_iff {target : Target} {passage : Passage} {first next : Nat}
    {result : passage.Result} {effect : Effect} :
    Yields target passage first result next effect ↔
      Ends first (some result) next effect (passage.run target) := by
  constructor
  · exact Yields.ends
  · intro ended
    have ran := ended { temporaries := first } rfl
    obtain ⟨found, added, same, _, present, yielded⟩ :=
      (passage_accounts target passage).finishes { temporaries := first }
        (by rw [ran]; rfl)
    rw [ran] at same present
    obtain ⟨rfl, rfl⟩ := State.after_injective same
    cases present
    exact yielded

theorem functionYields_of_reports_eq_nil {target : Target}
    {function : FunctionDeclaration}
    (silent : (lowerFunction target function).2 = []) :
    ∃ file, (lowerFunction target function).1 = some file ∧
      FunctionYields target function file := by
  unfold lowerFunction functionStep at silent ⊢
  cases complaint : functionComplaint? function with
  | some complaint =>
      simp only [complaint] at silent
      cases silent
  | none =>
      cases bodied : function.body with
      | none =>
          simp only [complaint, bodied] at silent
          cases silent
      | some body =>
          simp only [complaint, bodied] at silent ⊢
          obtain ⟨next, effect, ran, yielded⟩ :=
            (statements_account target body.statements).finishes {} silent
          have whole := FunctionYields.body complaint bodied yielded
          rw [← ran] at whole
          exact ⟨_, rfl, whole⟩

theorem FunctionYields.lowerFunction_eq {target : Target}
    {function : FunctionDeclaration} {file : Template.File}
    (yielded : FunctionYields target function file) :
    lowerFunction target function = (some file, []) := by
  cases yielded with
  | body complaint bodied statements =>
      have ended := ends_some_iff.mp statements.ends {} rfl
      simp only [lowerFunction, functionStep, complaint, bodied, StateT.run_bind,
        ended]
      rfl

/-- The functions lowered without reports are those with a derivation. -/
theorem lowerFunction_eq_iff {target : Target} {function : FunctionDeclaration}
    {file : Template.File} :
    lowerFunction target function = (some file, []) ↔
      FunctionYields target function file := by
  constructor
  · intro lowered
    have silent : (lowerFunction target function).2 = [] := by rw [lowered]
    obtain ⟨found, present, yielded⟩ := functionYields_of_reports_eq_nil silent
    rw [lowered] at present
    cases present
    exact yielded
  · exact FunctionYields.lowerFunction_eq

/-- Whatever the lowering leaves out, it reports.  Without reports a function
has a derivation, and the derivations are the runs in which every step has a
result. -/
theorem lowering_reports_what_it_drops (target : Target) :
    (∀ task : Task, Accountable (task.run target)) ∧
      (∀ condition consequent alternative,
        Answerable (lowerBranch (lowerExpression target condition)
          (lowerStatement target consequent) consequent.span
          (lowerAlternative target alternative))) ∧
      (∀ elements span, Answerable (lowerEntryPattern elements span)) ∧
      (∀ function, (lowerFunction target function).2 = [] →
        ∃ file, (lowerFunction target function).1 = some file ∧
          FunctionYields target function file) ∧
      (∀ passage first result next effect,
        Yields target passage first result next effect ↔
          Ends first (some result) next effect (passage.run target)) ∧
      ∀ task first result next effect,
        Derives target task first result next effect ↔
          Ends first (some result) next effect (task.run target) := by
  refine ⟨?_, ?_, ?_, ?_, ?_, ?_⟩
  · intro task
    exact (task_settled target task).accountable
  · intro condition consequent alternative
    exact (passage_accounts target
      (.branch condition consequent alternative)).answerable
  · intro elements span
    exact (entryPattern_accounts target elements span).answerable
  · intro function silent
    exact functionYields_of_reports_eq_nil silent
  · intro passage first result next effect
    exact yields_iff
  · intro task first result next effect
    exact derives_iff

/-- A function with calls and operators, one of which needs a temporary: nothing
of it is dropped, and it has a derivation. -/
theorem lowering_reports_what_it_drops_product :
    let span : Span := ⟨0, 0⟩
    let read (name : String) : Script.Expression :=
      .identifier ⟨name, span, .variableName⟩
    let call (method : String) (arguments : List Script.Expression) :
        Script.Expression :=
      .call (.member (read "a") ⟨method, span, .unresolved⟩ false span) arguments
        .value span
    let sum : Script.Expression :=
      .binary .add (call "size" []) (.number "2" span) span
    let product : Script.Expression :=
      .binary .multiply (call "get" [.number "0" span]) (read "b") span
    let function : FunctionDeclaration :=
      { name := some ⟨"f", span, .unresolved⟩
        modifiers := [.exported]
        parameters := [⟨.identifier ⟨"a", span, .variableName⟩, false, span⟩]
        body := some
          { statements :=
              [.declarations .let
                  [⟨.identifier ⟨"b", span, .variableName⟩, some sum, span⟩]
                  ⟨span, 0⟩,
                .result (some (.array [read "b", product] span)) ⟨span, 0⟩]
            span := span }
        isGenerator := false
        span := span }
    let text : String :=
      "## Function: f\n#set($b = $\x7ba.size()\x7d + 2)\n" ++
        "#set($local_0 = $\x7ba.get(0)\x7d * $b)\n\n[\n  $b,\n  $local_0\n]"
    (lowerFunction .appsync function).2 = [] ∧
      ∃ file, (lowerFunction .appsync function).1 = some file ∧
        FunctionYields .appsync function file ∧
        file.render {} = text := by
  intro span read call sum product function text
  have silent : (lowerFunction .appsync function).2 = [] := by
    decide +kernel
  have printed : (lowerFunction .appsync function).1.map (·.render {}) =
      some text := by
    decide +kernel
  obtain ⟨-, -, -, derived, -, -⟩ := lowering_reports_what_it_drops .appsync
  obtain ⟨file, lowered, yielded⟩ := derived function silent
  rw [lowered] at printed
  exact ⟨silent, file, lowered, yielded, Option.some.inj printed⟩

end VelocityScript.Lowering
