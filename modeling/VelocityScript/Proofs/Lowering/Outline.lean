import VelocityScript.Lowering.Function
import VelocityScript.Proofs.Lowering.Directness
import VelocityScript.Proofs.Lowering.Variables

/-!
# Outlines of lowered functions

The outline of a function is the control structure of its template, in which
the elements that print the value of a return statement are marked.  It is
lowered step by step like the template, so that a mark says where an element
comes from and not what it looks like.

Beside it stand the properties of the statements themselves that decide what
the paths of the outline look like: whether a statement returns a value,
whether it leaves anything in the template at all, and whether a value that it
returns is the last thing that happens.
-/

namespace VelocityScript.Lowering

open Script
open Template (Flow)

/-- What happens at one point of a path: the value of a return statement is
printed, or something else. -/
inductive Marked where
  | result (value : Template.Value)
  | other (element : Template.Element)

namespace Marked

/-- The element of the template. -/
def element : Marked → Template.Element
  | .result value => .emit value
  | .other element => element

def isResult : Marked → Bool
  | .result _ => true
  | .other _ => false

/-- Whether more happens than the layout of the template. -/
def acts (marked : Marked) : Bool :=
  !marked.element.isLayout

theorem acts_of_isResult (marked : Marked) (result : marked.isResult = true) :
    marked.acts = true := by
  cases marked with
  | result value => rfl
  | other element => cases result

end Marked

/-- The control structure of elements that come from no return statement. -/
def plain (elements : List Template.Element) : List (Flow Marked) :=
  Flow.mapAll Marked.other (Template.flowsOf elements)

/-! ## The marked lowering -/

/-- The outline of a return statement. -/
def outlineResult (target : Target) (returned : Option Expression) :
    Lower (List (Flow Marked)) := do
  match returned with
  | none => return []
  | some expression =>
      let (value, hoisted) ← collecting (lowerValue target expression)
      let before := if hoisted.isEmpty then [] else hoisted ++ [.newLine]
      return plain before ++
        (value.map fun value => Flow.simple (Marked.result value)).toList

/-- The outline of a branch, from the steps that outline its parts. -/
def outlineBranch (condition : Lower (Option Template.Expression))
    (consequent : Lower (List (Flow Marked)))
    (alternative : Lower (Option (List (Flow Marked)))) :
    Lower (Option (List (Flow Marked))) := do
  let condition ← condition
  let taken ← consequent
  let others ← alternative
  return condition.bind fun _ => others.map fun others => [.either taken others]

mutual

def outlineStatement (target : Target) :
    Statement → Lower (List (Flow Marked))
  | .block statements placement => do
      return plain (blankLines placement) ++
        (← outlineStatements target statements)
  | .branch condition consequent alternative placement => do
      let (directive, hoisted) ← collecting
        (outlineBranch (lowerExpression target condition)
          (outlineStatement target consequent)
          (outlineAlternative target alternative))
      return plain (blankLines placement) ++ plain hoisted ++ directive.getD []
  | .loop header iterable body placement => do
      match header with
      | .expression assigned =>
          note .loopHeader assigned.span
          return plain (blankLines placement)
      | .declaration declared =>
          let pattern ← lowerLoopPattern declared.name
          let (iterable, hoisted) ← collecting (lowerValue target iterable)
          let round ← outlineStatement target body
          let directive :=
            pattern.bind fun (_, opening) => iterable.map fun _ =>
              Flow.repeated (plain opening ++ round)
          return plain (blankLines placement) ++ plain hoisted ++
            directive.toList
  | .result returned placement => do
      return plain (blankLines placement) ++ (← outlineResult target returned)
  | statement => return plain (← lowerStatement target statement)

def outlineStatements (target : Target) :
    List Statement → Lower (List (Flow Marked))
  | [] => return []
  | statement :: others => do
      let flows ← outlineStatement target statement
      return flows ++ (← outlineStatements target others)

def outlineAlternative (target : Target) :
    Option Statement → Lower (Option (List (Flow Marked)))
  | none => return some []
  | some (.branch condition consequent alternative _) =>
      outlineBranch (lowerExpression target condition)
        (outlineStatement target consequent)
        (outlineAlternative target alternative)
  | some statement => return some (← outlineStatement target statement)

end

/-- The outline of a function with a body. -/
def outline (target : Target) (function : FunctionDeclaration) :
    List (Flow Marked) :=
  match function.body with
  | none => []
  | some body =>
      let (flows, state) := (outlineStatements target body.statements).run {}
      plain (prelude state) ++ flows

theorem outlineAlternative_of_not_branch (target : Target) {source : Statement}
    (notBranch : isBranch source = false) :
    outlineAlternative target (some source) =
      (do return some (← outlineStatement target source)) := by
  cases source with
  | branch condition consequent alternative placement => cases notBranch
  | _ => rfl

/-! ## Statements that return and statements that do nothing -/

mutual

/-- Whether a statement returns a value somewhere. -/
def returnsValue : Statement → Bool
  | .block statements _ => returnValues statements
  | .branch _ consequent alternative _ =>
      returnsValue consequent || alternativeReturnsValue alternative
  | .loop _ _ body _ => returnsValue body
  | .result returned _ => returned.isSome
  | _ => false

def returnValues : List Statement → Bool
  | [] => false
  | statement :: others => returnsValue statement || returnValues others

def alternativeReturnsValue : Option Statement → Bool
  | none => false
  | some statement => returnsValue statement

end

/-- Whether a loop takes its elements as they are. -/
def bindsElements : LoopHeader → Bool
  | .declaration ⟨.identifier _, _, _⟩ => true
  | _ => false

mutual

/-- Whether a statement prints nothing and assigns nothing. -/
def isQuiet : Statement → Bool
  | .block statements _ => areQuiet statements
  | .branch condition consequent alternative _ =>
      isDirect condition && isQuiet consequent && isAlternativeQuiet alternative
  | .loop header iterable body _ =>
      bindsElements header && (isValue iterable && isDirect iterable) &&
        isQuiet body
  | .result returned _ => returned.isNone
  | .declarations _ declared _ => declared.all (·.initial.isNone)
  | _ => false

def areQuiet : List Statement → Bool
  | [] => true
  | statement :: others => isQuiet statement && areQuiet others

def isAlternativeQuiet : Option Statement → Bool
  | none => true
  | some statement => isQuiet statement

end

mutual

/-- Whether nothing happens after a statement has returned a value: no value is
returned from a loop, and only quiet statements stand after one that returns a
value. -/
def returnsLast : Statement → Bool
  | .block statements _ => returnLast statements
  | .branch _ consequent alternative _ =>
      returnsLast consequent && alternativeReturnsLast alternative
  | .loop _ _ body _ => !returnsValue body
  | _ => true

def returnLast : List Statement → Bool
  | [] => true
  | statement :: others =>
      returnsLast statement && (!returnsValue statement || areQuiet others) &&
        returnLast others

def alternativeReturnsLast : Option Statement → Bool
  | none => true
  | some statement => returnsLast statement

end

/-- Whether nothing happens after a function has returned a value. -/
def functionReturnsLast (function : FunctionDeclaration) : Bool :=
  match function.body with
  | none => true
  | some body => returnLast body.statements

namespace Passage

/-- Whether a step can return a value. -/
def marksResults : Passage → Bool
  | .result _ | .branch _ _ _ | .alternative _ | .statement _
  | .statements _ => true
  | _ => false

def returnsValue : Passage → Bool
  | .result returned => returned.isSome
  | .branch _ consequent rest =>
      Lowering.returnsValue consequent || alternativeReturnsValue rest
  | .alternative source => alternativeReturnsValue source
  | .statement source => Lowering.returnsValue source
  | .statements sources => returnValues sources
  | _ => false

def isQuiet : Passage → Bool
  | .result returned => returned.isNone
  | .branch condition consequent rest =>
      isDirect condition && Lowering.isQuiet consequent &&
        isAlternativeQuiet rest
  | .alternative source => isAlternativeQuiet source
  | .statement source => Lowering.isQuiet source
  | .statements sources => areQuiet sources
  | _ => false

def returnsLast : Passage → Bool
  | .branch _ consequent rest =>
      Lowering.returnsLast consequent && alternativeReturnsLast rest
  | .alternative source => alternativeReturnsLast source
  | .statement source => Lowering.returnsLast source
  | .statements sources => returnLast sources
  | _ => true

/-- The outline of a step that can return a value, taken like the step
itself. -/
def outline (target : Target) : Passage → Lower (Option (List (Flow Marked)))
  | .result returned => return some (← outlineResult target returned)
  | .branch condition consequent rest =>
      outlineBranch (lowerExpression target condition)
        (outlineStatement target consequent) (outlineAlternative target rest)
  | .alternative source => outlineAlternative target source
  | .statement source => return some (← outlineStatement target source)
  | .statements sources => return some (← outlineStatements target sources)
  | _ => return none

/-- The control structure of what a step results in. -/
def flows : (passage : Passage) → passage.Result → List (Flow Template.Element)
  | .evaluation _, elements => Template.flowsOf elements
  | .result _, elements => Template.flowsOf elements
  | .declaration _, elements => Template.flowsOf elements
  | .declarations _, elements => Template.flowsOf elements
  | .statement _, elements => Template.flowsOf elements
  | .statements _, elements => Template.flowsOf elements
  | .loopPattern _, (_, opening) => Template.flowsOf opening
  | .branch _ _ _, parts =>
      [.either parts.first.flows
        (Template.clauseFlows parts.others
          (Template.otherwiseFlows parts.otherwise))]
  | .alternative _, rest =>
      Template.clauseFlows rest.others (Template.otherwiseFlows rest.otherwise)

end Passage

/-! ## What outlines reflect -/

/-- The properties of a step show in its outline and in the directives that it
leaves to the statement around it. -/
structure Reflects (hoisted : List Template.Element) (flows : List (Flow Marked))
    (returns quiet last : Bool) : Prop where
  returns : (Flow.stepsOf flows).any Marked.isResult = returns
  quiet : (Template.areIdle hoisted &&
    !(Flow.stepsOf flows).any Marked.acts) = quiet
  last : Flow.closesAll Marked.isResult Marked.acts flows = last

/-- Without its marks, an outline without marks is what it was made from. -/
@[simp]
theorem mapAll_element_plain (elements : List Template.Element) :
    Flow.mapAll Marked.element (plain elements) = Template.flowsOf elements := by
  rw [plain, Flow.mapAll_mapAll]
  exact Flow.mapAll_id _

theorem any_acts_plain (elements : List Template.Element) :
    (Flow.stepsOf (plain elements)).any Marked.acts =
      !Template.areIdle elements := by
  rw [plain, Flow.stepsOf_mapAll, List.any_map, Template.areIdle,
    List.not_all_eq_any_not]
  rfl

theorem any_isResult_plain (elements : List Template.Element) :
    (Flow.stepsOf (plain elements)).any Marked.isResult = false := by
  rw [plain, Flow.stepsOf_mapAll, List.any_map]
  exact List.any_eq_false.mpr fun _ _ => Bool.false_ne_true

theorem reflects_nil : Reflects [] [] false true true :=
  ⟨rfl, rfl, rfl⟩

/-- Elements that come from no return statement. -/
theorem reflects_plain (elements : List Template.Element) :
    Reflects [] (plain elements) false (Template.areIdle elements) true where
  returns := any_isResult_plain elements
  quiet := by
    rw [any_acts_plain, Bool.not_not]
    rfl
  last := by
    refine (Flow.closesAll_iff Marked.acts_of_isResult).mpr fun taken path => ?_
    have unmarked := List.any_eq_false.mp (any_isResult_plain elements)
    exact List.Pairwise.imp_of_mem
      (fun member _ _ result => (unmarked _ (path.subset member) result).elim)
      (List.pairwise_of_forall (R := fun _ _ => True) fun _ _ => trivial)

theorem areIdle_blankLines (placement : Placement) :
    Template.areIdle (blankLines placement) = true := by
  unfold blankLines
  induction placement.leadingNewlines - 1 with
  | zero => rfl
  | succ count inductionHypothesis => exact inductionHypothesis

namespace Reflects

variable {first second : List (Flow Marked)}
  {returns quiet last returnsAfter quietAfter lastAfter : Bool}

theorem append (earlier : Reflects [] first returns quiet last)
    (later : Reflects [] second returnsAfter quietAfter lastAfter) :
    Reflects [] (first ++ second) (returns || returnsAfter)
      (quiet && quietAfter)
      (last && (!returns || quietAfter) && lastAfter) := by
  obtain ⟨rfl, rfl, rfl⟩ := earlier
  obtain ⟨rfl, rfl, rfl⟩ := later
  refine ⟨?_, ?_, ?_⟩
  · rw [Flow.stepsOf_append, List.any_append]
  · rw [Flow.stepsOf_append, List.any_append, Bool.not_or]
    rfl
  · rw [Flow.closesAll_append]
    rfl

/-- Elements in front that come from no return statement. -/
theorem after (elements : List Template.Element)
    (later : Reflects [] second returns quiet last) :
    Reflects [] (plain elements ++ second) returns
      (Template.areIdle elements && quiet) last := by
  simpa using (reflects_plain elements).append later

theorem afterBlankLines (placement : Placement)
    (later : Reflects [] second returns quiet last) :
    Reflects [] (plain (blankLines placement) ++ second) returns quiet last := by
  simpa [areIdle_blankLines] using later.after (blankLines placement)

/-- The directives of a step are placed in front of it. -/
theorem placed {hoisted : List Template.Element}
    (reflected : Reflects hoisted second returns quiet last) :
    Reflects [] (plain hoisted ++ second) returns quiet last := by
  obtain ⟨rfl, rfl, rfl⟩ := reflected
  exact after hoisted ⟨rfl, rfl, rfl⟩

theorem either {after : List Template.Element}
    (before : List Template.Element)
    (taken : Reflects [] first returns quiet last)
    (others : Reflects after second returnsAfter quietAfter lastAfter) :
    Reflects (before ++ after) [.either first second] (returns || returnsAfter)
      (Template.areIdle before && quiet && quietAfter)
      (last && lastAfter) := by
  obtain ⟨rfl, rfl, rfl⟩ := taken
  obtain ⟨rfl, rfl, rfl⟩ := others
  refine ⟨?_, ?_, ?_⟩
  · simp only [Flow.stepsOf, Flow.steps, List.append_nil, List.any_append]
  · simp only [Flow.stepsOf, Flow.steps, List.append_nil, List.any_append,
      Template.areIdle_append, Bool.not_or]
    have nothing : Template.areIdle [] = true := rfl
    rw [nothing]
    grind
  · simp [Flow.closesAll, Flow.closes, Flow.stepsOf]

theorem repeated (body : Reflects [] first returns quiet last) :
    Reflects [] [.repeated first] returns quiet (!returns) := by
  obtain ⟨rfl, rfl, rfl⟩ := body
  refine ⟨?_, ?_, ?_⟩
  · simp only [Flow.stepsOf, Flow.steps, List.append_nil]
  · simp only [Flow.stepsOf, Flow.steps, List.append_nil]
  · simp [Flow.closesAll, Flow.closes, Flow.stepsOf]

end Reflects

end VelocityScript.Lowering
