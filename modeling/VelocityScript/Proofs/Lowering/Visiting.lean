import VelocityScript.Proofs.Lowering.StatementDerivation
import VelocityScript.Proofs.Lowering.Variables
import VelocityScript.Proofs.Script.Occurrences

/-!
# Every part of a body is lowered

Where a body is lowered without reports, so is every node within it.  What the
lowering reaches is therefore what stands in the nodes within the body, and no
part of it is passed over.
-/

namespace VelocityScript

namespace Lowering

open Script

/-- A step of the lowering of expressions has a derivation. -/
def Task.IsDerived (target : Target) (task : Task) : Prop :=
  ∃ first result next effect, Derives target task first result next effect

/-- A step of the lowering of statements has a derivation. -/
def Passage.IsDerived (target : Target) (passage : Passage) : Prop :=
  ∃ first result next effect, Yields target passage first result next effect

section Steps

variable {target : Target}

theorem isDerived_of_value {source : Expression}
    (derived : (Task.value source).IsDerived target) :
    (Task.expression source).IsDerived target := by
  obtain ⟨first, result, next, effect, derived⟩ := derived
  cases derived with
  | kept inner _ | hoisted inner _ => exact ⟨_, _, _, _, inner⟩

theorem isDerived_of_path {source : Expression}
    (derived : (Task.path source).IsDerived target) :
    (Task.expression source).IsDerived target := by
  obtain ⟨first, result, next, effect, derived⟩ := derived
  cases derived with
  | keptPath inner _ | hoistedPath inner _ => exact ⟨_, _, _, _, inner⟩

theorem isDerived_of_bound {side : BoundSide} {source : Expression}
    (derived : (Task.bound side source).IsDerived target) :
    (Task.expression source).IsDerived target := by
  obtain ⟨first, result, next, effect, derived⟩ := derived
  cases derived with
  | numberBound inner | referenceBound inner =>
      exact isDerived_of_value ⟨_, _, _, _, inner⟩

/-- What holds of all of a list, by going through it, holds of each in it. -/
theorem forall_mem_of_cons {Content : Type} (All : List Content → Prop)
    {Each : Content → Prop} {contents : List Content}
    (step : ∀ first others, All (first :: others) → Each first ∧ All others)
    (all : All contents) : ∀ content ∈ contents, Each content := by
  induction contents with
  | nil => exact List.forall_mem_nil _
  | cons first others inductionHypothesis =>
      obtain ⟨here, later⟩ := step first others all
      exact List.forall_mem_cons.mpr ⟨here, inductionHypothesis later⟩

theorem isDerived_of_values {sources : List Expression}
    (derived : (Task.values sources).IsDerived target) :
    ∀ source ∈ sources, (Task.expression source).IsDerived target := by
  refine forall_mem_of_cons
    (fun sources => (Task.values sources).IsDerived target) ?_ derived
  rintro source others ⟨first, result, next, effect, derived⟩
  cases derived with
  | moreValues value values =>
      exact ⟨isDerived_of_value ⟨_, _, _, _, value⟩, _, _, _, _, values⟩

theorem isDerived_of_parts {parts : List TemplatePart}
    (derived : (Task.parts parts).IsDerived target) :
    ∀ part ∈ parts, (Task.expression part.expression).IsDerived target := by
  refine forall_mem_of_cons
    (fun parts => (Task.parts parts).IsDerived target) ?_ derived
  rintro part others ⟨first, result, next, effect, derived⟩
  cases derived with
  | moreParts here later =>
      cases here with
      | part value =>
          exact ⟨isDerived_of_value ⟨_, _, _, _, value⟩, _, _, _, _, later⟩

theorem isDerived_of_members {members : List ObjectMember}
    (derived : (Task.members members).IsDerived target) :
    ∀ member ∈ members, (Task.member member).IsDerived target := by
  refine forall_mem_of_cons
    (fun members => (Task.members members).IsDerived target) ?_ derived
  rintro member others ⟨first, result, next, effect, derived⟩
  cases derived with
  | moreMembers here later => exact ⟨⟨_, _, _, _, here⟩, _, _, _, _, later⟩

theorem isDerived_of_declarations {declared : List Declaration}
    (derived : (Passage.declarations declared).IsDerived target) :
    ∀ declaration ∈ declared,
      (Passage.declaration declaration).IsDerived target := by
  refine forall_mem_of_cons
    (fun declared => (Passage.declarations declared).IsDerived target) ?_ derived
  rintro declaration others ⟨first, result, next, effect, derived⟩
  cases derived with
  | moreDeclarations here later => exact ⟨⟨_, _, _, _, here⟩, _, _, _, _, later⟩

theorem isDerived_of_statements {statements : List Statement}
    (derived : (Passage.statements statements).IsDerived target) :
    ∀ statement ∈ statements,
      (Passage.statement statement).IsDerived target := by
  refine forall_mem_of_cons
    (fun statements => (Passage.statements statements).IsDerived target) ?_ derived
  rintro statement others ⟨first, result, next, effect, derived⟩
  cases derived with
  | moreStatements here later => exact ⟨⟨_, _, _, _, here⟩, _, _, _, _, later⟩

theorem isDerived_of_alternative {source : Statement}
    (derived : (Passage.alternative (some source)).IsDerived target) :
    (Passage.statement source).IsDerived target := by
  obtain ⟨first, result, next, effect, derived⟩ := derived
  cases derived with
  | chained parts => exact ⟨_, _, _, _, .branching parts⟩
  | otherwise _ statement => exact ⟨_, _, _, _, statement⟩

theorem isDerived_of_evaluation {source : Expression}
    (derived : (Passage.evaluation source).IsDerived target) :
    (Task.expression source).IsDerived target := by
  obtain ⟨first, result, next, effect, derived⟩ := derived
  cases derived with
  | assignment inner => exact ⟨_, _, _, _, inner⟩
  | standalone _ inner _ => exact ⟨_, _, _, _, inner⟩

/-! ## The parts of what is lowered -/

/-- The arguments of a call of a helper are lowered, but only the ends of a
range. -/
theorem isDerived_of_helper {callee : Expression} {arguments : List Expression}
    {returns : ReturnKind} {exported : String} {nameSpan span : Span}
    (called : calleeForm callee = .helper exported nameSpan)
    (derived :
      (Task.expression (.call callee arguments returns span)).IsDerived target) :
    ∀ argument ∈ if exported = Catalogue.rangeHelper then arguments.take 2
        else arguments,
      (Task.expression argument).IsDerived target := by
  obtain ⟨first, result, next, effect, derived⟩ := derived
  cases derived with
  | rangeCall range derived =>
      rw [called] at range
      cases range
      rw [if_pos rfl]
      cases derived with
      | range lower upper =>
          exact List.forall_mem_cons.mpr
            ⟨isDerived_of_bound ⟨_, _, _, _, lower⟩, List.forall_mem_singleton.mpr
              (isDerived_of_bound ⟨_, _, _, _, upper⟩)⟩
  | call helper other derived =>
      rw [called] at helper
      cases helper
      rw [if_neg other]
      cases derived with
      | helperCall base name values =>
          exact List.forall_mem_cons.mpr
            ⟨isDerived_of_path ⟨_, _, _, _, base⟩,
              isDerived_of_values ⟨_, _, _, _, values⟩⟩
  | methodCall _ _ _ => cases called

end Steps

end Lowering

namespace Script

open Lowering

namespace Node

/-- A node of a body is lowered.  Names and patterns are lowered with the nodes
that they belong to, and no function stands in a body. -/
def IsLowered (target : Target) : Node → Prop
  | .block body => (Passage.statements body.statements).IsDerived target
  | .statement source => (Passage.statement source).IsDerived target
  | .declaration declared => (Passage.declaration declared).IsDerived target
  | .expression source => (Task.expression source).IsDerived target
  | .propertyName key => (Task.propertyName key).IsDerived target
  | .member source => (Task.member source).IsDerived target
  | .parameter _ | .pattern _ | .identifier _ => True
  | .item _ | .function _ => False

variable {target : Target} {part : Node}

theorem isLowered_of_mem_map {Content : Type} {contents : List Content}
    {build : Content → Node}
    (lowered : ∀ content ∈ contents, (build content).IsLowered target)
    (member : part ∈ contents.map build) : part.IsLowered target := by
  obtain ⟨content, inContents, rfl⟩ := List.mem_map.mp member
  exact lowered content inContents

/-- The parts of a call of a helper are its arguments. -/
theorem parts_of_helper {callee : Expression} {arguments : List Expression}
    {returns : ReturnKind} {exported : String} {nameSpan span : Span}
    (called : calleeForm callee = .helper exported nameSpan) :
    (expression (.call callee arguments returns span)).parts =
      (if exported = Catalogue.rangeHelper then arguments.take 2
        else arguments).map .expression := by
  obtain ⟨named, moduleName, kind, rfl, bound⟩ := exists_binding_of_helper called
  simp only [parts, ofCallee, ofArguments, isRange, bound, List.nil_append,
    beq_iff_eq]

theorem isLowered_of_mem_parts_expression {source : Expression}
    (lowered : (Task.expression source).IsDerived target)
    (member : part ∈ (expression source).parts) : part.IsLowered target := by
  obtain ⟨first, result, next, effect, derived⟩ := id lowered
  cases derived with
  | identifier _ =>
      rw [List.mem_singleton.mp member]
      trivial
  | template inner =>
      obtain ⟨source, inParts, rfl⟩ := List.mem_map.mp member
      exact isDerived_of_parts ⟨_, _, _, _, inner⟩ source inParts
  | array inner =>
      exact isLowered_of_mem_map (isDerived_of_values ⟨_, _, _, _, inner⟩) member
  | object inner =>
      exact isLowered_of_mem_map (isDerived_of_members ⟨_, _, _, _, inner⟩) member
  | parenthesized inner | unary _ inner =>
      rw [List.mem_singleton.mp member]
      exact ⟨_, _, _, _, inner⟩
  | binary _ left right | assignment _ left right _ =>
      obtain rfl | rfl := eq_or_eq_of_mem_pair member
      · exact ⟨_, _, _, _, left⟩
      · exact ⟨_, _, _, _, right⟩
  | access base _ =>
      obtain rfl | rfl := eq_or_eq_of_mem_pair member
      · exact isDerived_of_path ⟨_, _, _, _, base⟩
      · trivial
  | index base subscript =>
      obtain rfl | rfl := eq_or_eq_of_mem_pair member
      · exact isDerived_of_path ⟨_, _, _, _, base⟩
      · exact isDerived_of_value ⟨_, _, _, _, subscript⟩
  | rangeCall called _ | call called _ _ =>
      rw [parts_of_helper called] at member
      exact isLowered_of_mem_map (isDerived_of_helper called lowered) member
  | methodCall base name values =>
      rcases List.mem_cons.mp member with rfl | passed
      · exact ⟨_, _, _, _, .access base name⟩
      · exact isLowered_of_mem_map (isDerived_of_values ⟨_, _, _, _, values⟩)
          passed
  | _ => cases member

theorem isLowered_of_mem_parts_statement {source : Statement}
    (lowered : (Passage.statement source).IsDerived target)
    (member : part ∈ (statement source).parts) : part.IsLowered target := by
  obtain ⟨first, result, next, effect, derived⟩ := lowered
  cases derived with
  | block inner =>
      rw [List.mem_singleton.mp member]
      exact ⟨_, _, _, _, inner⟩
  | evaluation inner =>
      rw [List.mem_singleton.mp member]
      exact isDerived_of_evaluation ⟨_, _, _, _, inner⟩
  | branching inner =>
      cases inner with
      | branch condition consequent others =>
          rcases List.mem_cons.mp member with rfl | later
          · exact ⟨_, _, _, _, condition⟩
          · rcases List.mem_cons.mp later with rfl | last
            · exact ⟨_, _, _, _, consequent⟩
            · obtain ⟨alternative, given, rfl⟩ := List.mem_map.mp last
              rw [Option.mem_toList.mp given] at others
              exact isDerived_of_alternative ⟨_, _, _, _, others⟩
  | looping pattern iterable body =>
      rcases List.mem_cons.mp member with rfl | later
      · trivial
      · obtain rfl | rfl := eq_or_eq_of_mem_pair later
        · exact isDerived_of_value ⟨_, _, _, _, iterable⟩
        · exact ⟨_, _, _, _, body⟩
  | returning inner =>
      cases inner with
      | noResult => cases member
      | result value =>
          rw [List.mem_singleton.mp member]
          exact isDerived_of_value ⟨_, _, _, _, value⟩
  | declaring inner =>
      exact isLowered_of_mem_map (isDerived_of_declarations ⟨_, _, _, _, inner⟩)
        member

/-- The parts of a node that is lowered are lowered. -/
theorem isLowered_of_mem_parts {node : Node} (lowered : node.IsLowered target)
    (member : part ∈ node.parts) : part.IsLowered target := by
  cases node with
  | block body => exact isLowered_of_mem_map (isDerived_of_statements lowered) member
  | statement source => exact isLowered_of_mem_parts_statement lowered member
  | expression source => exact isLowered_of_mem_parts_expression lowered member
  | declaration declared =>
      rcases List.mem_cons.mp member with rfl | initial
      · trivial
      · obtain ⟨first, result, next, effect, derived⟩ := lowered
        cases derived with
        | uninitialised absent =>
            rw [absent] at initial
            cases initial
        | initialised _ valued _ inner =>
            rw [valued] at initial
            rw [List.mem_singleton.mp initial]
            exact ⟨_, _, _, _, inner⟩
  | propertyName key =>
      cases key with
      | identifier named =>
          rw [List.mem_singleton.mp member]
          trivial
      | computed key span =>
          obtain ⟨first, result, next, effect, derived⟩ := lowered
          cases derived
      | _ => cases member
  | member source =>
      obtain ⟨first, result, next, effect, derived⟩ := lowered
      cases derived with
      | shorthand _ =>
          rw [List.mem_singleton.mp member]
          trivial
      | property key value =>
          obtain rfl | rfl := eq_or_eq_of_mem_pair member
          · exact ⟨_, _, _, _, key⟩
          · exact isDerived_of_value ⟨_, _, _, _, value⟩
  | parameter declared =>
      rw [List.mem_singleton.mp member]
      trivial
  | pattern bound =>
      cases bound with
      | identifier named =>
          rw [List.mem_singleton.mp member]
          trivial
      | array elements span | object properties span =>
          obtain ⟨name, inNames, rfl⟩ := List.mem_map.mp member
          trivial
  | identifier named => cases member
  | item source | function declared => exact lowered.elim

theorem Within.isLowered {whole node : Node} (within : whole.Within node)
    (lowered : whole.IsLowered target) : node.IsLowered target := by
  induction within with
  | self => exact lowered
  | part _ member nodeLowered => exact isLowered_of_mem_parts nodeLowered member

/-! ## What is reached at a node -/

/-- What the lowering reaches at a node and below it. -/
def reach : Node → Reach
  | .block body => reachOfStatements body.statements
  | .statement source => source.reach
  | .declaration declared => declared.reach
  | .expression source => source.reach
  | .member source => source.reach
  | _ => ∅

/-- What a node adds to what its parts reach. -/
def added : Node → Reach
  | .statement (.expression evaluated _) => { evaluated := [evaluated] }
  | .statement (.loop header _ _ _) => { declared := header.identifiers }
  | .declaration declared =>
      match declared.initial with
      | none => ∅
      | some _ => { declared := declared.name.identifiers }
  | .expression (.identifier named) => { mentioned := [named] }
  | .expression (.receiver span) => { receivers := [span] }
  | .expression (.template head parts _) =>
      { texts := head :: parts.map TemplatePart.literal }
  | .member (.shorthand named) => { mentioned := [named] }
  | _ => ∅

/-- The texts that a node adds are those of a template literal. -/
theorem mem_texts_added {node : Node} {text : String} :
    text ∈ node.added.texts ↔
      ∃ head parts span, node = .expression (.template head parts span) ∧
        (text = head ∨ ∃ part ∈ parts, part.literal = text) := by
  cases node with
  | expression source => cases source <;> simp [added, eq_comm, and_assoc]
  | statement source => cases source <;> simp [added]
  | declaration declared =>
      cases initial : declared.initial <;> simp [added, initial]
  | member source => cases source <;> simp [added]
  | _ => simp [added]

/-- The name that a node adds is an expression or a shorthand. -/
theorem mem_mentioned_added {node : Node} {named : Identifier} :
    named ∈ node.added.mentioned ↔
      node = .expression (.identifier named) ∨ node = .member (.shorthand named) := by
  cases node with
  | expression source => cases source <;> simp [added, eq_comm]
  | statement source => cases source <;> simp [added]
  | declaration declared =>
      cases initial : declared.initial <;> simp [added, initial]
  | member source => cases source <;> simp [added, eq_comm]
  | _ => simp [added]

/-- A list that is put together as what is reached is. -/
structure IsComponent {Found : Type} (component : Reach → List Found) : Prop where
  empty : component ∅ = []
  append : ∀ first second,
    component (first ++ second) = component first ++ component second

theorem isComponent_texts : IsComponent Reach.texts :=
  ⟨rfl, fun _ _ => rfl⟩

theorem isComponent_mentioned : IsComponent Reach.mentioned :=
  ⟨rfl, fun _ _ => rfl⟩

/-- What is reached at a call of a helper is what its arguments reach, but only
the ends of a range. -/
theorem reach_of_helper_eq {callee : Expression} {arguments : List Expression}
    {returns : ReturnKind} {exported : String} {nameSpan span : Span}
    (called : calleeForm callee = .helper exported nameSpan) :
    (Expression.call callee arguments returns span).reach =
      reachOfAll (if exported = Catalogue.rangeHelper then arguments.take 2
        else arguments) := by
  rw [reach_of_helper called]
  split
  · rcases arguments with _ | ⟨lowest, _ | ⟨highest, others⟩⟩
    · rfl
    · simp [reachOfBounds, reachOfAll]
    · simp [reachOfBounds, reachOfAll]
  · rfl

section Components

variable {Found : Type} {component : Reach → List Found} {found : Found}
variable (isComponent : IsComponent component)

include isComponent

theorem mem_component_append (first second : Reach) :
    found ∈ component (first ++ second) ↔
      found ∈ component first ∨ found ∈ component second := by
  rw [isComponent.append, List.mem_append]

theorem not_mem_component_empty : found ∉ component ∅ := by
  rw [isComponent.empty]
  exact List.not_mem_nil

/-- What is reached by going through a list is what its nodes reach. -/
theorem mem_component_iff_of_cons {Content : Type}
    (reachOf : List Content → Reach) (build : Content → Node)
    (nil : reachOf [] = ∅)
    (cons : ∀ first others,
      reachOf (first :: others) = (build first).reach ++ reachOf others)
    (contents : List Content) :
    found ∈ component (reachOf contents) ↔
      ∃ part ∈ contents.map build, found ∈ component part.reach := by
  induction contents with
  | nil => simp [nil, not_mem_component_empty isComponent]
  | cons first others inductionHypothesis =>
      rw [cons, mem_component_append isComponent, inductionHypothesis]
      simp

theorem mem_component_reachOfAll (sources : List Expression) :
    found ∈ component (reachOfAll sources) ↔
      ∃ part ∈ sources.map expression, found ∈ component part.reach :=
  mem_component_iff_of_cons isComponent reachOfAll expression rfl
    (fun _ _ => rfl) sources

theorem mem_component_reachOfParts (head : String) (parts : List TemplatePart) :
    found ∈ component (({ texts := [head] } : Reach) ++ reachOfParts parts) ↔
      found ∈ component { texts := head :: parts.map TemplatePart.literal } ∨
        ∃ part ∈ ofParts parts, found ∈ component part.reach := by
  have texts : ∀ first others, found ∈ component { texts := first :: others } ↔
      found ∈ component { texts := [first] } ∨
        found ∈ component { texts := others } := fun first others =>
    mem_component_append isComponent { texts := [first] } { texts := others }
  rw [mem_component_append isComponent, texts head (parts.map _), or_assoc]
  refine or_congr_right ?_
  induction parts with
  | nil =>
      have silent : found ∉ component { texts := [] } :=
        not_mem_component_empty isComponent
      simp [reachOfParts, ofParts, silent, not_mem_component_empty isComponent]
  | cons part others inductionHypothesis =>
      obtain ⟨source, literal⟩ := part
      rw [reachOfParts, TemplatePart.reach, mem_component_append isComponent,
        mem_component_append isComponent, inductionHypothesis, List.map_cons,
        texts _ (others.map _)]
      simp only [ofParts, List.map_cons, List.mem_cons, exists_eq_or_imp,
        TemplatePart.expression, TemplatePart.literal, reach]
      grind

theorem mem_component_reach_call {callee : Expression}
    {arguments : List Expression} {returns : ReturnKind} {span : Span}
    (lowered :
      (Task.expression (.call callee arguments returns span)).IsDerived target) :
    found ∈ component (Expression.call callee arguments returns span).reach ↔
      ∃ part ∈ (expression (.call callee arguments returns span)).parts,
        found ∈ component part.reach := by
  obtain ⟨first, result, next, effect, derived⟩ := lowered
  cases derived with
  | rangeCall called _ | call called _ _ =>
      rw [reach_of_helper_eq called, parts_of_helper called,
        mem_component_reachOfAll isComponent]
  | @methodCall object property arguments returns accessSpan span =>
      have parted : (expression (.call (.member object property false accessSpan)
          arguments returns span)).parts =
          expression (.member object property false accessSpan) ::
            arguments.map expression := rfl
      simp only [parted, List.mem_cons, exists_eq_or_imp,
        ← mem_component_reachOfAll isComponent]
      exact mem_component_append isComponent _ _

theorem mem_component_reach_expression {source : Expression}
    (lowered : (Task.expression source).IsDerived target) :
    found ∈ component source.reach ↔
      found ∈ component (expression source).added ∨
        ∃ part ∈ (expression source).parts, found ∈ component part.reach := by
  have silent : found ∉ component ∅ := not_mem_component_empty isComponent
  cases source with
  | template head parts span => exact mem_component_reachOfParts isComponent head parts
  | call callee arguments returns span =>
      rw [mem_component_reach_call isComponent lowered]
      exact (or_iff_right silent).symm
  | array elements span =>
      refine (mem_component_reachOfAll isComponent elements).trans ?_
      exact (or_iff_right silent).symm
  | object members span =>
      refine (mem_component_iff_of_cons isComponent reachOfMembers Node.member rfl
        (fun _ _ => rfl) members).trans ?_
      exact (or_iff_right silent).symm
  | _ =>
      simp [parts, children, Expression.children, reach, added, silent,
        Expression.reach, mem_component_append isComponent]

theorem mem_component_reach_statement {source : Statement}
    (lowered : (Passage.statement source).IsDerived target) :
    found ∈ component source.reach ↔
      found ∈ component (statement source).added ∨
        ∃ part ∈ (statement source).parts, found ∈ component part.reach := by
  have silent : found ∉ component ∅ := not_mem_component_empty isComponent
  cases source with
  | declarations keyword declared placement =>
      refine (mem_component_iff_of_cons isComponent reachOfDeclarations
        Node.declaration rfl (fun _ _ => rfl) declared).trans ?_
      exact (or_iff_right silent).symm
  | branch condition consequent alternative placement =>
      cases alternative <;>
        simp [parts, children, Statement.children, reach, added, silent,
          Statement.reach, mem_component_append isComponent, reachOfAlternative,
          or_assoc]
  | loop header iterable body placement =>
      obtain ⟨first, result, next, effect, derived⟩ := lowered
      cases derived
      simp [parts, ofLoopHeader, reach, added, silent, Statement.reach,
        mem_component_append isComponent, or_assoc]
  | result returned placement =>
      cases returned <;>
        simp [parts, children, Statement.children, reach, added, silent,
          Statement.reach, reachOfOption]
  | _ =>
      simp [parts, children, Statement.children, reach, added, silent,
        Statement.reach, mem_component_append isComponent]

/-- What is reached at a node that is lowered is what it adds and what its parts
reach. -/
theorem mem_component_reach_iff {node : Node} (lowered : node.IsLowered target) :
    found ∈ component node.reach ↔
      found ∈ component node.added ∨
        ∃ part ∈ node.parts, found ∈ component part.reach := by
  have silent : found ∉ component ∅ := not_mem_component_empty isComponent
  cases node with
  | block body =>
      refine (mem_component_iff_of_cons isComponent reachOfStatements
        Node.statement rfl (fun _ _ => rfl) body.statements).trans ?_
      exact (or_iff_right silent).symm
  | statement source => exact mem_component_reach_statement isComponent lowered
  | expression source => exact mem_component_reach_expression isComponent lowered
  | declaration declared =>
      obtain ⟨name, initial, span⟩ := declared
      cases initial <;>
        simp [parts, children, reach, added, silent, Declaration.reach,
          mem_component_append isComponent]
  | member source =>
      cases source <;>
        simp [parts, children, ObjectMember.children, reach, added, silent,
          ObjectMember.reach]
  | propertyName key =>
      obtain ⟨first, result, next, effect, derived⟩ := lowered
      cases derived <;>
        simp [parts, children, PropertyName.children, reach, added, silent]
  | parameter declared => simp [parts, children, reach, added, silent]
  | pattern bound =>
      cases bound <;>
        simp [parts, children, BindingName.children, ofElements, reach, added,
          silent]
  | identifier named => simp [parts, children, reach, added, silent]
  | item source | function declared => exact lowered.elim

/-- What is reached at a node that is lowered is what the nodes within it add. -/
theorem mem_component_reach_iff_exists_within {whole : Node}
    (lowered : whole.IsLowered target) :
    found ∈ component whole.reach ↔
      ∃ node, whole.Within node ∧ found ∈ component node.added :=
  mem_iff_exists_within whole fun _ within _ =>
    mem_component_reach_iff isComponent (within.isLowered lowered)

end Components

end Node

end Script

end VelocityScript
