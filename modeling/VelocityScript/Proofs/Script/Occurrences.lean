import VelocityScript.Proofs.Script.Nodes
import VelocityScript.Proofs.Script.Reading

/-!
# What occurs in a function

The parts of a node are the nodes right below it that are translated: not the
name in a call of a name, and of the arguments of a range only the first two.
What is within a node is reached from it by going from a node to one of its
parts.  What a walk over parts collects is what stands in a node within the one
that the walk starts at.
-/

namespace VelocityScript.Script

/-- Whether a call of an expression makes a range. -/
def isRange : Expression → Bool
  | .identifier named =>
      match named.binding with
      | .helper _ exported _ => exported == Catalogue.rangeHelper
      | _ => false
  | _ => false

/-- The text after the expression. -/
def TemplatePart.literal : TemplatePart → String
  | .mk _ literal => literal

namespace Node

/-- The callee of a call, unless it is a name. -/
def ofCallee : Expression → List Node
  | .identifier _ => []
  | callee => [.expression callee]

/-- The arguments of a call, but only the ends of a range. -/
def ofArguments (callee : Expression) (arguments : List Expression) : List Node :=
  (if isRange callee then arguments.take 2 else arguments).map .expression

/-- The names that a loop declares, or the expression that it assigns to. -/
def ofLoopHeader : LoopHeader → Node
  | .declaration declared => .pattern declared.name
  | .expression assigned => .expression assigned

/-- The nodes right below a node that are translated.  The name in a call of a
name is not among them, and neither are the arguments of a range after the second
one. -/
def parts : Node → List Node
  | .expression (.call callee arguments _ _) =>
      ofCallee callee ++ ofArguments callee arguments
  | .statement (.loop header iterable body _) =>
      [ofLoopHeader header, .expression iterable, .statement body]
  | node => node.children

/-- A node is within another one if it is reached by going to parts. -/
inductive Within (whole : Node) : Node → Prop
  | self : Within whole whole
  | part {node part : Node} :
      Within whole node → part ∈ node.parts → Within whole part

theorem Within.of_part {whole part node : Node} (member : part ∈ whole.parts)
    (within : part.Within node) : whole.Within node := by
  induction within with
  | self => exact .part .self member
  | part _ inner wholeWithin => exact .part wholeWithin inner

/-! ## Parts are smaller -/

section Sizes

variable {node part : Node}

theorem eq_or_eq_of_mem_pair {first second : Node} (member : part ∈ [first, second]) :
    part = first ∨ part = second := by
  rwa [List.mem_cons, List.mem_singleton] at member

theorem sizeOf_lt_of_mem_map {Content : Type} [SizeOf Content]
    {contents : List Content} {build : Content → Node}
    (built : ∀ content, sizeOf (build content) = 1 + sizeOf content)
    (member : part ∈ contents.map build) :
    sizeOf part < 1 + sizeOf contents := by
  obtain ⟨content, inContents, rfl⟩ := List.mem_map.mp member
  have smaller := List.sizeOf_lt_of_mem inContents
  rw [built]
  omega

theorem sizeOf_lt_of_mem_toList {Content : Type} [SizeOf Content]
    {content : Option Content} {build : Content → Node}
    (built : ∀ content, sizeOf (build content) = 1 + sizeOf content)
    (member : part ∈ content.toList.map build) :
    sizeOf part < 1 + sizeOf content := by
  cases content with
  | none => cases member
  | some content =>
      rw [List.mem_singleton.mp member, built]
      simp

theorem sizeOf_lt_of_mem_ofParts {parts : List TemplatePart}
    (member : part ∈ ofParts parts) : sizeOf part < 1 + sizeOf parts := by
  obtain ⟨source, inParts, rfl⟩ := List.mem_map.mp member
  have smaller := List.sizeOf_lt_of_mem inParts
  cases source
  simp only [TemplatePart.expression, expression.sizeOf_spec,
    TemplatePart.mk.sizeOf_spec] at smaller ⊢
  omega

theorem sizeOf_lt_of_mem_ofElements {elements : List BindingElement}
    (member : part ∈ ofElements elements) :
    sizeOf part < 1 + sizeOf elements := by
  obtain ⟨name, inNames, rfl⟩ := List.mem_map.mp member
  obtain ⟨element, inElements, bound⟩ := List.mem_filterMap.mp inNames
  have smaller := List.sizeOf_lt_of_mem inElements
  cases element with
  | hole => cases bound
  | bound found =>
      cases bound
      simp only [pattern.sizeOf_spec, BindingElement.bound.sizeOf_spec] at smaller ⊢
      omega

theorem sizeOf_lt_of_mem_ofArguments {callee : Expression}
    {arguments : List Expression} (member : part ∈ ofArguments callee arguments) :
    sizeOf part < 1 + sizeOf arguments := by
  have among : part ∈ arguments.map expression := by
    unfold ofArguments at member
    split at member
    · obtain ⟨argument, taken, rfl⟩ := List.mem_map.mp member
      exact List.mem_map_of_mem (List.mem_of_mem_take taken)
    · exact member
  exact sizeOf_lt_of_mem_map expression.sizeOf_spec among

theorem sizeOf_lt_of_mem_parts_expression {source : Expression}
    (member : part ∈ (expression source).parts) :
    sizeOf part < sizeOf (expression source) := by
  cases source with
  | template head parts span =>
      have smaller := sizeOf_lt_of_mem_ofParts member
      simp only [expression.sizeOf_spec, Expression.template.sizeOf_spec]
      omega
  | array elements span =>
      have smaller := sizeOf_lt_of_mem_map expression.sizeOf_spec member
      simp only [expression.sizeOf_spec, Expression.array.sizeOf_spec]
      omega
  | object members span =>
      have smaller := sizeOf_lt_of_mem_map Node.member.sizeOf_spec member
      simp only [expression.sizeOf_spec, Expression.object.sizeOf_spec]
      omega
  | call callee arguments returns span =>
      rcases List.mem_append.mp member with called | passed
      · unfold ofCallee at called
        split at called
        · cases called
        · rw [List.mem_singleton.mp called]
          simp
          omega
      · have smaller := sizeOf_lt_of_mem_ofArguments passed
        simp only [expression.sizeOf_spec, Expression.call.sizeOf_spec]
        omega
  | identifier named =>
      rw [List.mem_singleton.mp member]
      simp
  | parenthesized _ _ | unary _ _ _ =>
      rw [List.mem_singleton.mp member]
      simp
      omega
  | binary _ _ _ _ | assignment _ _ _ _ | member _ _ _ _ | index _ _ _ =>
      obtain rfl | rfl := eq_or_eq_of_mem_pair member <;> simp <;> omega
  | _ => cases member

theorem sizeOf_lt_of_mem_parts_statement {source : Statement}
    (member : part ∈ (statement source).parts) :
    sizeOf part < sizeOf (statement source) := by
  cases source with
  | block statements placement =>
      rw [List.mem_singleton.mp member]
      cases placement
      simp
      omega
  | expression evaluated placement =>
      rw [List.mem_singleton.mp member]
      simp
      omega
  | branch condition consequent alternative placement =>
      rcases List.mem_cons.mp member with rfl | later
      · simp
        omega
      · rcases List.mem_cons.mp later with rfl | last
        · simp
          omega
        · have smaller := sizeOf_lt_of_mem_toList statement.sizeOf_spec last
          simp only [statement.sizeOf_spec, Statement.branch.sizeOf_spec]
          omega
  | loop header iterable body placement =>
      rcases List.mem_cons.mp member with rfl | later
      · cases header with
        | declaration declared =>
            cases declared
            simp [ofLoopHeader]
            omega
        | expression assigned =>
            simp [ofLoopHeader]
            omega
      · obtain rfl | rfl := eq_or_eq_of_mem_pair later <;> simp <;> omega
  | result returned placement =>
      have smaller := sizeOf_lt_of_mem_toList expression.sizeOf_spec member
      simp only [statement.sizeOf_spec, Statement.result.sizeOf_spec]
      omega
  | declarations keyword declared placement =>
      have smaller := sizeOf_lt_of_mem_map declaration.sizeOf_spec member
      simp only [statement.sizeOf_spec, Statement.declarations.sizeOf_spec]
      omega
  | other kind placement => cases member

theorem sizeOf_lt_of_mem_parts {node : Node} (member : part ∈ node.parts) :
    sizeOf part < sizeOf node := by
  cases node with
  | item source =>
      cases source with
      | imports _ | typeDeclaration _ => cases member
      | function _ | statement _ =>
          rw [List.mem_singleton.mp member]
          simp
  | function declared =>
      obtain ⟨name, modifiers, parameters, body, isGenerator, span⟩ := declared
      rcases List.mem_append.mp member with earlier | inBody
      · rcases List.mem_append.mp earlier with inName | inParameters
        · have smaller := sizeOf_lt_of_mem_toList identifier.sizeOf_spec inName
          simp at smaller ⊢
          omega
        · have smaller := sizeOf_lt_of_mem_map parameter.sizeOf_spec inParameters
          simp at smaller ⊢
          omega
      · have smaller := sizeOf_lt_of_mem_toList block.sizeOf_spec inBody
        simp at smaller ⊢
        omega
  | parameter declared =>
      rw [List.mem_singleton.mp member]
      cases declared
      simp
      omega
  | block body =>
      have smaller := sizeOf_lt_of_mem_map statement.sizeOf_spec member
      cases body
      simp at smaller ⊢
      omega
  | statement source => exact sizeOf_lt_of_mem_parts_statement member
  | declaration declared =>
      obtain ⟨name, initial, span⟩ := declared
      rcases List.mem_cons.mp member with rfl | later
      · simp
        omega
      · have smaller := sizeOf_lt_of_mem_toList expression.sizeOf_spec later
        simp at smaller ⊢
        omega
  | pattern bound =>
      cases bound with
      | identifier named =>
          rw [List.mem_singleton.mp member]
          simp
      | array elements span =>
          have smaller := sizeOf_lt_of_mem_ofElements member
          simp
          omega
      | object properties span =>
          have smaller := sizeOf_lt_of_mem_map pattern.sizeOf_spec member
          simp
          omega
  | identifier named => cases member
  | expression source => exact sizeOf_lt_of_mem_parts_expression member
  | propertyName name =>
      cases name with
      | identifier named =>
          rw [List.mem_singleton.mp member]
          simp
      | computed key span =>
          rw [List.mem_singleton.mp member]
          simp
          omega
      | _ => cases member
  | member source =>
      cases source with
      | shorthand named =>
          rw [List.mem_singleton.mp member]
          simp
      | property name value span =>
          obtain rfl | rfl := eq_or_eq_of_mem_pair member <;> simp <;> omega
      | other kind span => cases member

end Sizes

/-! ## Walks over parts -/

section Walks

variable {Found : Type} {collect own : Node → List Found} {found : Found}

/-- What a walk collects at a node is what stands in the nodes within it, if it
goes on to the parts of all of them. -/
theorem mem_iff_exists_within (whole : Node)
    (walks : ∀ node, whole.Within node → ∀ found,
      found ∈ collect node ↔
        found ∈ own node ∨ ∃ part ∈ node.parts, found ∈ collect part) :
    found ∈ collect whole ↔ ∃ node, whole.Within node ∧ found ∈ own node := by
  constructor
  · intro collected
    -- A part is smaller than the node it belongs to.
    induction bounded : sizeOf whole using Nat.strongRecOn generalizing whole with
    | _ size smaller =>
        subst bounded
        rcases (walks whole .self found).mp collected with
          here | ⟨part, member, below⟩
        · exact ⟨whole, .self, here⟩
        · obtain ⟨node, within, owned⟩ := smaller _ (sizeOf_lt_of_mem_parts member)
            part (fun node within => walks node (within.of_part member)) below rfl
          exact ⟨node, within.of_part member, owned⟩
  · rintro ⟨node, within, owned⟩
    have kept : ∀ found, found ∈ collect node → found ∈ collect whole := by
      clear owned
      induction within with
      | self => exact fun _ collected => collected
      | part inner member kept =>
          intro found collected
          exact kept found ((walks _ inner found).mpr (.inr ⟨_, member, collected⟩))
    exact kept found ((walks node within found).mpr (.inl owned))

end Walks

end Node

/-! ## Loop headers -/

/-- What a loop declares has no initial value, so of its declaration the names are
all there is. -/
theorem Grammar.loopHeader?_initial_eq_none (nested : Nested) :
    Parser.Gives (Grammar.loopHeader? nested) fun header =>
      ∀ declared, header = some (.declaration declared) →
        declared.initial = none := by
  refine Parser.gives_bind fun cursor => Parser.gives_ite ?_ (Parser.gives_ite ?_ ?_)
  · refine Parser.gives_bind fun _ => Parser.gives_bind fun start =>
      Parser.gives_bind fun name => Parser.gives_bind fun typed =>
        Parser.gives_when (Parser.gives_bind fun span => Parser.gives_pure ?_)
    rintro _ ⟨⟩
    rfl
  · exact Parser.gives_pure nofun
  · refine Parser.gives_bind fun assigned => Parser.gives_pure ?_
    rintro _ ⟨⟩

end VelocityScript.Script
