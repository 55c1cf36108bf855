import VelocityScript.Proofs.Lowering.Reach
import VelocityScript.Script.Scope

/-!
# What resolved names stand for

A name stands for what the scope says in which it is resolved.  Declaring names
hides them and changes nothing else.
-/

namespace VelocityScript.Script

namespace Scope

variable {name : String} {binding : Binding}

@[simp]
theorem lookup_cons (scope : Scope) (declared : String × Binding) :
    lookup (declared :: scope) name =
      if name = declared.1 then declared.2 else scope.lookup name := by
  unfold lookup
  rw [List.lookup_cons]
  by_cases same : name = declared.1
  · rw [if_pos same, beq_iff_eq.mpr same]
    rfl
  · rw [if_neg same, beq_eq_false_iff_ne.mpr same]

theorem lookup_declare_of_not_mem {names : List String} (free : name ∉ names)
    (scope : Scope) :
    (scope.declare names binding).lookup name = scope.lookup name := by
  unfold declare
  induction names generalizing scope with
  | nil => rfl
  | cons first others inductionHypothesis =>
      rw [List.mem_cons, not_or] at free
      rw [List.foldl_cons, inductionHypothesis free.2, lookup_cons,
        if_neg free.1]

theorem lookup_declare_of_mem {names : List String} (member : name ∈ names)
    (scope : Scope) : (scope.declare names binding).lookup name = binding := by
  induction names generalizing scope with
  | nil => cases member
  | cons first others inductionHypothesis =>
      by_cases later : name ∈ others
      · exact inductionHypothesis later ((first, binding) :: scope)
      · have same : name = first := (List.mem_cons.mp member).resolve_right later
        calc (scope.declare (first :: others) binding).lookup name
            = lookup ((first, binding) :: scope) name :=
              lookup_declare_of_not_mem later ((first, binding) :: scope)
          _ = binding := by rw [lookup_cons, if_pos same]

theorem lookup_enter_of_not_mem {statements : List Statement}
    (free : name ∉ statements.flatMap Statement.blockNames) (scope : Scope) :
    (scope.enter statements).lookup name = scope.lookup name :=
  lookup_declare_of_not_mem free scope

end Scope

/-- The names that a loop header declares. -/
def LoopHeader.boundNames : LoopHeader → List String
  | .declaration declared => declared.name.names
  | .expression _ => []

theorem LoopHeader.declare_eq (scope : Scope) (header : LoopHeader) :
    header.declare scope = scope.declare header.boundNames .variableName := by
  cases header <;> rfl

/-- All names that are reached stand for what a scope says. -/
def Reach.BoundIn (scope : Scope) (reach : Reach) : Prop :=
  ∀ named ∈ reach.mentioned, named.binding = scope.lookup named.name

variable {scope : Scope}

theorem Reach.BoundIn.append {first second : Reach} (firstBound : first.BoundIn scope)
    (secondBound : second.BoundIn scope) : (first ++ second).BoundIn scope := by
  intro named mentioned
  rcases List.mem_append.mp mentioned with earlier | later
  · exact firstBound named earlier
  · exact secondBound named later

theorem Reach.boundIn_of_mentioned_eq_nil {reach : Reach}
    (none : reach.mentioned = []) : reach.BoundIn scope := by
  intro named mentioned
  rw [none] at mentioned
  cases mentioned

theorem boundIn_resolve_identifier (named : Identifier) :
    ({ mentioned := [named.resolve scope] } : Reach).BoundIn scope := by
  intro found mentioned
  rw [List.mem_singleton.mp mentioned]
  rfl

mutual

theorem boundIn_resolve :
    ∀ source : Expression, (source.resolve scope).reach.BoundIn scope
  | .identifier named => boundIn_resolve_identifier named
  | .receiver _ => Reach.boundIn_of_mentioned_eq_nil rfl
  | .number _ _ => Reach.boundIn_of_mentioned_eq_nil rfl
  | .string _ _ => Reach.boundIn_of_mentioned_eq_nil rfl
  | .boolean _ _ => Reach.boundIn_of_mentioned_eq_nil rfl
  | .template _ parts _ =>
      (Reach.boundIn_of_mentioned_eq_nil rfl).append (boundIn_resolveParts parts)
  | .array elements _ => boundIn_resolveExpressions elements
  | .object members _ => boundIn_resolveMembers members
  | .parenthesized inner _ => boundIn_resolve inner
  | .unary _ operand _ => boundIn_resolve operand
  | .binary _ left right _ => (boundIn_resolve left).append (boundIn_resolve right)
  | .assignment _ place value _ =>
      (boundIn_resolve place).append (boundIn_resolve value)
  | .member object _ _ _ => boundIn_resolve object
  | .index object subscript _ =>
      (boundIn_resolve object).append (boundIn_resolve subscript)
  | .call callee arguments _ _ => by
      have calleeBound : (callee.resolve scope).reach.BoundIn scope :=
        boundIn_resolve callee
      have allBound := boundIn_resolveExpressions arguments
      have boundsBound := boundIn_resolveBounds arguments
      simp only [Expression.resolve, Expression.reach]
      split
      · split
        · exact boundsBound
        · exact allBound
      · exact calleeBound.append allBound
  | .other _ _ => Reach.boundIn_of_mentioned_eq_nil rfl

theorem boundIn_resolveExpressions :
    ∀ sources : List Expression,
      (reachOfAll (resolveExpressions scope sources)).BoundIn scope
  | [] => Reach.boundIn_of_mentioned_eq_nil rfl
  | source :: others =>
      (boundIn_resolve source).append (boundIn_resolveExpressions others)

theorem boundIn_resolveBounds :
    ∀ sources : List Expression,
      (reachOfBounds (resolveExpressions scope sources)).BoundIn scope
  | [] => Reach.boundIn_of_mentioned_eq_nil rfl
  | [lowest] => boundIn_resolve lowest
  | lowest :: highest :: _ =>
      (boundIn_resolve lowest).append (boundIn_resolve highest)

theorem boundIn_resolveParts :
    ∀ parts : List TemplatePart,
      (reachOfParts (resolveParts scope parts)).BoundIn scope
  | [] => Reach.boundIn_of_mentioned_eq_nil rfl
  | .mk source _ :: others =>
      ((boundIn_resolve source).append
        (Reach.boundIn_of_mentioned_eq_nil rfl)).append
          (boundIn_resolveParts others)

theorem boundIn_resolveMembers :
    ∀ members : List ObjectMember,
      (reachOfMembers (resolveMembers scope members)).BoundIn scope
  | [] => Reach.boundIn_of_mentioned_eq_nil rfl
  | .shorthand named :: others =>
      (boundIn_resolve_identifier named).append (boundIn_resolveMembers others)
  | .property _ value _ :: others =>
      (boundIn_resolve value).append (boundIn_resolveMembers others)
  | .other _ _ :: others =>
      (Reach.boundIn_of_mentioned_eq_nil rfl).append
        (boundIn_resolveMembers others)

end

theorem boundIn_resolveDeclarations :
    ∀ declared : List Declaration,
      (reachOfDeclarations (declared.map (Declaration.resolve scope))).BoundIn
        scope
  | [] => Reach.boundIn_of_mentioned_eq_nil rfl
  | declaration :: others => by
      refine Reach.BoundIn.append ?_ (boundIn_resolveDeclarations others)
      unfold Declaration.reach Declaration.resolve
      cases declaration.initial with
      | none => exact Reach.boundIn_of_mentioned_eq_nil rfl
      | some initial =>
          exact (Reach.boundIn_of_mentioned_eq_nil rfl).append
            (boundIn_resolve initial)

theorem boundIn_resolve_option (returned : Option Expression) :
    (reachOfOption (returned.map (Expression.resolve scope))).BoundIn scope := by
  cases returned with
  | none => exact Reach.boundIn_of_mentioned_eq_nil rfl
  | some source => exact boundIn_resolve source

end VelocityScript.Script
