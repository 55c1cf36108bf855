import VelocityScript.Proofs.Lowering.Derivation
import VelocityScript.Proofs.Template.Flow

/-!
# Expressions that need no directives

Lowering an expression collects directives for two reasons: an assignment, and
an operand that the template language cannot hold where it stands, so that it
goes through a temporary.  `isDirect` reads off an expression that neither
occurs, and a derivation collects no directive exactly for these expressions.
-/

namespace VelocityScript.Lowering

open Script

/-- Whether an expression is lowered to a literal or a reference. -/
def isValue : Expression → Bool
  | .parenthesized _ _ | .unary _ _ _ | .binary _ _ _ _ => false
  | _ => true

/-- Whether a call with the given callee makes a range. -/
def makesRange (callee : Expression) : Bool :=
  match calleeForm callee with
  | .helper exported _ => exported == Catalogue.rangeHelper
  | _ => false

/-- Whether an expression is lowered to a path, which accesses and calls can
extend. -/
def isPath : Expression → Bool
  | .identifier _ | .receiver _ | .member _ _ _ _ | .index _ _ _ => true
  | .call callee _ _ _ => !makesRange callee
  | _ => false

mutual

/-- Whether an expression is lowered without directives. -/
def isDirect : Expression → Bool
  | .template _ parts _ => arePartsDirect parts
  | .array elements _ => areDirectValues elements
  | .object members _ => areMembersDirect members
  | .parenthesized inner _ => isDirect inner
  | .unary _ operand _ => isDirect operand
  | .binary _ left right _ => isDirect left && isDirect right
  | .assignment _ _ _ _ => false
  | .member object _ _ _ => isPath object && isDirect object
  | .index object subscript _ =>
      isPath object && isDirect object &&
        (isValue subscript && isDirect subscript)
  | .call callee arguments _ _ =>
      match calleeForm callee with
      | .helper exported _ =>
          if exported = Catalogue.rangeHelper then
            areDirectBounds arguments
          else
            areDirectOperands arguments
      | _ => isDirect callee && areDirectValues arguments
  | _ => true

/-- Whether all expressions are lowered without directives where values are
needed. -/
def areDirectValues : List Expression → Bool
  | [] => true
  | expression :: others =>
      isValue expression && isDirect expression && areDirectValues others

/-- Whether the ends of a range are lowered without directives. -/
def areDirectBounds : List Expression → Bool
  | first :: last :: _ =>
      isValue first && isDirect first && (isValue last && isDirect last)
  | _ => true

/-- Whether the arguments of a helper are lowered without directives: the first
one is the receiver. -/
def areDirectOperands : List Expression → Bool
  | [] => true
  | receiver :: others =>
      isPath receiver && isDirect receiver && areDirectValues others

def isPartDirect : TemplatePart → Bool
  | .mk expression _ => isValue expression && isDirect expression

def arePartsDirect : List TemplatePart → Bool
  | [] => true
  | part :: others => isPartDirect part && arePartsDirect others

def isMemberDirect : ObjectMember → Bool
  | .property _ value _ => isValue value && isDirect value
  | _ => true

def areMembersDirect : List ObjectMember → Bool
  | [] => true
  | member :: others => isMemberDirect member && areMembersDirect others

end

/-- Whether a step collects no directives. -/
def Task.isDirect : Task → Bool
  | .name _ _ | .identifier _ | .number _ _ | .propertyName _ => true
  | .expression source => Lowering.isDirect source
  | .value source | .bound _ source =>
      isValue source && Lowering.isDirect source
  | .path source => isPath source && Lowering.isDirect source
  | .values sources => areDirectValues sources
  | .part source => isPartDirect source
  | .parts sources => arePartsDirect sources
  | .member source => isMemberDirect source
  | .members sources => areMembersDirect sources
  | .range _ arguments => areDirectBounds arguments
  | .helperCall _ _ _ arguments => areDirectOperands arguments

variable {target : Target} {first next : Nat} {effect : Effect}

/-! ## Values and paths -/

theorem makesRange_of_helper {callee : Expression} {exported : String}
    {span : Span} (form : calleeForm callee = .helper exported span) :
    makesRange callee = (exported == Catalogue.rangeHelper) := by
  rw [makesRange, form]

/-- What an expression is lowered to can be read off the expression: whether it
is a value, and whether it is a path. -/
theorem Derives.shape {source : Expression} {result : Template.Expression}
    (derived : Derives target (.expression source) first result next effect) :
    result.value?.isSome = isValue source ∧
      result.path?.isSome = isPath source := by
  cases derived with
  | identifier derived => cases derived <;> exact ⟨rfl, rfl⟩
  | rangeCall form derived =>
      cases derived
      simp [Template.Expression.value?, Template.Expression.path?, isValue,
        isPath, makesRange_of_helper form]
  | call form notRange derived =>
      cases derived
      simp [Template.Expression.value?, Template.Expression.path?, isValue,
        isPath, makesRange_of_helper form, notRange]
  | _ => exact ⟨rfl, rfl⟩

theorem Derives.isValue_eq {source : Expression}
    {result : Template.Expression}
    (derived : Derives target (.expression source) first result next effect) :
    isValue source = result.value?.isSome :=
  derived.shape.1.symm

theorem Derives.isPath_eq {source : Expression} {result : Template.Expression}
    (derived : Derives target (.expression source) first result next effect) :
    isPath source = result.path?.isSome :=
  derived.shape.2.symm

/-! ## Directives -/

theorem areIdle_append_hoisted (before after : Effect) :
    Template.areIdle (before ++ after).hoisted =
      (Template.areIdle before.hoisted && Template.areIdle after.hoisted) := by
  rw [Effect.append_hoisted, Template.areIdle_append]

/-- The directives that a derivation collects can be told from its step: there
are none exactly where the step is direct. -/
theorem Derives.areIdle_hoisted {task : Task} {result : task.Result}
    (derived : Derives target task first result next effect) :
    Template.areIdle effect.hoisted = task.isDirect := by
  induction derived with
  | variableName _ _ nameDirect =>
      rw [areIdle_append_hoisted, naming_hoisted, nameDirect]
      rfl
  | template _ partsDirect =>
      rw [areIdle_append_hoisted, escaping_hoisted, partsDirect]
      rfl
  | binary _ _ _ leftDirect rightDirect =>
      rw [areIdle_append_hoisted, leftDirect, rightDirect]
      rfl
  | assignment _ _ _ _ _ _ =>
      rw [areIdle_append_hoisted]
      exact Bool.and_false _
  | access _ _ objectDirect nameDirect =>
      rw [areIdle_append_hoisted, objectDirect, nameDirect]
      exact Bool.and_true _
  | index _ _ objectDirect subscriptDirect =>
      rw [areIdle_append_hoisted, objectDirect, subscriptDirect]
      rfl
  | rangeCall form _ rangeDirect =>
      rw [rangeDirect]
      simp only [Task.isDirect, isDirect, form, if_true]
  | call form notRange _ callDirect =>
      rw [callDirect]
      simp only [Task.isDirect, isDirect, form, notRange, if_false]
  | methodCall _ _ _ objectDirect nameDirect argumentsDirect =>
      rw [areIdle_append_hoisted, areIdle_append_hoisted, objectDirect,
        nameDirect, argumentsDirect]
      simp only [Task.isDirect, isDirect, calleeForm, Bool.and_true]
  | kept derived found sourceDirect =>
      simp only [sourceDirect, Task.isDirect, derived.isValue_eq, found,
        Option.isSome_some, Bool.true_and]
  | hoisted derived absent _ =>
      rw [areIdle_append_hoisted, Task.isDirect, derived.isValue_eq, absent]
      exact Bool.and_false _
  | keptPath derived found sourceDirect =>
      simp only [sourceDirect, Task.isDirect, derived.isPath_eq, found,
        Option.isSome_some, Bool.true_and]
  | hoistedPath derived absent _ =>
      rw [areIdle_append_hoisted, Task.isDirect, derived.isPath_eq, absent]
      exact Bool.and_false _
  | moreValues _ _ valueDirect othersDirect =>
      rw [areIdle_append_hoisted, valueDirect, othersDirect]
      rfl
  | part _ valueDirect =>
      rw [areIdle_append_hoisted, valueDirect, escaping_hoisted]
      exact Bool.and_true _
  | moreParts _ _ partDirect othersDirect =>
      rw [areIdle_append_hoisted, partDirect, othersDirect]
      rfl
  | property _ _ keyDirect valueDirect =>
      rw [areIdle_append_hoisted, keyDirect, valueDirect]
      rfl
  | moreMembers _ _ memberDirect othersDirect =>
      rw [areIdle_append_hoisted, memberDirect, othersDirect]
      rfl
  | range _ _ lowestDirect highestDirect =>
      rw [areIdle_append_hoisted, lowestDirect, highestDirect]
      rfl
  | helperCall _ _ _ receiverDirect nameDirect othersDirect =>
      rw [areIdle_append_hoisted, areIdle_append_hoisted, receiverDirect,
        nameDirect, othersDirect]
      simp only [Task.isDirect, areDirectOperands, Bool.and_true]
  | _ => first | rfl | assumption

end VelocityScript.Lowering
