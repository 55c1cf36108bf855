import VelocityScript.Proofs.Script.Meaning

/-!
# Expressions that assign variables

Expressions of variables, numbers, lists, parentheses, `+`, `&&` and `=` are
executed from left to right in an environment, and `&&` leaves its right operand
out when the left one decides.
-/

namespace VelocityScript.Script

open Template (Interpretation)

/-- What tells a variable from others: its name and what it stands for. -/
structure Variable where
  name : String
  binding : Binding
  deriving DecidableEq

/-- The variable that a name refers to. -/
def Identifier.toVariable (named : Identifier) : Variable :=
  ⟨named.name, named.binding⟩

/-- What the variables of a script hold. -/
abbrev Environment (Datum : Type) := Variable → Datum

/-- When the left operand of `&&` decides the value by itself, and what the
value then is. -/
structure ShortCircuit {Datum : Type} (interpretation : Interpretation Datum)
    where
  truthy : Datum → Bool
  refused : Datum → Datum
  and_of_not_truthy : ∀ left right, truthy left = false →
    interpretation.binary .and left right = refused left

section Execution

variable {Datum : Type} {interpretation : Interpretation Datum}
  (shortCircuit : ShortCircuit interpretation)

mutual

/-- The value of an expression, and the environment after it. -/
def Expression.execute : Expression → Environment Datum →
    Option (Datum × Environment Datum)
  | .identifier named, environment =>
      some (environment named.toVariable, environment)
  | .number text _, environment =>
      (numericLiteral? text).map fun value =>
        (interpretation.number value, environment)
  | .array elements _, environment =>
      (executeAll elements environment).map fun (data, after) =>
        (interpretation.list data, after)
  | .parenthesized inner _, environment => inner.execute environment
  | .binary .add left right _, environment =>
      (left.execute environment).bind fun (left, middle) =>
        (right.execute middle).map fun (right, after) =>
          (interpretation.binary .plus left right, after)
  | .binary .and left right _, environment =>
      (left.execute environment).bind fun (left, middle) =>
        if shortCircuit.truthy left then
          (right.execute middle).map fun (right, after) =>
            (interpretation.binary .and left right, after)
        else
          some (shortCircuit.refused left, middle)
  | .assignment .assign (.identifier named) value _, environment =>
      (value.execute environment).map fun (datum, after) =>
        (datum, Function.update after named.toVariable datum)
  | _, _ => none

/-- The values of several expressions, one after the other. -/
def executeAll : List Expression → Environment Datum →
    Option (List Datum × Environment Datum)
  | [], environment => some ([], environment)
  | source :: others, environment =>
      (source.execute environment).bind fun (datum, middle) =>
        (executeAll others middle).map fun (data, after) =>
          (datum :: data, after)

end

end Execution

mutual

/-- Whether an expression is built from variables, numbers, lists, parentheses,
`+`, `&&` and plain assignments to variables. -/
def Expression.isElementary : Expression → Bool
  | .identifier _ | .number _ _ => true
  | .array elements _ => allElementary elements
  | .parenthesized inner _ => inner.isElementary
  | .binary .add left right _ | .binary .and left right _ =>
      left.isElementary && right.isElementary
  | .assignment .assign (.identifier _) value _ => value.isElementary
  | _ => false

def allElementary : List Expression → Bool
  | [] => true
  | source :: others => source.isElementary && allElementary others

end

mutual

def Expression.assigned : Expression → List Variable
  | .array elements _ => assignedByAll elements
  | .parenthesized inner _ => inner.assigned
  | .binary _ left right _ => left.assigned ++ right.assigned
  | .assignment _ (.identifier named) value _ =>
      value.assigned ++ [named.toVariable]
  | _ => []

def assignedByAll : List Expression → List Variable
  | [] => []
  | source :: others => source.assigned ++ assignedByAll others

end

/-- Whether the value of an expression is taken at once where a list needs
it. -/
def Expression.isTaken : Expression → Bool
  | .parenthesized _ _ | .binary _ _ _ _ => true
  | _ => false

mutual

/-- The variables whose values count when the value of an expression is needed,
and not already where it stands.  An assignment stands for its variable. -/
def Expression.exposed : Expression → List Variable
  | .identifier named => [named.toVariable]
  | .array elements _ => exposedByAll elements
  | .parenthesized inner _ => inner.exposed
  | .binary _ left right _ => left.exposed ++ right.exposed
  | .assignment _ (.identifier named) _ _ => [named.toVariable]
  | _ => []

def exposedByAll : List Expression → List Variable
  | [] => []
  | source :: others =>
      (if source.isTaken then [] else source.exposed) ++ exposedByAll others

end

/-- Whether none of the variables that are read is written. -/
def apart (read written : List Variable) : Bool :=
  read.all fun found => !written.contains found

theorem apart_iff {read written : List Variable} :
    apart read written = true ↔ ∀ found ∈ read, found ∉ written := by
  simp [apart]

mutual

/-- Whether no assignment comes between an operand or element that stays in
place and its use, or stands where `&&` may leave it out. -/
def Expression.keepsOrder : Expression → Bool
  | .array elements _ => allKeepOrder elements
  | .parenthesized inner _ => inner.keepsOrder
  | .binary .and left right _ =>
      left.keepsOrder && right.keepsOrder && right.assigned.isEmpty
  | .binary _ left right _ =>
      left.keepsOrder && right.keepsOrder && apart left.exposed right.assigned
  | .assignment _ _ value _ => value.keepsOrder
  | _ => true

def allKeepOrder : List Expression → Bool
  | [] => true
  | source :: others =>
      source.keepsOrder && allKeepOrder others &&
        apart (if source.isTaken then [] else source.exposed)
          (assignedByAll others)

end

end VelocityScript.Script
