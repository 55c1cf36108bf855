import VelocityScript.Template.Tree

/-!
# Operators that need no parentheses

The text of an expression has the parentheses of its tree and no others.  So
the tree has to agree with the precedence of the operators: the operands of an
operator bind at least as tightly as the operator itself, and the right one
more tightly, since all operators group to the left.
-/

namespace VelocityScript.Template

/-- How tightly an operator between two expressions binds. -/
def BinaryOperator.precedence : BinaryOperator → Nat
  | .or => 1
  | .and => 2
  | .equal | .notEqual => 3
  | .less | .lessOrEqual | .greater | .greaterOrEqual => 4
  | .plus | .minus => 5
  | .times | .divide | .remainder => 6

/-- How tightly an operator in front of an expression binds. -/
def prefixPrecedence : Nat := 7

namespace Expression

/-- Whether an expression can stand, without parentheses, where an operator of
at least the given precedence is expected. -/
def bindsFrom (least : Nat) : Expression → Bool
  | .binary _ operator _ _ => least ≤ operator.precedence
  | _ => true

/-- Whether the operands of an operator bind tightly enough to stand without
parentheses. -/
def isGrouped : Expression → Bool
  | .binary left operator right _ =>
      left.bindsFrom operator.precedence &&
        right.bindsFrom (operator.precedence + 1)
  | .unary _ operand _ => operand.bindsFrom prefixPrecedence
  | _ => true

/-- An expression and the expressions inside it. -/
def subexpressions : Expression → List Expression
  | .ofPath path => [.ofPath path]
  | .ofValue value => [.ofValue value]
  | .binary left operator right origin =>
      .binary left operator right origin ::
        (left.subexpressions ++ right.subexpressions)
  | .unary operator operand origin =>
      .unary operator operand origin :: operand.subexpressions
  | .parenthesized inner origin =>
      .parenthesized inner origin :: inner.subexpressions

theorem bindsFrom_interpolated (least : Nat) (expression : Expression) :
    expression.interpolated.bindsFrom least = expression.bindsFrom least := by
  cases expression <;> rfl

/-- No operator between two expressions binds as tightly as one in front of an
expression. -/
theorem bindsFrom_prefixPrecedence_iff (expression : Expression) :
    expression.bindsFrom prefixPrecedence = true ↔
      ∀ left operator right origin,
        expression ≠ .binary left operator right origin := by
  constructor
  · rintro binds left operator right origin rfl
    cases operator <;> cases binds
  · intro notBinary
    cases expression with
    | binary left operator right origin =>
        exact absurd rfl (notBinary left operator right origin)
    | _ => rfl

end Expression

mutual

/-- The expressions in an element, in the blocks inside it as well. -/
def Element.expressions : Element → List Expression
  | .assign _ value _ => value.subexpressions
  | .branch first others otherwise _ =>
      first.expressions ++ expressionsOfClauses others ++
        expressionsOfOtherwise otherwise
  | .loop _ _ body _ => body.expressions
  | .emit _ | .text _ _ | .newLine => []

def Block.expressions : Block → List Expression
  | .mk elements _ => expressionsOf elements

def Clause.expressions : Clause → List Expression
  | .mk condition body _ => condition.subexpressions ++ body.expressions

/-- The expressions in several elements. -/
def expressionsOf : List Element → List Expression
  | [] => []
  | element :: others => element.expressions ++ expressionsOf others

def expressionsOfClauses : List Clause → List Expression
  | [] => []
  | clause :: others => clause.expressions ++ expressionsOfClauses others

/-- The expressions in the block that is taken when no condition holds. -/
def expressionsOfOtherwise : Option Block → List Expression
  | none => []
  | some block => block.expressions

end

theorem expressionsOf_append (first second : List Element) :
    expressionsOf (first ++ second) =
      expressionsOf first ++ expressionsOf second := by
  induction first with
  | nil => rfl
  | cons element others inductionHypothesis =>
      simp only [List.cons_append, expressionsOf, inductionHypothesis,
        List.append_assoc]

/-- Some expressions all of which need no parentheses. -/
def Grouped (expressions : List Expression) : Prop :=
  ∀ expression ∈ expressions, expression.isGrouped = true

instance (expressions : List Expression) : Decidable (Grouped expressions) :=
  inferInstanceAs
    (Decidable (∀ expression ∈ expressions, expression.isGrouped = true))

theorem grouped_nil : Grouped [] := by
  intro expression member
  cases member

theorem grouped_cons {expression : Expression} {others : List Expression} :
    Grouped (expression :: others) ↔
      expression.isGrouped = true ∧ Grouped others :=
  List.forall_mem_cons

theorem grouped_append {first second : List Expression} :
    Grouped (first ++ second) ↔ Grouped first ∧ Grouped second :=
  List.forall_mem_append

/-- Interpolating a bare path adds no operator. -/
theorem grouped_interpolated {expression : Expression} :
    Grouped expression.interpolated.subexpressions ↔
      Grouped expression.subexpressions := by
  cases expression with
  | ofPath path =>
      simp only [Expression.interpolated, Expression.subexpressions,
        grouped_cons, Expression.isGrouped]
  | _ => exact Iff.rfl

/-- Whether the text of a template groups its operators as its tree does. -/
def File.IsGrouped (file : File) : Prop :=
  Grouped file.block.expressions

instance (file : File) : Decidable file.IsGrouped :=
  inferInstanceAs (Decidable (Grouped file.block.expressions))

end VelocityScript.Template
