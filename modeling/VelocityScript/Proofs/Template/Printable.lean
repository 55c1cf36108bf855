import VelocityScript.Proofs.Template.Grouping
import VelocityScript.Proofs.Template.Writing

/-!
# Expressions that can be printed

A bare path is printed without its `$`, as plain text.  It may stand only where
it is about to be extended or interpolated, and never in an expression of a
template: neither as a condition or as what a directive assigns, nor beside an
operator or between parentheses.
-/

namespace VelocityScript.Template

/-- Whether an expression is a path that is not interpolated. -/
def Expression.isBare : Expression → Bool
  | .ofPath _ => true
  | _ => false

/-- Some expressions none of which is a bare path. -/
def Interpolated (expressions : List Expression) : Prop :=
  ∀ expression ∈ expressions, expression.isBare = false

theorem interpolated_nil : Interpolated [] := by
  intro expression member
  cases member

theorem interpolated_cons {expression : Expression} {others : List Expression} :
    Interpolated (expression :: others) ↔
      expression.isBare = false ∧ Interpolated others :=
  List.forall_mem_cons

theorem interpolated_append {first second : List Expression} :
    Interpolated (first ++ second) ↔ Interpolated first ∧ Interpolated second :=
  List.forall_mem_append

namespace Expression

/-- Nothing in an expression is a bare path once it is interpolated itself. -/
def IsPrintable (expression : Expression) : Prop :=
  Interpolated expression.interpolated.subexpressions

theorem isPrintable_ofPath (path : Path) : (ofPath path).IsPrintable :=
  interpolated_cons.mpr ⟨rfl, interpolated_nil⟩

theorem isPrintable_ofValue (value : Value) : (ofValue value).IsPrintable :=
  interpolated_cons.mpr ⟨rfl, interpolated_nil⟩

variable {left right inner operand : Expression}

theorem isPrintable_binary (leftPrintable : left.IsPrintable)
    (rightPrintable : right.IsPrintable) (operator : BinaryOperator)
    (origin : Origin) :
    (binary left.interpolated operator right.interpolated origin).IsPrintable := by
  apply interpolated_cons.mpr
  exact ⟨rfl, interpolated_append.mpr ⟨leftPrintable, rightPrintable⟩⟩

theorem isPrintable_unary (printable : operand.IsPrintable)
    (operator : UnaryOperator) (origin : Origin) :
    (unary operator operand.interpolated origin).IsPrintable :=
  interpolated_cons.mpr ⟨rfl, printable⟩

theorem isPrintable_parenthesized (printable : inner.IsPrintable)
    (origin : Origin) :
    (parenthesized inner.interpolated origin).IsPrintable :=
  interpolated_cons.mpr ⟨rfl, printable⟩

/-- An expression that has to be put into a variable is no bare path. -/
theorem IsPrintable.subexpressions_of_path?
    (printable : inner.IsPrintable) (noPath : inner.path? = none) :
    Interpolated inner.subexpressions := by
  cases inner with
  | ofPath path => cases noPath
  | _ => exact printable

theorem path?_eq_none_of_value? (noValue : inner.value? = none) :
    inner.path? = none := by
  cases inner with
  | ofPath path => cases noValue
  | _ => rfl

end Expression

/-- Some elements in which no expression is a bare path. -/
def Printable (elements : List Element) : Prop :=
  Interpolated (expressionsOf elements)

theorem printable_nil : Printable [] :=
  interpolated_nil

theorem Printable.append {first second : List Element}
    (firstPrintable : Printable first) (secondPrintable : Printable second) :
    Printable (first ++ second) := by
  unfold Printable
  rw [expressionsOf_append]
  exact interpolated_append.mpr ⟨firstPrintable, secondPrintable⟩

theorem printable_single {element : Element} :
    Printable [element] ↔ Interpolated element.expressions := by
  unfold Printable
  rw [expressionsOf, expressionsOf, List.append_nil]

/-- What interpolates a path is written with its `$`, wherever a line has text
already. -/
theorem written_of_reference? (options : LayoutOptions) (depth : Nat)
    {expression : Expression} {reference : Reference}
    (notBare : expression.isBare = false)
    (referred : expression.reference? = some reference) :
    ∃ text, written options true (expression.pieces depth) = '$' :: text := by
  cases expression with
  | ofPath path => cases notBare
  | ofValue value =>
      cases value with
      | reference path origin =>
          have opening : ∃ rest, path.braces.1.toList = '$' :: rest := by
            cases path <;> simp [Path.braces]
          obtain ⟨rest, opens⟩ := opening
          simp only [Expression.pieces, Value.pieces, written_true_text, opens]
          exact ⟨_, rfl⟩
      | _ => cases referred
  | _ => cases referred

end VelocityScript.Template
