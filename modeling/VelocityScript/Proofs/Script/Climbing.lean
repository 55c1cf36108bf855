import VelocityScript.Proofs.Script.Precedence

/-!
# Climbing the levels of operators

A chain of operands and operators is read once, from the left, and becomes one
tree.  The tree has the operators of the chain with the levels that the chain
asks for, groups to the left or to the right as the operators do, and lists the
operands and the operators in the order in which they were read.

What carries the loop is that the operator at the root of what has been read so
far has stopped before the next operator: a right operand ends where only
operators below its own level follow.
-/

namespace VelocityScript.Script

open VelocityScript.Script.Parser

/-- The operator at the root of an expression. -/
def Expression.operator? : Expression → Option BinaryOperator
  | .binary operator _ _ _ => some operator
  | _ => none

namespace BinaryOperator

/-- Whether an operator takes an operand with the other operator at its root on
its left side.  One that groups to the right takes only tighter ones. -/
def admitsLeft (operator child : BinaryOperator) : Bool :=
  if operator = .power then
    operator.level < child.level
  else
    operator.level ≤ child.level

/-- Whether an operator takes an operand with the other operator at its root on
its right side.  One that groups to the left takes only tighter ones. -/
def admitsRight (operator child : BinaryOperator) : Bool :=
  if operator = .power then
    operator.level ≤ child.level
  else
    operator.level < child.level

theorem rightLevel_le (operator : BinaryOperator) : operator.rightLevel ≤ 11 := by
  cases operator <;> decide

theorem level_le_rightLevel (operator : BinaryOperator) :
    operator.level ≤ operator.rightLevel := by
  unfold rightLevel
  split <;> omega

/-- An operator that comes after a right operand takes the whole as its left
one. -/
theorem admitsLeft_of_lt_rightLevel {operator child : BinaryOperator}
    (lower : operator.level < child.rightLevel) :
    operator.admitsLeft child = true := by
  unfold admitsLeft
  split
  · next power =>
      -- No operator binds more tightly than this one.
      subst power
      have highest := child.rightLevel_le
      have level : BinaryOperator.power.level = 11 := rfl
      omega
  · have bound : child.rightLevel ≤ child.level + 1 := by
      unfold rightLevel
      split <;> omega
    exact decide_eq_true (by omega)

theorem admitsRight_of_rightLevel_le {operator child : BinaryOperator}
    (higher : operator.rightLevel ≤ child.level) :
    operator.admitsRight child = true := by
  unfold admitsRight
  unfold rightLevel at higher
  split
  · next power =>
      rw [if_pos power] at higher
      exact decide_eq_true higher
  · next other =>
      rw [if_neg other] at higher
      exact decide_eq_true higher

end BinaryOperator

/-- Whether the operators that are reached from the root of an expression
through operators only have at least the given level, and take the operands
that they have. -/
def Expression.climbsFrom (least : Nat) : Expression → Bool
  | .binary operator left right _ =>
      least ≤ operator.level && left.operator?.all operator.admitsLeft &&
        right.operator?.all operator.admitsRight && left.climbsFrom least &&
          right.climbsFrom least
  | _ => true

/-- A link of a chain of operands and operators. -/
inductive Link where
  | operand (source : Expression)
  | operator (operator : BinaryOperator)

/-- The operands and operators that are reached from the root of an expression
through operators only, from left to right. -/
def Expression.links : Expression → List Link
  | .binary operator left right _ => left.links ++ .operator operator :: right.links
  | source => [.operand source]

/-- Whether the word of a type assertion comes next on the same line. -/
def Cursor.seesAssertion (cursor : Cursor) (kind : OtherExpression) : Bool :=
  !cursor.newlineBefore &&
    match kind with
    | .asType => cursor.seesWord "as"
    | .satisfiesType => cursor.seesWord "satisfies"
    | _ => false

/-- `Consumes least cursor links next` means that the text between the two
cursors is read, from left to right, as the operands and operators of `links`,
which have at least the given level.  A type assertion makes one operand of the
chain in front of it. -/
inductive Consumes : Nat → Cursor → List Link → Cursor → Prop
  | operand {least depth : Nat} {cursor next : Cursor} {source : Expression} :
      Grammar.unary (Nested.ofDepth depth) cursor = .ok (source, next) →
      Consumes least cursor [.operand source] next
  | operator {least : Nat} {operator : BinaryOperator}
      {cursor middle behind next : Cursor} {before after : List Link} :
      Consumes least cursor before middle →
      middle.binaryOperator? = some (operator, behind) →
      least ≤ operator.level →
      Consumes operator.rightLevel behind after next →
      Consumes least cursor (before ++ .operator operator :: after) next
  | assertion {least : Nat} {kind : OtherExpression}
      {cursor middle behind next : Cursor} {named : Identifier}
      {before : List Link} :
      Consumes least cursor before middle →
      least ≤ Grammar.assertionLevel →
      middle.seesAssertion kind = true →
      word middle = .ok (named, behind) →
      skipType .token behind = .ok ((), next) →
      Consumes least cursor
        [.operand (.other kind ⟨cursor.tokenStart.offset, next.offset⟩)] next

/-! ## One step -/

namespace Expression

theorem climbsFrom_of_operator?_eq_none {source : Expression} (least : Nat)
    (operand : source.operator? = none) : source.climbsFrom least = true := by
  cases source with
  | binary operator left right span => cases operand
  | _ => rfl

theorem links_of_operator?_eq_none {source : Expression}
    (operand : source.operator? = none) : source.links = [.operand source] := by
  cases source with
  | binary operator left right span => cases operand
  | _ => rfl

theorem climbsFrom_mono {least lower : Nat} (below : lower ≤ least) :
    ∀ source : Expression, source.climbsFrom least = true →
      source.climbsFrom lower = true
  | .binary operator left right span, climbs => by
      simp only [climbsFrom, Bool.and_eq_true, decide_eq_true_eq] at climbs ⊢
      obtain ⟨⟨⟨⟨enough, admitsLeft⟩, admitsRight⟩, leftClimbs⟩, rightClimbs⟩ :=
        climbs
      exact ⟨⟨⟨⟨Nat.le_trans below enough, admitsLeft⟩, admitsRight⟩,
        climbsFrom_mono below left leftClimbs⟩,
        climbsFrom_mono below right rightClimbs⟩
  | .identifier _, _ | .receiver _, _ | .number _ _, _ | .string _ _, _
  | .boolean _ _, _ | .template _ _ _, _ | .array _ _, _ | .object _ _, _
  | .parenthesized _ _, _ | .unary _ _ _, _ | .assignment _ _ _ _, _
  | .member _ _ _ _, _ | .index _ _ _, _ | .call _ _ _ _, _
  | .other _ _, _ => rfl

/-- The operator at the root of a chain has the level that the chain asks
for. -/
theorem level_of_climbsFrom {least : Nat} {source : Expression}
    {operator : BinaryOperator} (climbs : source.climbsFrom least = true)
    (root : source.operator? = some operator) : least ≤ operator.level := by
  cases source with
  | binary found left right span =>
      cases root
      simp only [climbsFrom, Bool.and_eq_true, decide_eq_true_eq] at climbs
      exact climbs.1.1.1.1
  | _ => cases root

theorem operator?_of_bindsFrom {source : Expression}
    (operand : source.bindsFrom prefixLevel = true) :
    source.operator? = none := by
  cases source with
  | binary operator left right span =>
      rw [bindsFrom_prefixLevel_binary] at operand
      cases operand
  | _ => rfl

end Expression

/-- What holds between the steps of a chain that starts at `cursor`: what has
been read is a tree of the links up to here, and its root has ended before the
operator that comes next. -/
structure Climbs (least : Nat) (cursor : Cursor) (left : Expression)
    (here : Cursor) : Prop where
  climbs : left.climbsFrom least = true
  consumed : Consumes least cursor left.links here
  ends : ∀ operator, left.operator? = some operator →
    here.EndsBefore operator.rightLevel

namespace Climbs

variable {least : Nat} {cursor here next : Cursor} {left right : Expression}

theorem ofOperand (operand : left.operator? = none)
    (consumed : Consumes least cursor [.operand left] here) :
    Climbs least cursor left here where
  climbs := Expression.climbsFrom_of_operator?_eq_none least operand
  consumed := by
    rw [Expression.links_of_operator?_eq_none operand]
    exact consumed
  ends operator root := by
    rw [operand] at root
    cases root

/-- An operator takes what has been read as its left operand and the chain
behind it as its right one. -/
theorem binary {operator : BinaryOperator} {behind : Cursor}
    (before : Climbs least cursor left here)
    (found : here.binaryOperator? = some (operator, behind))
    (enough : least ≤ operator.level)
    (after : Climbs operator.rightLevel behind right next)
    (ends : next.EndsBefore operator.rightLevel) (span : Span) :
    Climbs least cursor (.binary operator left right span) next where
  climbs := by
    have admitsLeft : left.operator?.all operator.admitsLeft = true := by
      rw [Option.all_eq_true]
      intro child root
      exact BinaryOperator.admitsLeft_of_lt_rightLevel
        (before.ends child root operator behind found)
    have admitsRight : right.operator?.all operator.admitsRight = true := by
      rw [Option.all_eq_true]
      intro child root
      exact BinaryOperator.admitsRight_of_rightLevel_le
        (Expression.level_of_climbsFrom after.climbs root)
    have below : least ≤ operator.rightLevel :=
      Nat.le_trans enough operator.level_le_rightLevel
    simp only [Expression.climbsFrom, admitsLeft, admitsRight, before.climbs,
      Expression.climbsFrom_mono below right after.climbs, enough, decide_true,
      Bool.and_self]
  consumed := .operator before.consumed found enough after.consumed
  ends root same := by
    cases same
    exact ends

end Climbs

/-- The parsers of nested chains climb. -/
def Nested.Climb (nested : Nested) : Prop :=
  ∀ least cursor tree next, nested.binary least cursor = .ok (tree, next) →
    Climbs least cursor tree next

namespace Grammar

variable {depth : Nat}

theorem binaryStep_climbs (climb : (Nested.ofDepth depth).Climb)
    (least : Nat) (cursor : Cursor) (left : Expression) (here : Cursor)
    (outcome : Round Expression Expression) (next : Cursor)
    (before : Climbs least cursor left here)
    (ran : binaryStep (Nested.ofDepth depth) least cursor.tokenStart.offset left
      here = .ok (outcome, next)) :
    Round.Satisfies (Climbs least cursor) (Climbs least cursor) outcome next := by
  rw [binaryStep, bind_eq_ok] at ran
  obtain ⟨seen, same, gotten, ran⟩ := ran
  cases gotten
  split at ran
  · next asserted =>
      obtain ⟨low, sameLine, seen⟩ := asserted
      obtain ⟨_, behind, named, ran⟩ := bind_eq_ok.mp ran
      obtain ⟨found, readWord⟩ := discard_eq_ok.mp named
      obtain ⟨_, final, skipped, ran⟩ := bind_eq_ok.mp ran
      obtain ⟨span, there, spanned, ran⟩ := bind_eq_ok.mp ran
      cases spanned
      cases ran
      refine Climbs.ofOperand rfl
        (.assertion before.consumed low ?_ readWord skipped)
      by_cases seesAs : here.seesWord "as" = true
      · simp only [seesAs, if_true, Cursor.seesAssertion, Bool.and_true]
        exact sameLine
      · have seesSatisfies : here.seesWord "satisfies" = true :=
          (Bool.or_eq_true_iff.mp seen).resolve_left seesAs
        simp only [seesAs, Bool.false_eq_true, if_false, Cursor.seesAssertion,
          seesSatisfies, Bool.and_true]
        exact sameLine
  cases found : here.binaryOperator? with
  | none =>
      simp only [found] at ran
      cases ran
      exact before
  | some taken =>
      obtain ⟨operator, behind⟩ := taken
      simp only [found] at ran
      split at ran
      · next enough =>
          obtain ⟨_, moved, set, ran⟩ := bind_eq_ok.mp ran
          cases set
          obtain ⟨right, middle, read, ran⟩ := bind_eq_ok.mp ran
          obtain ⟨span, there, spanned, ran⟩ := bind_eq_ok.mp ran
          cases spanned
          cases ran
          obtain ⟨-, -, ends⟩ := (Nested.ofDepth_groups depth).binary
            operator.rightLevel _ right _ read
          exact before.binary found enough (climb _ _ right _ read) ends _
      · cases ran
        exact before

theorem binary_climb (climb : (Nested.ofDepth depth).Climb) :
    (Nested.ofDepth depth).deeper.Climb := by
  intro least cursor tree next ran
  obtain ⟨start, same, gotten, ran⟩ := bind_eq_ok.mp ran
  cases gotten
  obtain ⟨left, middle, read, ran⟩ := bind_eq_ok.mp ran
  have operand : left.operator? = none := Expression.operator?_of_bindsFrom
    (unary_groups (Nested.ofDepth_groups depth) cursor left middle read).2
  exact repeating_satisfies (Climbs least cursor) (Climbs least cursor)
    (binaryStep_climbs climb least cursor)
    (Climbs.ofOperand operand (.operand read)) ran

end Grammar

theorem Nested.ofDepth_climb (depth : Nat) : (Nested.ofDepth depth).Climb := by
  induction depth with
  | zero =>
      intro least cursor tree next ran
      cases ran
  | succ depth inductionHypothesis => exact Grammar.binary_climb inductionHypothesis

/-- A chain of operators of at least the level `least` becomes a tree whose
operators have that level and take the operands that they have.  Its operands
and operators are those that are read from the text, in order, and no operator
of that level comes next.  No operator in front of an operand has a chain as
its operand. -/
theorem binary_reads_levels {depth least : Nat} {cursor next : Cursor}
    {tree : Expression}
    (read : (Nested.ofDepth depth).binary least cursor = .ok (tree, next)) :
    tree.climbsFrom least = true ∧
      (∀ operator operand span,
        Expression.unary operator operand span ∈ tree.subexpressions →
          operand.operator? = none) ∧
      Consumes least cursor tree.links next ∧
      next.EndsBefore least := by
  have climbs := Nested.ofDepth_climb depth least cursor tree next read
  obtain ⟨grouped, -, ends⟩ :=
    (Nested.ofDepth_groups depth).binary least cursor tree next read
  refine ⟨climbs.climbs, ?_, climbs.consumed, ends⟩
  intro operator operand span member
  have binds : operand.bindsFrom prefixLevel = true := grouped _ member
  exact Expression.operator?_of_bindsFrom binds

/-- A chain with three levels, an operator that groups to the right, and a type
assertion in the middle. -/
theorem binary_reads_levels_assertion :
    ∃ tree next, (Nested.ofDepth 9).binary 1
        (.ofText "x || a ** -b ** c * d as T == f && g, h") =
        .ok (tree, next) ∧
      tree.links.length = 7 ∧ next.rest = ", h".toList ∧
      tree.climbsFrom 1 = true ∧ next.EndsBefore 1 := by
  let cursor := Cursor.ofText "x || a ** -b ** c * d as T == f && g, h"
  have parsed : (match (Nested.ofDepth 9).binary 1 cursor with
      | .ok (tree, next) =>
          decide (tree.links.length = 7 ∧ next.rest = ", h".toList)
      | .error _ => false) = true := by
    decide +kernel
  cases read : (Nested.ofDepth 9).binary 1 cursor with
  | error error =>
      rw [read] at parsed
      cases parsed
  | ok outcome =>
      obtain ⟨tree, next⟩ := outcome
      rw [read] at parsed
      obtain ⟨counted, left⟩ := of_decide_eq_true parsed
      obtain ⟨climbs, -, -, ends⟩ := binary_reads_levels read
      exact ⟨tree, next, rfl, counted, left, climbs, ends⟩

end VelocityScript.Script
