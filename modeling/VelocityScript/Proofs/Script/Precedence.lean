import VelocityScript.Proofs.Script.Grouping
import VelocityScript.Proofs.Script.Reading
import VelocityScript.Script.Grammar.Item

/-!
# Parsed operators agree with their levels

A chain of operators is read from the left: an operator takes what stands
before it as its left operand, and reads a right operand in which only tighter
operators stand outside of brackets.  What stops the right operand is the next
operator of the chain, so it cannot bind more tightly than the operator before
it.  Hence all operators of a parsed script have operands that need no
parentheses.
-/

namespace VelocityScript.Script

open VelocityScript.Script.Parser

/-- Some expressions all of which have operands that need no parentheses. -/
abbrev Grouped (sources : List Expression) : Prop :=
  Every Expression.isGrouped sources

theorem level_lt_prefixLevel (operator : BinaryOperator) :
    operator.level < prefixLevel := by
  cases operator <;> decide

theorem Expression.bindsFrom_prefixLevel_binary (operator : BinaryOperator)
    (left right : Expression) (span : Span) :
    (binary operator left right span).bindsFrom prefixLevel = false :=
  decide_eq_false (Nat.not_le.mpr (level_lt_prefixLevel operator))

/-- What stands behind an operator that precedes its operand is no chain of
operators, and can stand anywhere. -/
theorem Expression.bindsFrom_of_prefixLevel {source : Expression}
    (operand : source.bindsFrom prefixLevel = true) (least : Nat) :
    source.bindsFrom least = true := by
  cases source with
  | binary operator left right span =>
      rw [bindsFrom_prefixLevel_binary] at operand
      cases operand
  | _ => rfl

/-- An expression that needs no parentheses as an operand. -/
def Expression.IsOperand (source : Expression) : Prop :=
  Grouped source.subexpressions ∧ source.bindsFrom prefixLevel = true

/-- No operator of at least the given level comes next. -/
def Cursor.EndsBefore (cursor : Cursor) (least : Nat) : Prop :=
  ∀ operator after, cursor.binaryOperator? = some (operator, after) →
    operator.level < least

/-- A parser of chains of operators of at least the given level: it reads all
of a chain. -/
def ReadsChain (least : Nat) (parser : Parser Expression) : Prop :=
  ∀ cursor result next, parser cursor = .ok (result, next) →
    Grouped result.subexpressions ∧ result.bindsFrom least = true ∧
      next.EndsBefore least

/-- The parsers of nested constructs give grouped operators. -/
structure Nested.Groups (nested : Nested) : Prop where
  assignment : Gives nested.assignment fun result => Grouped result.subexpressions
  binary : ∀ least, ReadsChain least (nested.binary least)
  unary : Gives nested.unary Expression.IsOperand
  statement : Gives nested.statement fun result => Grouped result.subexpressions

theorem Nested.exhausted_groups : Nested.exhausted.Groups where
  assignment := gives_fail _ _
  binary _ := fun _ _ _ ran => by cases ran
  unary := gives_fail _ _
  statement := gives_fail _ _

theorem Expression.isOperand_other (kind : OtherExpression) (span : Span) :
    (Expression.other kind span).IsOperand :=
  ⟨List.forall_mem_singleton.mpr rfl, rfl⟩

theorem gives_otherExpression (kind : OtherExpression) (start : Nat) :
    Gives (otherExpression kind start) Expression.IsOperand :=
  gives_bind fun _ => gives_pure (Expression.isOperand_other kind _)

theorem gives_other_grouped (kind : OtherExpression) (start : Nat) :
    Gives (otherExpression kind start) fun result =>
      Grouped result.subexpressions :=
  (gives_otherExpression kind start).mono fun _ operand => operand.1

namespace Grammar

variable {nested : Nested}

theorem expression_groups (groups : nested.Groups) :
    Gives (expression nested) fun result => Grouped result.subexpressions := by
  refine gives_bind fun start => groups.assignment.bind fun first grouped => ?_
  refine gives_bind fun cursor => ?_
  split
  · exact gives_bind fun _ => gives_other_grouped _ _
  · exact gives_pure grouped

theorem parenthesized_groups (groups : nested.Groups) :
    Gives (parenthesized nested) fun result => Grouped result.subexpressions :=
  gives_bind fun _ => (expression_groups groups).bind fun _ grouped =>
    gives_bind fun _ => gives_pure grouped

theorem block_groups (groups : nested.Groups) :
    Gives (block nested) fun result =>
      Grouped (subexpressionsOfStatements result.statements) := by
  refine gives_bind fun start => gives_bind fun _ => ?_
  have unread : ∀ statement ∈ ([] : List Statement),
      Grouped statement.subexpressions := List.forall_mem_nil _
  refine Gives.bind (gives_repeating
    (fun statements =>
      ∀ statement ∈ statements, Grouped statement.subexpressions)
    (fun statements =>
      ∀ statement ∈ statements, Grouped statement.subexpressions)
    unread ?_)
    fun _ held => gives_bind fun _ => gives_pure (every_statements.mpr held)
  intro statements held
  refine gives_bind fun closed => ?_
  split
  · exact gives_pure held
  · refine gives_bind fun cursor => ?_
    split
    · exact gives_failAt _ _ _
    · exact groups.statement.bind fun statement grouped => gives_pure
        (List.forall_mem_append.mpr
          ⟨held, List.forall_mem_singleton.mpr grouped⟩)

/-! ## Operands -/

theorem templateParts_group (groups : nested.Groups) :
    Gives (templateParts nested) fun result =>
      Grouped (subexpressionsOfParts result.2) := by
  refine gives_bind fun cursor => gives_bind fun opened => ?_
  split
  · refine gives_bind fun opening => ?_
    have unread : ∀ part ∈ ([] : List TemplatePart),
        Grouped part.subexpressions := List.forall_mem_nil _
    refine Gives.bind (gives_repeating
      (fun state => ∀ part ∈ state.1, Grouped part.subexpressions)
      (fun parts => ∀ part ∈ parts, Grouped part.subexpressions) unread ?_)
      fun _ held => gives_pure (every_parts.mpr held)
    rintro ⟨parts, stop⟩ held
    cases stop with
    | closed => exact gives_pure held
    | interpolation =>
        exact (expression_groups groups).bind fun interpolated grouped =>
          gives_bind fun _ => gives_bind fun following => gives_pure
            (List.forall_mem_append.mpr
              ⟨held, List.forall_mem_singleton.mpr grouped⟩)
  · exact gives_fail _ _

theorem spreadable_groups (groups : nested.Groups) :
    Gives (spreadable nested) fun result => Grouped result.subexpressions := by
  refine gives_bind fun start => gives_bind fun spread => ?_
  split
  · exact gives_bind fun _ => gives_other_grouped _ _
  · exact groups.assignment

theorem arguments_group (groups : nested.Groups) :
    Gives (arguments nested) fun results =>
      Grouped (subexpressionsOfAll results) :=
  gives_bind fun _ =>
    (gives_commaSeparated (spreadable_groups groups)).mono
      fun _ => every_all.mpr

theorem arrayElements_group (groups : nested.Groups) :
    Gives (arrayElements nested) fun results =>
      Grouped (subexpressionsOfAll results) :=
  gives_bind fun _ =>
    (gives_commaSeparatedOrHoles (gives_other_grouped _)
      (spreadable_groups groups)).mono fun _ => every_all.mpr

theorem gives_otherMember (kind : OtherMember) (start : Nat) :
    Gives (otherMember kind start) fun result => Grouped result.subexpressions :=
  gives_bind fun _ => gives_pure (every_nil _)

theorem namedMember_groups (groups : nested.Groups) (start : Nat) :
    Gives (namedMember nested start) fun result =>
      Grouped result.subexpressions := by
  refine gives_bind fun name => gives_bind fun colon => ?_
  split
  · exact groups.assignment.bind fun _ grouped =>
      gives_bind fun _ => gives_pure grouped
  · refine gives_bind fun cursor => ?_
    split
    · exact gives_bind fun _ => gives_otherMember _ _
    · split
      · refine gives_bind fun defaulted => ?_
        split
        · exact gives_bind fun _ => gives_otherMember _ _
        · exact gives_pure (every_nil _)
      · exact gives_failAt _ _ _

theorem objectMember_groups (groups : nested.Groups) :
    Gives (objectMember nested) fun result => Grouped result.subexpressions := by
  refine gives_bind fun start => gives_bind fun spread => ?_
  split
  · exact gives_bind fun _ => gives_otherMember _ _
  · refine gives_bind fun cursor => ?_
    split
    · exact gives_bind fun _ => gives_bind fun _ => gives_bind fun _ =>
        gives_bind fun _ => gives_otherMember _ _
    · refine gives_bind fun generator => ?_
      split
      · exact gives_bind fun _ => gives_bind fun _ => gives_otherMember _ _
      · exact namedMember_groups groups start

theorem objectMembers_group (groups : nested.Groups) :
    Gives (objectMembers nested) fun results =>
      Grouped (subexpressionsOfMembers results) :=
  gives_bind fun _ =>
    (gives_commaSeparated (objectMember_groups groups)).mono
      fun _ => every_members.mpr

theorem wordExpression_groups (word : String) (start : Nat) :
    Gives (wordExpression nested word start) Expression.IsOperand := by
  have alone : ∀ source : Expression, source.subexpressions = [source] →
      source.isGrouped = true → source.bindsFrom prefixLevel = true →
      source.IsOperand := by
    intro source single grouped binds
    refine ⟨?_, binds⟩
    rw [single]
    exact List.forall_mem_singleton.mpr grouped
  have read : ∀ source : Span → Expression,
      (∀ span, (source span).IsOperand) → ∀ count : Nat,
        Gives (do
          skip count
          return source (← spanFrom start)) Expression.IsOperand :=
    fun source operand count =>
      gives_bind fun _ => gives_bind fun span => gives_pure (operand span)
  refine gives_ite (read .receiver (fun _ => alone _ rfl rfl rfl) 4) ?_
  refine gives_ite (read (.boolean true) (fun _ => alone _ rfl rfl rfl) 4) ?_
  refine gives_ite (read (.boolean false) (fun _ => alone _ rfl rfl rfl) 5) ?_
  refine gives_ite (gives_bind fun _ => gives_otherExpression _ _) ?_
  refine gives_ite (gives_bind fun _ => gives_otherExpression _ _) ?_
  refine gives_ite (gives_bind fun _ => gives_otherExpression _ _) ?_
  refine gives_ite (gives_bind fun _ => gives_otherExpression _ _) ?_
  exact gives_bind fun _ => gives_pure (alone _ rfl rfl rfl)

theorem isOperand_call {callee : Expression} {arguments : List Expression}
    (operand : callee.IsOperand)
    (grouped : Grouped (subexpressionsOfAll arguments)) (returns : ReturnKind)
    (span : Span) : (Expression.call callee arguments returns span).IsOperand :=
  ⟨every_cons.mpr ⟨rfl, every_append.mpr ⟨operand.1, grouped⟩⟩, rfl⟩

theorem primary_groups (groups : nested.Groups) :
    Gives (primary nested) Expression.IsOperand := by
  refine gives_bind fun _ => gives_bind fun cursor => ?_
  split
  · exact gives_fail _ _
  split
  · refine gives_bind fun token => ?_
    split
    · exact gives_otherExpression _ _
    · exact gives_bind fun _ =>
        gives_pure ⟨List.forall_mem_singleton.mpr rfl, rfl⟩
  split
  · exact gives_bind fun _ => gives_bind fun _ =>
      gives_pure ⟨List.forall_mem_singleton.mpr rfl, rfl⟩
  split
  · exact (templateParts_group groups).bind fun _ grouped =>
      gives_bind fun _ => gives_pure ⟨every_cons.mpr ⟨rfl, grouped⟩, rfl⟩
  split
  · exact gives_bind fun _ => (expression_groups groups).bind fun _ grouped =>
      gives_bind fun _ => gives_bind fun _ =>
        gives_pure ⟨every_cons.mpr ⟨rfl, grouped⟩, rfl⟩
  split
  · exact (arrayElements_group groups).bind fun _ grouped =>
      gives_bind fun _ => gives_pure ⟨every_cons.mpr ⟨rfl, grouped⟩, rfl⟩
  split
  · exact (objectMembers_group groups).bind fun _ grouped =>
      gives_bind fun _ => gives_pure ⟨every_cons.mpr ⟨rfl, grouped⟩, rfl⟩
  split
  · exact gives_bind fun _ => gives_otherExpression _ _
  split
  · exact wordExpression_groups _ _
  · exact gives_fail _ _

theorem newObject_groups (start : Nat) :
    Gives (newObject nested start) Expression.IsOperand := by
  refine gives_bind fun dotted => ?_
  split
  · exact gives_bind fun _ => gives_otherExpression _ _
  · refine gives_bind fun _ => gives_bind fun _ => gives_bind fun cursor => ?_
    split
    · exact gives_bind fun _ => gives_otherExpression _ _
    · exact gives_otherExpression _ _

/-- A step of an access chain makes an operand of an operand. -/
theorem accessStep_groups (groups : nested.Groups) (start : Nat)
    {base : Expression} (operand : base.IsOperand) :
    Gives (accessStep nested start base)
      (Round.Keeps Expression.IsOperand Expression.IsOperand) := by
  refine gives_bind fun dotted => ?_
  split
  · exact gives_bind fun _ => gives_bind fun _ => gives_bind fun _ =>
      gives_pure ⟨every_cons.mpr ⟨rfl, operand.1⟩, rfl⟩
  · refine gives_bind fun opened => ?_
    split
    · refine gives_bind fun cursor => ?_
      split
      · exact (arguments_group groups).bind fun _ grouped =>
          gives_bind fun _ => gives_pure (isOperand_call operand grouped _ _)
      · exact gives_bind fun _ => (expression_groups groups).bind
          fun _ grouped => gives_bind fun _ => gives_bind fun _ => gives_pure
            ⟨every_cons.mpr ⟨rfl, every_append.mpr ⟨operand.1, grouped⟩⟩, rfl⟩
    · refine gives_bind fun cursor => ?_
      split
      · exact (arguments_group groups).bind fun _ grouped =>
          gives_bind fun _ => gives_pure (isOperand_call operand grouped _ _)
      split
      · exact gives_bind fun _ => gives_pure operand
      split
      · exact gives_bind fun _ => gives_bind fun _ => gives_bind fun _ =>
          gives_pure (Expression.isOperand_other _ _)
      · exact gives_pure operand

theorem leftHandSide_groups (groups : nested.Groups) :
    Gives (leftHandSide nested) Expression.IsOperand := by
  refine gives_bind fun start => gives_bind fun constructed => ?_
  have chained : ∀ base : Expression, base.IsOperand →
      Gives (repeating base (accessStep nested start)) Expression.IsOperand :=
    fun base operand => gives_repeating _ _ operand
      fun _ held => accessStep_groups groups start held
  split
  · exact (newObject_groups start).bind chained
  · exact (primary_groups groups).bind chained

theorem postfixExpression_groups (groups : nested.Groups) :
    Gives (postfixExpression nested) Expression.IsOperand := by
  refine gives_bind fun start => (leftHandSide_groups groups).bind
    fun operand held => gives_bind fun cursor => ?_
  split
  · exact gives_bind fun _ => gives_otherExpression _ _
  · exact gives_pure held

theorem unary_groups (groups : nested.Groups) :
    Gives (unary nested) Expression.IsOperand := by
  refine gives_bind fun cursor => ?_
  split
  · exact gives_bind fun _ => groups.unary.bind fun operand held =>
      gives_bind fun _ => gives_pure ⟨every_cons.mpr ⟨held.2, held.1⟩, rfl⟩
  split
  · exact gives_bind fun _ => gives_bind fun _ => gives_otherExpression _ _
  split
  · exact gives_bind fun _ => gives_bind fun _ => gives_otherExpression _ _
  · exact postfixExpression_groups groups

/-! ## Chains of operators -/

/-- What holds between the steps of a chain: what has been read is grouped and
binds at least as tightly as the chain asks, and as the operator that comes
next. -/
def ChainInvariant (least : Nat) (left : Expression) (cursor : Cursor) : Prop :=
  Grouped left.subexpressions ∧ left.bindsFrom least = true ∧
    ∀ operator after, cursor.binaryOperator? = some (operator, after) →
      left.bindsFrom operator.level = true

theorem chainInvariant_of_isOperand {source : Expression}
    (operand : source.IsOperand) (least : Nat) (cursor : Cursor) :
    ChainInvariant least source cursor :=
  ⟨operand.1, Expression.bindsFrom_of_prefixLevel operand.2 least,
    fun operator _ _ =>
      Expression.bindsFrom_of_prefixLevel operand.2 operator.level⟩

/-- An operator takes what has been read as its left operand.  Its right
operand ends before the next operator that binds as loosely as itself. -/
theorem chainInvariant_binary {least : Nat} {operator : BinaryOperator}
    {left right : Expression} {next : Cursor}
    (leftGrouped : Grouped left.subexpressions)
    (leftBinds : left.bindsFrom operator.level = true)
    (rightGrouped : Grouped right.subexpressions)
    (rightBinds : right.bindsFrom operator.rightLevel = true)
    (ends : next.EndsBefore operator.rightLevel)
    (enough : least ≤ operator.level) (span : Span) :
    ChainInvariant least (.binary operator left right span) next := by
  refine ⟨?_, decide_eq_true enough, ?_⟩
  · refine every_cons.mpr ⟨?_, every_append.mpr ⟨leftGrouped, rightGrouped⟩⟩
    simp only [Expression.isGrouped, leftBinds, rightBinds, Bool.and_self]
  · intro following after found
    have looser := ends following after found
    have bound : operator.rightLevel ≤ operator.level + 1 := by
      unfold BinaryOperator.rightLevel
      split <;> omega
    exact decide_eq_true (by omega)

theorem binaryStep_satisfies (groups : nested.Groups) (least start : Nat)
    (left : Expression) (cursor : Cursor)
    (outcome : Round Expression Expression) (next : Cursor)
    (invariant : ChainInvariant least left cursor)
    (ran : binaryStep nested least start left cursor = .ok (outcome, next)) :
    Round.Satisfies (ChainInvariant least)
      (fun result final => Grouped result.subexpressions ∧
        result.bindsFrom least = true ∧ final.EndsBefore least)
      outcome next := by
  rw [binaryStep, bind_eq_ok] at ran
  obtain ⟨seen, here, gotten, ran⟩ := ran
  cases gotten
  split at ran
  · obtain ⟨_, _, _, ran⟩ := bind_eq_ok.mp ran
    obtain ⟨_, _, _, ran⟩ := bind_eq_ok.mp ran
    obtain ⟨_, _, _, ran⟩ := bind_eq_ok.mp ran
    cases ran
    exact chainInvariant_of_isOperand (Expression.isOperand_other _ _) least next
  cases found : cursor.binaryOperator? with
  | some taken =>
      obtain ⟨operator, after⟩ := taken
      simp only [found] at ran
      split at ran
      · next enough =>
          obtain ⟨_, here, moved, ran⟩ := bind_eq_ok.mp ran
          obtain ⟨right, middle, read, ran⟩ := bind_eq_ok.mp ran
          obtain ⟨span, there, spanned, ran⟩ := bind_eq_ok.mp ran
          cases spanned
          cases ran
          obtain ⟨rightGrouped, rightBinds, ends⟩ :=
            groups.binary operator.rightLevel _ right _ read
          exact chainInvariant_binary invariant.1
            (invariant.2.2 operator after found) rightGrouped rightBinds ends
            enough _
      · next short =>
          cases ran
          refine ⟨invariant.1, invariant.2.1, fun following rest same => ?_⟩
          rw [found] at same
          cases same
          exact Nat.not_le.mp short
  | none =>
      simp only [found] at ran
      cases ran
      refine ⟨invariant.1, invariant.2.1, fun following rest same => ?_⟩
      rw [found] at same
      cases same

theorem binary_readsChain (groups : nested.Groups) (least : Nat) :
    ReadsChain least (binary nested least) := by
  intro cursor result next ran
  rw [binary, bind_eq_ok] at ran
  obtain ⟨start, here, _, ran⟩ := ran
  obtain ⟨left, middle, read, ran⟩ := bind_eq_ok.mp ran
  have operand := unary_groups groups here left middle read
  exact repeating_satisfies (ChainInvariant least) _
    (binaryStep_satisfies groups least start)
    (chainInvariant_of_isOperand operand least middle) ran

theorem conditional_groups (groups : nested.Groups) :
    Gives (conditional nested) fun result => Grouped result.subexpressions := by
  have condition : Gives (binary nested 1) fun result =>
      Grouped result.subexpressions := fun cursor result next ran =>
    (binary_readsChain groups 1 cursor result next ran).1
  refine gives_bind fun start => condition.bind fun read grouped =>
    gives_bind fun asked => ?_
  split
  · exact gives_bind fun _ => gives_bind fun _ => gives_bind fun _ =>
      gives_other_grouped _ _
  · exact gives_pure grouped

theorem assignment_groups (groups : nested.Groups) :
    Gives (assignment nested) fun result => Grouped result.subexpressions := by
  refine gives_bind fun start => gives_bind fun arrow => ?_
  split
  · exact gives_other_grouped _ _
  · refine (conditional_groups groups).bind fun target grouped =>
      gives_bind fun cursor => ?_
    split
    · split
      · exact gives_bind fun _ => groups.assignment.bind fun value held =>
          gives_bind fun _ => gives_pure
            (every_cons.mpr ⟨rfl, every_append.mpr ⟨grouped, held⟩⟩)
      · exact gives_pure grouped
    · exact gives_pure grouped

/-! ## Statements -/

/-- A form whose expressions are grouped, wherever the statement stands. -/
def FormGrouped (form : Placement → Statement) : Prop :=
  ∀ placement, Grouped (form placement).subexpressions

theorem formGrouped_other (kind : OtherStatement) :
    FormGrouped (.other kind) :=
  fun _ => every_nil _

theorem declaration_groups (groups : nested.Groups) :
    Gives (declaration nested) fun result =>
      Grouped (subexpressionsOfOption result.initial) := by
  refine gives_bind fun start => gives_bind fun name => gives_bind fun _ =>
    gives_bind fun typed => gives_when (gives_bind fun assigned => ?_)
  split
  · exact groups.assignment.bind fun _ grouped =>
      gives_pure_bind (gives_bind fun _ => gives_pure grouped)
  · exact gives_pure_bind (gives_bind fun _ => gives_pure (every_nil _))

theorem declarations_group (groups : nested.Groups)
    (keyword : DeclarationKeyword) :
    Gives (declarations nested keyword) FormGrouped := by
  have every : ∀ declared : List Declaration,
      (∀ declaration ∈ declared,
        Grouped (subexpressionsOfOption declaration.initial)) →
      FormGrouped (.declarations keyword declared) := by
    intro declared grouped placement source member
    obtain ⟨declaration, inDeclared, inInitial⟩ := List.mem_flatMap.mp member
    exact grouped declaration inDeclared source inInitial
  refine gives_bind fun _ => (declaration_groups groups).bind
    fun first grouped => ?_
  have firstGrouped : ∀ declaration ∈ [first],
      Grouped (subexpressionsOfOption declaration.initial) :=
    List.forall_mem_singleton.mpr grouped
  refine Gives.bind (gives_repeating
    (fun declared => ∀ declaration ∈ declared,
      Grouped (subexpressionsOfOption declaration.initial))
    (fun declared => ∀ declaration ∈ declared,
      Grouped (subexpressionsOfOption declaration.initial))
    firstGrouped ?_)
    fun declared held => gives_bind fun _ => gives_pure (every declared held)
  intro declared held
  refine gives_bind fun comma => ?_
  split
  · exact (declaration_groups groups).bind fun next nextGrouped => gives_pure
      (List.forall_mem_append.mpr
        ⟨held, List.forall_mem_singleton.mpr nextGrouped⟩)
  · exact gives_pure held

theorem branch_groups (groups : nested.Groups) :
    Gives (branch nested) FormGrouped := by
  refine gives_bind fun _ => (parenthesized_groups groups).bind
    fun condition conditionGrouped => groups.statement.bind
      fun consequent consequentGrouped => gives_bind fun otherwise => ?_
  split
  · exact groups.statement.bind fun alternative alternativeGrouped =>
      gives_pure fun _ => every_append.mpr
        ⟨every_append.mpr ⟨conditionGrouped, consequentGrouped⟩,
          alternativeGrouped⟩
  · exact gives_pure fun _ => every_append.mpr
      ⟨every_append.mpr ⟨conditionGrouped, consequentGrouped⟩, every_nil _⟩

theorem otherLoop_groups (kind : OtherStatement) (header : Cursor) :
    Gives (otherLoop nested kind header) FormGrouped :=
  gives_bind fun _ => gives_bind fun _ => gives_bind fun _ =>
    gives_pure (formGrouped_other kind)

theorem loop_groups (groups : nested.Groups) :
    Gives (loop nested) FormGrouped := by
  refine gives_bind fun _ => gives_bind fun awaited => ?_
  split
  · exact gives_bind fun _ => otherLoop_groups _ _
  · refine gives_bind fun start => gives_bind fun _ => gives_bind fun header => ?_
    split
    · refine gives_bind fun looped => ?_
      split
      · exact groups.assignment.bind fun iterable iterableGrouped =>
          gives_bind fun _ => groups.statement.bind fun body bodyGrouped =>
            gives_pure fun _ => every_append.mpr ⟨iterableGrouped, bodyGrouped⟩
      · refine gives_bind fun cursor => ?_
        split
        · exact otherLoop_groups _ _
        · exact otherLoop_groups _ _
    · exact otherLoop_groups _ _

theorem result_groups (groups : nested.Groups) :
    Gives (result nested) FormGrouped := by
  refine gives_bind fun _ => gives_bind fun cursor => ?_
  split
  · exact gives_pure_bind (gives_bind fun _ => gives_pure fun _ => every_nil _)
  · exact (expression_groups groups).bind fun _ grouped =>
      gives_pure_bind (gives_bind fun _ => gives_pure fun _ => grouped)

theorem evaluation_groups (groups : nested.Groups) :
    Gives (evaluation nested) FormGrouped :=
  (expression_groups groups).bind fun _ grouped =>
    gives_bind fun _ => gives_pure fun _ => grouped

theorem labeledOrEvaluation_groups (groups : nested.Groups) :
    Gives (labeledOrEvaluation nested) FormGrouped := by
  refine gives_bind fun cursor => ?_
  split
  · exact gives_bind fun _ => gives_bind fun _ => gives_bind fun _ =>
      gives_pure (formGrouped_other _)
  · exact evaluation_groups groups

theorem jump_groups (kind : OtherStatement) :
    Gives (jump kind) FormGrouped :=
  gives_bind fun _ => gives_bind fun _ => gives_when
    (gives_bind fun _ => gives_pure (formGrouped_other kind))

theorem trying_groups : Gives (trying nested) FormGrouped := by
  have ended : Gives (do
      if ← eatWord "finally" then
        discard (block nested)
      return Statement.other .try) FormGrouped :=
    gives_bind fun _ => gives_when (gives_pure (formGrouped_other .try))
  refine gives_bind fun _ => gives_bind fun _ => gives_bind fun caught => ?_
  split
  · exact gives_bind fun _ => gives_when (gives_bind fun _ => ended)
  · exact ended

theorem wordStatement_groups (groups : nested.Groups) (word : String)
    (cursor : Cursor) : Gives (wordStatement nested word cursor) FormGrouped := by
  have ended : ∀ kind : OtherStatement,
      Gives (pure (Statement.other kind)) FormGrouped :=
    fun kind => gives_pure (formGrouped_other kind)
  refine gives_ite (declarations_group groups .const) ?_
  refine gives_ite (declarations_group groups .var) ?_
  refine gives_ite (declarations_group groups .let) ?_
  refine gives_ite (branch_groups groups) ?_
  refine gives_ite (loop_groups groups) ?_
  refine gives_ite (result_groups groups) ?_
  refine gives_ite (gives_bind fun _ => gives_bind fun _ =>
    gives_bind fun _ => ended .whileLoop) ?_
  refine gives_ite (gives_bind fun _ => gives_bind fun _ => gives_bind fun _ =>
    gives_bind fun _ => gives_bind fun _ => ended .doLoop) ?_
  refine gives_ite (gives_bind fun _ => gives_bind fun _ =>
    gives_bind fun _ => ended .throw) ?_
  refine gives_ite (jump_groups .break) ?_
  refine gives_ite (jump_groups .continue) ?_
  refine gives_ite (gives_bind fun _ => gives_bind fun _ =>
    gives_bind fun _ => ended .switch) ?_
  refine gives_ite trying_groups ?_
  refine gives_ite (gives_bind fun _ => gives_bind fun _ => ended .debugger) ?_
  refine gives_ite (gives_bind fun _ => ended .functionDeclaration) ?_
  refine gives_ite (gives_bind fun _ => ended .classDeclaration) ?_
  refine gives_ite (gives_bind fun _ => ended .interfaceDeclaration) ?_
  refine gives_ite (gives_bind fun _ => ended .typeAlias) ?_
  refine gives_ite (gives_bind fun _ => gives_bind fun _ => gives_bind fun _ =>
    gives_bind fun _ => ended .enumDeclaration) ?_
  refine gives_ite (gives_bind fun _ => ended .moduleDeclaration) ?_
  exact labeledOrEvaluation_groups groups

theorem statementForm_groups (groups : nested.Groups) :
    Gives (statementForm nested) FormGrouped := by
  refine gives_bind fun cursor => ?_
  split
  · exact (block_groups groups).bind fun _ grouped => gives_pure fun _ => grouped
  · refine gives_bind fun empty => ?_
    split
    · exact gives_pure (formGrouped_other _)
    split
    · exact wordStatement_groups groups _ _
    · exact evaluation_groups groups

theorem statement_groups (groups : nested.Groups) :
    Gives (statement nested) fun result => Grouped result.subexpressions :=
  gives_bind fun _ => (statementForm_groups groups).bind fun _ grouped =>
    gives_bind fun _ => gives_pure (grouped _)

end Grammar

theorem Nested.Groups.deeper {nested : Nested} (groups : nested.Groups) :
    nested.deeper.Groups where
  assignment := Grammar.assignment_groups groups
  binary := Grammar.binary_readsChain groups
  unary := Grammar.unary_groups groups
  statement := Grammar.statement_groups groups

theorem Nested.ofDepth_groups (depth : Nat) : (Nested.ofDepth depth).Groups := by
  induction depth with
  | zero => exact Nested.exhausted_groups
  | succ depth inductionHypothesis => exact inductionHypothesis.deeper

/-! ## Modules -/

namespace Grammar

variable {nested : Nested}

theorem function_groups (groups : nested.Groups) (modifiers : List Modifier)
    (start : Nat) :
    Gives (function nested modifiers start) fun result =>
      Grouped result.subexpressions := by
  have rest : ∀ (modifiers : List Modifier) (isGenerator : Bool)
      (name : Option Identifier),
      Gives (do
        skipTypeParameters
        let parameters ← parameters nested
        skipReturnType
        let body ←
          if (← get).sees .openBrace then do
            pure (some (← block nested))
          else do
            semicolon
            pure none
        return ({ name, modifiers, parameters, body, isGenerator,
                  span := ← spanFrom start } : FunctionDeclaration))
        fun result => Grouped result.subexpressions := by
    intro modifiers isGenerator name
    refine gives_bind fun _ => gives_bind fun _ => gives_bind fun _ =>
      gives_bind fun cursor => ?_
    split
    · exact (block_groups groups).bind fun _ grouped =>
        gives_pure_bind (gives_bind fun _ => gives_pure grouped)
    · exact gives_bind fun _ =>
        gives_pure_bind (gives_bind fun _ => gives_pure (every_nil _))
  refine gives_bind fun modifiers => gives_bind fun _ => gives_bind
    fun isGenerator => gives_bind fun cursor => ?_
  split
  · exact gives_bind fun _ => gives_pure_bind (rest _ _ _)
  · exact gives_pure_bind (rest _ _ _)

theorem exportedStatement_groups (form : Placement → Statement)
    (start leadingNewlines : Nat) :
    Gives (exportedStatement form start leadingNewlines) fun result =>
      Grouped result.subexpressions :=
  gives_bind fun _ => gives_pure (every_nil _)

theorem exportedItem_groups (groups : nested.Groups)
    (start leadingNewlines : Nat) :
    Gives (exportedItem nested start leadingNewlines) fun result =>
      Grouped result.subexpressions := by
  refine gives_bind fun isDefault => gives_bind fun cursor => ?_
  split
  · exact (function_groups groups _ start).bind fun _ grouped =>
      gives_pure grouped
  split
  · exact gives_bind fun _ => gives_bind fun _ => gives_pure (every_nil _)
  split
  · exact gives_bind fun _ => gives_bind fun _ => gives_when
      (gives_bind fun _ => exportedStatement_groups _ _ _)
  split
  · exact gives_bind fun _ => gives_bind fun _ => exportedStatement_groups _ _ _
  · exact gives_bind fun _ => exportedStatement_groups _ _ _

theorem item_groups (groups : nested.Groups) :
    Gives (item nested) fun result => Grouped result.subexpressions := by
  refine gives_bind fun cursor => ?_
  split
  · exact gives_bind fun _ => gives_pure (every_nil _)
  refine gives_bind fun exported => ?_
  split
  · exact exportedItem_groups groups _ _
  split
  · exact (function_groups groups [] _).bind fun _ grouped =>
      gives_pure grouped
  split
  · exact gives_bind fun _ => gives_bind fun _ => gives_pure (every_nil _)
  · exact gives_bind fun _ => gives_pure (every_nil _)

theorem items_group (groups : nested.Groups) :
    Gives (items nested) fun results =>
      ∀ result ∈ results, Grouped result.subexpressions := by
  refine gives_repeating (fun results =>
    ∀ result ∈ results, Grouped result.subexpressions) _
    (List.forall_mem_nil _) ?_
  intro results held
  refine gives_bind fun cursor => ?_
  split
  · exact gives_pure held
  · exact (item_groups groups).bind fun result grouped => gives_pure
      (List.forall_mem_append.mpr
        ⟨held, List.forall_mem_singleton.mpr grouped⟩)

end Grammar

/-- All operators of a parsed script have operands that need no parentheses. -/
theorem parse_grouped {text : String} {script : Module}
    (parsed : parse text = .ok script) : Grouped script.subexpressions := by
  simp only [parse] at parsed
  split at parsed
  · next items next ran =>
      cases parsed
      have grouped := Grammar.items_group (Nested.ofDepth_groups _) _ items
        next ran
      intro source member
      obtain ⟨item, inItems, inItem⟩ := List.mem_flatMap.mp member
      exact grouped item inItems source inItem
  · cases parsed

end VelocityScript.Script
