import VelocityScript.Script.Scope

/-!
# Operators in scripts

In a parsed script every operator has operands that bind at least as tightly
as the operator.  An assignment that combines the old value of its target with
a new one stands for an operator too, but its right side can be any expression:
it takes part in the combination as it is written only if it binds more
tightly.

Resolving names changes neither.
-/

namespace VelocityScript.Script

/-- The level of operators in front of an operand, above all others. -/
def prefixLevel : Nat := 12

/-- The least level of the right side with which an assignment can combine the
old value of its target.  A plain assignment asks for nothing. -/
def AssignmentOperator.valueLevel : AssignmentOperator → Nat
  | .add => BinaryOperator.add.rightLevel
  | .subtract => BinaryOperator.subtract.rightLevel
  | .multiply => BinaryOperator.multiply.rightLevel
  | .divide => BinaryOperator.divide.rightLevel
  | .remainder => BinaryOperator.remainder.rightLevel
  | _ => 0

namespace Expression

/-- Whether an expression can stand, without parentheses, where an operator of
at least the given level is expected. -/
def bindsFrom (least : Nat) : Expression → Bool
  | .binary operator _ _ _ => least ≤ operator.level
  | _ => true

/-- Whether the operands of an operator bind tightly enough to stand without
parentheses. -/
def isGrouped : Expression → Bool
  | .binary operator left right _ =>
      left.bindsFrom operator.level && right.bindsFrom operator.rightLevel
  | .unary _ operand _ => operand.bindsFrom prefixLevel
  | _ => true

/-- Whether the right side of an assignment binds more tightly than the
operator that combines it with the old value. -/
def combinesTightly : Expression → Bool
  | .assignment operator _ value _ => value.bindsFrom operator.valueLevel
  | _ => true

end Expression

mutual

/-- An expression and the expressions inside it.  Computed keys of objects are
left out. -/
def Expression.subexpressions : Expression → List Expression
  | .identifier named => [.identifier named]
  | .receiver span => [.receiver span]
  | .number text span => [.number text span]
  | .string text span => [.string text span]
  | .boolean truth span => [.boolean truth span]
  | .template head parts span =>
      .template head parts span :: subexpressionsOfParts parts
  | .array elements span => .array elements span :: subexpressionsOfAll elements
  | .object members span =>
      .object members span :: subexpressionsOfMembers members
  | .parenthesized inner span =>
      .parenthesized inner span :: inner.subexpressions
  | .unary operator operand span =>
      .unary operator operand span :: operand.subexpressions
  | .binary operator left right span =>
      .binary operator left right span ::
        (left.subexpressions ++ right.subexpressions)
  | .assignment operator target value span =>
      .assignment operator target value span ::
        (target.subexpressions ++ value.subexpressions)
  | .member object property isPrivate span =>
      .member object property isPrivate span :: object.subexpressions
  | .index object subscript span =>
      .index object subscript span ::
        (object.subexpressions ++ subscript.subexpressions)
  | .call callee arguments returns span =>
      .call callee arguments returns span ::
        (callee.subexpressions ++ subexpressionsOfAll arguments)
  | .other kind span => [.other kind span]

/-- The expressions in several expressions. -/
def subexpressionsOfAll : List Expression → List Expression
  | [] => []
  | source :: others => source.subexpressions ++ subexpressionsOfAll others

def TemplatePart.subexpressions : TemplatePart → List Expression
  | .mk source _ => source.subexpressions

/-- The expressions in the parts of a template literal. -/
def subexpressionsOfParts : List TemplatePart → List Expression
  | [] => []
  | part :: others => part.subexpressions ++ subexpressionsOfParts others

def ObjectMember.subexpressions : ObjectMember → List Expression
  | .shorthand _ => []
  | .property _ value _ => value.subexpressions
  | .other _ _ => []

/-- The expressions in the members of an object. -/
def subexpressionsOfMembers : List ObjectMember → List Expression
  | [] => []
  | member :: others =>
      member.subexpressions ++ subexpressionsOfMembers others

end

/-- The expressions in an expression that may be missing. -/
def subexpressionsOfOption : Option Expression → List Expression
  | none => []
  | some source => source.subexpressions

def subexpressionsOfDeclarations (declared : List Declaration) :
    List Expression :=
  declared.flatMap fun declaration => subexpressionsOfOption declaration.initial

mutual

/-- The expressions in a statement.  The header of a loop has none that a
template could hold. -/
def Statement.subexpressions : Statement → List Expression
  | .block statements _ => subexpressionsOfStatements statements
  | .expression evaluated _ => evaluated.subexpressions
  | .branch condition consequent alternative _ =>
      condition.subexpressions ++ consequent.subexpressions ++
        subexpressionsOfAlternative alternative
  | .loop _ iterable body _ => iterable.subexpressions ++ body.subexpressions
  | .result returned _ => subexpressionsOfOption returned
  | .declarations _ declared _ => subexpressionsOfDeclarations declared
  | .other _ _ => []

/-- The expressions in several statements. -/
def subexpressionsOfStatements : List Statement → List Expression
  | [] => []
  | statement :: others =>
      statement.subexpressions ++ subexpressionsOfStatements others

/-- The expressions in the other side of a branch. -/
def subexpressionsOfAlternative : Option Statement → List Expression
  | none => []
  | some statement => statement.subexpressions

end

def FunctionDeclaration.subexpressions (function : FunctionDeclaration) :
    List Expression :=
  match function.body with
  | none => []
  | some body => subexpressionsOfStatements body.statements

/-- The expressions in an item of a module, if it is a function. -/
def Item.subexpressions : Item → List Expression
  | .function declared => declared.subexpressions
  | _ => []

def Module.subexpressions (script : Module) : List Expression :=
  script.items.flatMap Item.subexpressions

/-- All of some expressions satisfy a condition. -/
def Every (test : Expression → Bool) (sources : List Expression) : Prop :=
  ∀ source ∈ sources, test source = true

instance (test : Expression → Bool) (sources : List Expression) :
    Decidable (Every test sources) :=
  inferInstanceAs (Decidable (∀ source ∈ sources, test source = true))

theorem every_nil (test : Expression → Bool) : Every test [] := by
  intro source member
  cases member

theorem every_cons {test : Expression → Bool} {source : Expression}
    {others : List Expression} :
    Every test (source :: others) ↔ test source = true ∧ Every test others :=
  List.forall_mem_cons

theorem every_append {test : Expression → Bool}
    {first second : List Expression} :
    Every test (first ++ second) ↔ Every test first ∧ Every test second :=
  List.forall_mem_append

theorem every_all {test : Expression → Bool} {sources : List Expression} :
    Every test (subexpressionsOfAll sources) ↔
      ∀ source ∈ sources, Every test source.subexpressions := by
  induction sources with
  | nil => simp [subexpressionsOfAll, every_nil]
  | cons source others inductionHypothesis =>
      rw [subexpressionsOfAll, every_append, inductionHypothesis,
        List.forall_mem_cons]

theorem every_parts {test : Expression → Bool} {parts : List TemplatePart} :
    Every test (subexpressionsOfParts parts) ↔
      ∀ part ∈ parts, Every test part.subexpressions := by
  induction parts with
  | nil => simp [subexpressionsOfParts, every_nil]
  | cons part others inductionHypothesis =>
      rw [subexpressionsOfParts, every_append, inductionHypothesis,
        List.forall_mem_cons]

theorem every_members {test : Expression → Bool}
    {members : List ObjectMember} :
    Every test (subexpressionsOfMembers members) ↔
      ∀ member ∈ members, Every test member.subexpressions := by
  induction members with
  | nil => simp [subexpressionsOfMembers, every_nil]
  | cons member others inductionHypothesis =>
      rw [subexpressionsOfMembers, every_append, inductionHypothesis,
        List.forall_mem_cons]

theorem every_statements {test : Expression → Bool}
    {statements : List Statement} :
    Every test (subexpressionsOfStatements statements) ↔
      ∀ statement ∈ statements, Every test statement.subexpressions := by
  induction statements with
  | nil => simp [subexpressionsOfStatements, every_nil]
  | cons statement others inductionHypothesis =>
      rw [subexpressionsOfStatements, every_append, inductionHypothesis,
        List.forall_mem_cons]

/-! ## Resolved names -/

mutual

theorem Expression.subexpressions_resolve (scope : Scope) :
    ∀ source : Expression, (source.resolve scope).subexpressions =
      source.subexpressions.map (Expression.resolve scope)
  | .identifier _ | .receiver _ | .number _ _ | .string _ _ | .boolean _ _
  | .other _ _ => rfl
  | .template _ parts _ => by
      simp only [Expression.resolve, Expression.subexpressions, List.map_cons,
        subexpressionsOfParts_resolve scope parts]
  | .array elements _ => by
      simp only [Expression.resolve, Expression.subexpressions, List.map_cons,
        subexpressionsOfAll_resolve scope elements]
  | .object members _ => by
      simp only [Expression.resolve, Expression.subexpressions, List.map_cons,
        subexpressionsOfMembers_resolve scope members]
  | .parenthesized inner _ => by
      simp only [Expression.resolve, Expression.subexpressions, List.map_cons,
        Expression.subexpressions_resolve scope inner]
  | .unary _ operand _ => by
      simp only [Expression.resolve, Expression.subexpressions, List.map_cons,
        Expression.subexpressions_resolve scope operand]
  | .binary _ left right _ => by
      simp only [Expression.resolve, Expression.subexpressions, List.map_cons,
        List.map_append, Expression.subexpressions_resolve scope left,
        Expression.subexpressions_resolve scope right]
  | .assignment _ target value _ => by
      simp only [Expression.resolve, Expression.subexpressions, List.map_cons,
        List.map_append, Expression.subexpressions_resolve scope target,
        Expression.subexpressions_resolve scope value]
  | .member object _ _ _ => by
      simp only [Expression.resolve, Expression.subexpressions, List.map_cons,
        Expression.subexpressions_resolve scope object]
  | .index object subscript _ => by
      simp only [Expression.resolve, Expression.subexpressions, List.map_cons,
        List.map_append, Expression.subexpressions_resolve scope object,
        Expression.subexpressions_resolve scope subscript]
  | .call callee arguments _ _ => by
      simp only [Expression.resolve, Expression.subexpressions, List.map_cons,
        List.map_append, Expression.subexpressions_resolve scope callee,
        subexpressionsOfAll_resolve scope arguments]

theorem subexpressionsOfAll_resolve (scope : Scope) :
    ∀ sources : List Expression,
      subexpressionsOfAll (resolveExpressions scope sources) =
        (subexpressionsOfAll sources).map (Expression.resolve scope)
  | [] => rfl
  | source :: others => by
      simp only [resolveExpressions, subexpressionsOfAll, List.map_append,
        Expression.subexpressions_resolve scope source,
        subexpressionsOfAll_resolve scope others]

theorem subexpressionsOfParts_resolve (scope : Scope) :
    ∀ parts : List TemplatePart,
      subexpressionsOfParts (resolveParts scope parts) =
        (subexpressionsOfParts parts).map (Expression.resolve scope)
  | [] => rfl
  | .mk source _ :: others => by
      simp only [resolveParts, subexpressionsOfParts,
        TemplatePart.subexpressions, List.map_append,
        Expression.subexpressions_resolve scope source,
        subexpressionsOfParts_resolve scope others]

theorem subexpressionsOfMembers_resolve (scope : Scope) :
    ∀ members : List ObjectMember,
      subexpressionsOfMembers (resolveMembers scope members) =
        (subexpressionsOfMembers members).map (Expression.resolve scope)
  | [] => rfl
  | .shorthand _ :: others => by
      simp only [resolveMembers, subexpressionsOfMembers,
        ObjectMember.subexpressions, List.nil_append,
        subexpressionsOfMembers_resolve scope others]
  | .property _ value _ :: others => by
      simp only [resolveMembers, subexpressionsOfMembers,
        ObjectMember.subexpressions, List.map_append,
        Expression.subexpressions_resolve scope value,
        subexpressionsOfMembers_resolve scope others]
  | .other _ _ :: others => by
      simp only [resolveMembers, subexpressionsOfMembers,
        ObjectMember.subexpressions, List.nil_append,
        subexpressionsOfMembers_resolve scope others]

end

/-- A condition on expressions that does not ask what names stand for. -/
def IgnoresScope (test : Expression → Bool) : Prop :=
  ∀ scope source, test (source.resolve scope) = test source

theorem bindsFrom_ignoresScope (least : Nat) :
    IgnoresScope (Expression.bindsFrom least) := by
  intro scope source
  cases source <;> rfl

theorem isGrouped_ignoresScope : IgnoresScope Expression.isGrouped := by
  intro scope source
  cases source with
  | binary operator left right span =>
      simp only [Expression.resolve, Expression.isGrouped,
        bindsFrom_ignoresScope _ scope left,
        bindsFrom_ignoresScope _ scope right]
  | unary operator operand span =>
      exact bindsFrom_ignoresScope prefixLevel scope operand
  | _ => rfl

theorem combinesTightly_ignoresScope :
    IgnoresScope Expression.combinesTightly := by
  intro scope source
  cases source with
  | assignment operator target value span =>
      exact bindsFrom_ignoresScope operator.valueLevel scope value
  | _ => rfl

section Resolved

variable {test : Expression → Bool}

theorem every_resolve (ignores : IgnoresScope test) (scope : Scope)
    (source : Expression) :
    Every test (source.resolve scope).subexpressions ↔
      Every test source.subexpressions := by
  rw [Every, Expression.subexpressions_resolve, List.forall_mem_map]
  simp only [ignores scope]
  rfl

theorem every_resolve_option (ignores : IgnoresScope test) (scope : Scope)
    (source : Option Expression) :
    Every test (subexpressionsOfOption (source.map (Expression.resolve scope))) ↔
      Every test (subexpressionsOfOption source) := by
  cases source with
  | none => exact Iff.rfl
  | some source => exact every_resolve ignores scope source

theorem every_resolve_declarations (ignores : IgnoresScope test) (scope : Scope)
    (declared : List Declaration) :
    Every test
        (subexpressionsOfDeclarations (declared.map (Declaration.resolve scope))) ↔
      Every test (subexpressionsOfDeclarations declared) := by
  induction declared with
  | nil => exact Iff.rfl
  | cons declaration others inductionHypothesis =>
      simp only [subexpressionsOfDeclarations, List.map_cons,
        List.flatMap_cons, every_append] at inductionHypothesis ⊢
      rw [inductionHypothesis]
      exact and_congr_left fun _ =>
        every_resolve_option ignores scope declaration.initial

mutual

theorem every_resolve_statement (ignores : IgnoresScope test) :
    ∀ (scope : Scope) (source : Statement),
      Every test (source.resolve scope).subexpressions ↔
        Every test source.subexpressions
  | scope, .block statements _ =>
      every_resolve_statements ignores (scope.enter statements) statements
  | scope, .expression evaluated _ => every_resolve ignores scope evaluated
  | scope, .branch condition consequent alternative _ => by
      simp only [Statement.resolve, Statement.subexpressions, every_append]
      rw [every_resolve ignores scope condition,
        every_resolve_statement ignores _ consequent,
        every_resolve_alternative ignores scope alternative]
  | scope, .loop header iterable body _ => by
      simp only [Statement.resolve, Statement.subexpressions, every_append]
      rw [every_resolve ignores scope iterable,
        every_resolve_statement ignores _ body]
  | scope, .result returned _ => every_resolve_option ignores scope returned
  | scope, .declarations _ declared _ =>
      every_resolve_declarations ignores scope declared
  | _, .other _ _ => Iff.rfl

theorem every_resolve_statements (ignores : IgnoresScope test) :
    ∀ (scope : Scope) (sources : List Statement),
      Every test (subexpressionsOfStatements (resolveStatements scope sources)) ↔
        Every test (subexpressionsOfStatements sources)
  | _, [] => Iff.rfl
  | scope, source :: others => by
      simp only [resolveStatements, subexpressionsOfStatements, every_append]
      rw [every_resolve_statement ignores scope source,
        every_resolve_statements ignores scope others]

theorem every_resolve_alternative (ignores : IgnoresScope test) :
    ∀ (scope : Scope) (source : Option Statement),
      Every test (subexpressionsOfAlternative (resolveAlternative scope source)) ↔
        Every test (subexpressionsOfAlternative source)
  | _, none => Iff.rfl
  | scope, some source =>
      every_resolve_statement ignores (scope.enter [source]) source

end

theorem every_resolve_item (ignores : IgnoresScope test) (scope : Scope)
    (item : Item) :
    Every test (item.resolve scope).subexpressions ↔
      Every test item.subexpressions := by
  cases item with
  | function declared =>
      simp only [Item.resolve, Item.subexpressions,
        FunctionDeclaration.subexpressions, FunctionDeclaration.resolve]
      cases declared.body with
      | none => exact Iff.rfl
      | some body => exact every_resolve_statements ignores _ body.statements
  | _ => exact Iff.rfl

/-- Resolving the names of a module keeps what does not ask what names stand
for. -/
theorem every_resolve_module (ignores : IgnoresScope test) (script : Module) :
    Every test script.resolve.subexpressions ↔
      Every test script.subexpressions := by
  simp only [Module.resolve, Module.subexpressions]
  induction script.items with
  | nil => exact Iff.rfl
  | cons item others inductionHypothesis =>
      simp only [List.map_cons, List.flatMap_cons, every_append]
      rw [inductionHypothesis, every_resolve_item ignores script.scope item]

end Resolved

end VelocityScript.Script
