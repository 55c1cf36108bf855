import VelocityScript.Proofs.Lowering.Adequacy
import VelocityScript.Proofs.Lowering.ParallelLowering
import VelocityScript.Proofs.Script.Aliasing

/-!
# Renamed scripts match

A script with an alias for a helper matches the original one.  A call of a helper
is lowered by the name of the export, whatever the name it is called by; a helper
that stands as a value is lowered by the name in the script, so only there do the
two differ.
-/

namespace VelocityScript.Lowering

open Script

/-! ## Where an alias shows -/

/-- Among the given names, one is the alias of a helper. -/
def IsRead (exported nickname : String) (mentioned : List Identifier) : Prop :=
  ∃ span moduleName kind,
    ⟨nickname, span, .helper moduleName exported kind⟩ ∈ mentioned

/-- The sites where an alias shows: a variable with the name of the export is one
with the alias in the other template, where the alias is among the given names. -/
def aliasSites (exported nickname : String) (mentioned : List Identifier) :
    Sites where
  exchanged here there := ∃ span moduleName kind,
    ⟨nickname, span, .helper moduleName exported kind⟩ ∈ mentioned ∧
      here = .name ⟨bareName exported, some span⟩ ∧
        there = ⟨bareName nickname, some span⟩
  dropped _ := False
  origin_eq := by
    rintro _ _ ⟨span, _, _, -, rfl, rfl⟩
    rfl
  not_call := by
    rintro _ _ ⟨span, _, _, -, rfl, -⟩ origin
    rfl

/-- An alias that is not read, or is the name of the export but for a leading `$`,
shows nowhere. -/
theorem aliasSites_uniform {exported nickname : String}
    {mentioned : List Identifier}
    (hidden : bareName nickname = bareName exported ∨
      ¬IsRead exported nickname mentioned) :
    (aliasSites exported nickname mentioned).Uniform where
  exchanged := by
    rintro _ _ ⟨span, moduleName, kind, member, rfl, rfl⟩
    rcases hidden with bare | unread
    · rw [bare]
    · exact absurd ⟨span, moduleName, kind, member⟩ unread
  dropped _ := id

/-- An identifier matches itself, or the alias that a helper has instead of its
own name. -/
inductive AliasMatch (exported nickname : String) (mentioned : List Identifier) :
    Identifier → Identifier → Prop
  | same {named : Identifier} :
      AliasMatch exported nickname mentioned named named
  | moved {span : Span} {moduleName : String} {kind : HelperKind} :
      Template.isValidIdentifier exported = true →
      ⟨nickname, span, .helper moduleName exported kind⟩ ∈ mentioned →
      AliasMatch exported nickname mentioned
        ⟨exported, span, .helper moduleName exported kind⟩
        ⟨nickname, span, .helper moduleName exported kind⟩

def aliasing (exported nickname : String) (mentioned : List Identifier) :
    Matching where
  names := AliasMatch exported nickname mentioned
  receivers _ := True
  evaluated _ := True
  span_eq names := by cases names <;> rfl

/-- What matches is lowered alike, but for the alias. -/
theorem aliasing_agrees {exported nickname : String} {mentioned : List Identifier}
    (target : Target) (valid : Template.isValidIdentifier nickname = true) :
    Agreement (aliasSites exported nickname mentioned)
      (aliasing exported nickname mentioned) target target where
  names same := by
    cases same with
    | same => exact parallel_lowerIdentifier target _
    | moved exportedValid member =>
        have here : ∀ span, lowerName exported span =
            pure (some ⟨bareName exported, some span⟩) :=
          fun span => if_pos exportedValid
        have there : ∀ span, lowerName nickname span =
            pure (some ⟨bareName nickname, some span⟩) :=
          fun span => if_pos valid
        have shown : ExpressionCounterpart
            (aliasSites exported nickname mentioned) _ _ :=
          .ofPath (.exchanged ⟨_, _, _, member, rfl, rfl⟩)
        simp only [lowerIdentifier, here, there, reduceCtorEq, and_false, if_false]
        split
        · refine Parallel.bind (parallel_modify ?_) fun _ _ _ =>
            parallel_pure (.some shown)
          intro first second states
          exact { states with needsStringClass := rfl }
        · exact parallel_pure (.some shown)
  receivers _ := .name
  discards := by
    intro source hereCall thereCall _ _ _ references
    obtain ⟨herePath, origin⟩ := hereCall
    obtain ⟨therePath, _⟩ := thereCall
    obtain ⟨path, same⟩ := references
    cases same
    cases target with
    | appsync =>
        exact .cons (.emit (.reference (.call .name (.cons (.reference path) .nil))))
          (.single .newLine)
    | apigateway =>
        exact .single (.assign ⟨.name, rfl⟩ (.ofValue (.reference path)))

/-! ## Renamed scripts match -/

variable {old new : String} {change : String → String} {scope other : Scope}
variable {mentioned : List Identifier}

/-- The names that a part of a script reaches are valid, and those that it
reaches with the alias are among the given ones. -/
structure Mentions (mentioned : List Identifier) (here there : Reach) : Prop where
  valid : ∀ named ∈ here.mentioned, Template.isValidIdentifier named.name = true
  among : there.mentioned ⊆ mentioned

namespace Mentions

variable {here hereOther there thereOther : Reach}

theorem left
    (mentions : Mentions mentioned (here ++ hereOther) (there ++ thereOther)) :
    Mentions mentioned here there where
  valid named member := mentions.valid named (List.mem_append_left _ member)
  among := List.Subset.trans (List.subset_append_left _ _) mentions.among

theorem right
    (mentions : Mentions mentioned (here ++ hereOther) (there ++ thereOther)) :
    Mentions mentioned hereOther thereOther where
  valid named member := mentions.valid named (List.mem_append_right _ member)
  among := List.Subset.trans (List.subset_append_right _ _) mentions.among

end Mentions

/-- A renamed identifier stands for the same. -/
theorem binding_rename (renames : Renames old new change scope other)
    {named : Identifier} (fresh : new ∉ named.names) :
    ((named.rename change).resolve other).binding =
      (named.resolve scope).binding :=
  renames.same named.name fun same => fresh (same ▸ name_mem_names named)

theorem match_identifier (renames : Renames old new change scope other)
    {named : Identifier} (fresh : new ∉ named.names)
    (mentions : Mentions mentioned { mentioned := [named.resolve scope] }
      { mentioned := [(named.rename change).resolve other] }) :
    AliasMatch old new mentioned (named.resolve scope)
      ((named.rename change).resolve other) := by
  have bindings := binding_rename renames fresh
  have valid := mentions.valid _ List.mem_cons_self
  have member := mentions.among List.mem_cons_self
  obtain ⟨name, span, binding⟩ := named
  simp only [Identifier.rename, Identifier.resolve] at bindings valid member ⊢
  rw [bindings] at member ⊢
  rcases renames.moved name with kept | ⟨isOld, moved, moduleName, kind, helper⟩
  · rw [kept]
    exact .same
  · rw [moved, helper] at member ⊢
    rw [isOld] at valid ⊢
    exact .moved valid member

/-! ## Expressions -/

theorem span_resolve (scope : Scope) (source : Expression) :
    (source.resolve scope).span = source.span := by
  cases source <;> rfl

theorem span_rename_resolve (change : String → String) (scope other : Scope)
    (source : Expression) :
    ((source.rename change).resolve other).span = (source.resolve scope).span := by
  rw [span_resolve, span_resolve, span_rename]

theorem calleeForm_rename (renames : Renames old new change scope other)
    {callee : Expression} (fresh : new ∉ callee.names) :
    calleeForm ((callee.rename change).resolve other) =
      calleeForm (callee.resolve scope) := by
  cases callee with
  | identifier named =>
      have same := binding_rename renames fresh
      simp only [Expression.rename, Expression.resolve, calleeForm, same]
      rfl
  | _ => rfl

theorem calleeReturn_rename (renames : Renames old new change scope other)
    (arity : Nat) :
    ∀ (callee : Expression) (properties : List String), new ∉ callee.names →
      calleeReturn arity ((callee.rename change).resolve other) properties =
        calleeReturn arity (callee.resolve scope) properties
  | .member object property _ _, properties, fresh =>
      calleeReturn_rename renames arity object (property.name :: properties)
        fun member => fresh (List.mem_append_left _ member)
  | .parenthesized inner _, properties, fresh =>
      calleeReturn_rename renames arity inner properties fresh
  | .identifier named, properties, fresh => by
      have same := binding_rename renames fresh
      simp only [Expression.rename, Expression.resolve, calleeReturn, same]
  | .receiver _, _, _ | .number _ _, _, _ | .string _ _, _, _
  | .boolean _ _, _, _ | .template _ _ _, _, _ | .array _ _, _, _
  | .object _ _, _, _ | .unary _ _ _, _, _ | .binary _ _ _ _, _, _
  | .assignment _ _ _ _, _, _ | .index _ _ _, _, _ | .call _ _ _ _, _, _
  | .other _ _, _, _ => rfl

theorem length_renameExpressions (change : String → String)
    (sources : List Expression) :
    (renameExpressions change sources).length = sources.length := by
  induction sources with
  | nil => rfl
  | cons source others inductionHypothesis =>
      exact congrArg Nat.succ inductionHypothesis

theorem fresh_append {names others : List String} (fresh : new ∉ names ++ others) :
    new ∉ names ∧ new ∉ others :=
  not_or.mp (mt List.mem_append.mpr fresh)

theorem lowerPropertyName_rename (change : String → String) (scope other : Scope)
    (name : PropertyName) :
    lowerPropertyName ((name.rename change).resolve other) =
      lowerPropertyName (name.resolve scope) := by
  cases name <;> rfl

mutual

/-- The renamed expression matches the original one. -/
theorem match_rename (renames : Renames old new change scope other) :
    ∀ source : Expression, new ∉ source.names →
      Mentions mentioned (source.resolve scope).reach
          ((source.rename change).resolve other).reach →
        ExpressionMatch (aliasing old new mentioned) (source.resolve scope)
          ((source.rename change).resolve other)
  | .identifier _, fresh, mentions =>
      .identifier (match_identifier renames fresh mentions)
  | .receiver _, _, _ => .receiver trivial
  | .number _ _, _, _ => .number
  | .string _ _, _, _ => .string
  | .boolean _ _, _, _ => .boolean
  | .other _ _, _, _ => .other
  | .template _ parts _, fresh, mentions =>
      .template (match_renameParts renames parts fresh mentions.right)
  | .array elements _, fresh, mentions =>
      .array (match_renameAll renames elements fresh mentions)
  | .object members _, fresh, mentions =>
      .object (match_renameMembers renames members fresh mentions)
  | .parenthesized inner _, fresh, mentions =>
      .parenthesized (match_rename renames inner fresh mentions)
  | .unary _ operand _, fresh, mentions =>
      .unary (match_rename renames operand fresh mentions)
  | .binary _ left right _, fresh, mentions =>
      .binary (match_rename renames left (fresh_append fresh).1 mentions.left)
        (match_rename renames right (fresh_append fresh).2 mentions.right)
  | .assignment _ place value _, fresh, mentions =>
      .assignment (match_rename renames place (fresh_append fresh).1 mentions.left)
        (match_rename renames value (fresh_append fresh).2 mentions.right)
  | .member object _ _ _, fresh, mentions =>
      .member (match_rename renames object (fresh_append fresh).1 mentions)
  | .index object subscript _, fresh, mentions =>
      .index (match_rename renames object (fresh_append fresh).1 mentions.left)
        (match_rename renames subscript (fresh_append fresh).2 mentions.right)
  | .call callee arguments _ span, fresh, mentions => by
      obtain ⟨calleeFresh, argumentsFresh⟩ := fresh_append fresh
      have callees := match_rename renames callee calleeFresh
      have all := match_renameAll renames arguments argumentsFresh
      have bounds := match_renameBounds renames arguments argumentsFresh
      have forms := calleeForm_rename renames calleeFresh
      have returns :=
        calleeReturn_rename renames arguments.length callee [] calleeFresh
      simp only [Expression.rename, Expression.resolve, Expression.reach,
        length_renameExpressions, returns, forms] at mentions ⊢
      cases form : calleeForm (callee.resolve scope) with
      | unsupported syntaxName =>
          exact .otherCall form (forms.trans form)
            (span_rename_resolve change scope other callee).symm
      | method =>
          simp only [form] at mentions
          exact .methodCall form (forms.trans form) (callees mentions.left)
            (all mentions.right)
      -- A helper that is called is not lowered itself: its own name may change.
      | helper exported nameSpan =>
          simp only [form] at mentions
          by_cases isRange : exported = Catalogue.rangeHelper
          · simp only [if_pos isRange] at mentions
            rw [isRange] at form
            exact .rangeCall form (forms.trans form) (bounds mentions)
          · simp only [if_neg isRange] at mentions
            exact .helperCall form (forms.trans form) isRange (all mentions)

theorem match_renameAll (renames : Renames old new change scope other) :
    ∀ sources : List Expression, new ∉ namesOfAll sources →
      Mentions mentioned (reachOfAll (resolveExpressions scope sources))
          (reachOfAll (resolveExpressions other (renameExpressions change sources))) →
        List.Forall₂ (ExpressionMatch (aliasing old new mentioned))
          (resolveExpressions scope sources)
          (resolveExpressions other (renameExpressions change sources))
  | [], _, _ => .nil
  | source :: others, fresh, mentions =>
      .cons (match_rename renames source (fresh_append fresh).1 mentions.left)
        (match_renameAll renames others (fresh_append fresh).2 mentions.right)

theorem match_renameBounds (renames : Renames old new change scope other) :
    ∀ sources : List Expression, new ∉ namesOfAll sources →
      Mentions mentioned (reachOfBounds (resolveExpressions scope sources))
          (reachOfBounds
            (resolveExpressions other (renameExpressions change sources))) →
        BoundsMatch (aliasing old new mentioned) (resolveExpressions scope sources)
          (resolveExpressions other (renameExpressions change sources))
  | [], _, _ => .nil
  | [lowest], fresh, mentions =>
      .single (match_rename renames lowest (fresh_append fresh).1 mentions)
  | lowest :: highest :: _, fresh, mentions =>
      .pair (match_rename renames lowest (fresh_append fresh).1 mentions.left)
        (match_rename renames highest (fresh_append (fresh_append fresh).2).1
          mentions.right)

theorem match_renameParts (renames : Renames old new change scope other) :
    ∀ parts : List TemplatePart, new ∉ namesOfParts parts →
      Mentions mentioned (reachOfParts (resolveParts scope parts))
          (reachOfParts (resolveParts other (renameParts change parts))) →
        List.Forall₂ (PartMatch (aliasing old new mentioned))
          (resolveParts scope parts) (resolveParts other (renameParts change parts))
  | [], _, _ => .nil
  | .mk source _ :: others, fresh, mentions =>
      .cons
        (.mk (match_rename renames source (fresh_append fresh).1 mentions.left.left))
        (match_renameParts renames others (fresh_append fresh).2 mentions.right)

theorem match_renameMembers (renames : Renames old new change scope other) :
    ∀ members : List ObjectMember, new ∉ namesOfMembers members →
      Mentions mentioned (reachOfMembers (resolveMembers scope members))
          (reachOfMembers (resolveMembers other (renameMembers change members))) →
        List.Forall₂ (MemberMatch (aliasing old new mentioned))
          (resolveMembers scope members)
          (resolveMembers other (renameMembers change members))
  | [], _, _ => .nil
  | .shorthand named :: others, fresh, mentions => by
      obtain ⟨namedFresh, othersFresh⟩ := fresh_append fresh
      -- A shorthand that is renamed is written out, with its key as it was.
      by_cases kept : change named.name = named.name
      · have unchanged : named.rename change = named := by
          rw [Identifier.rename, kept]
        rw [renameMembers, if_pos kept] at mentions ⊢
        have names : AliasMatch old new mentioned (named.resolve scope)
            ((named.rename change).resolve other) := by
          refine match_identifier renames namedFresh ?_
          rw [unchanged]
          exact mentions.left
        rw [unchanged] at names
        exact .cons (.shorthand rfl names)
          (match_renameMembers renames others othersFresh mentions.right)
      · rw [renameMembers, if_neg kept] at mentions ⊢
        exact .cons
          (.writtenOut rfl rfl (match_identifier renames namedFresh mentions.left))
          (match_renameMembers renames others othersFresh mentions.right)
  | .property name value _ :: others, fresh, mentions =>
      .cons
        (.property (lowerPropertyName_rename change scope other name).symm
          (match_rename renames value (fresh_append fresh).1 mentions.left))
        (match_renameMembers renames others (fresh_append fresh).2 mentions.right)
  | .other _ _ :: others, fresh, mentions =>
      .cons .other (match_renameMembers renames others fresh mentions.right)

end

theorem match_renameOption (renames : Renames old new change scope other) :
    ∀ source : Option Expression, new ∉ namesOfOption source →
      Mentions mentioned (reachOfOption (source.map (Expression.resolve scope)))
          (reachOfOption
            ((source.map (Expression.rename change)).map
              (Expression.resolve other))) →
        Option.Rel (ExpressionMatch (aliasing old new mentioned))
          (source.map (Expression.resolve scope))
          ((source.map (Expression.rename change)).map (Expression.resolve other))
  | none, _, _ => .none
  | some source, fresh, mentions =>
      .some (match_rename renames source fresh mentions)

/-! ## Statements -/

theorem length_resolveElements (scope : Scope) (elements : List BindingElement) :
    (resolveElements scope elements).length = elements.length := by
  induction elements with
  | nil => rfl
  | cons element others inductionHypothesis =>
      cases element <;> exact congrArg Nat.succ inductionHypothesis

theorem entryNames?_resolve (scope : Scope) (elements : List BindingElement) :
    entryNames? (resolveElements scope elements) =
      (entryNames? elements).map fun names =>
        (names.1.resolve scope, names.2.resolve scope) := by
  by_cases size : elements.length = 2
  · match elements, size with
    | [first, second], _ =>
        rcases first with _ | ⟨_ | _ | _⟩ <;>
          rcases second with _ | ⟨_ | _ | _⟩ <;> rfl
  · have nameless : ∀ {others : List BindingElement}, others.length ≠ 2 →
        entryNames? others = none := fun different =>
      Option.eq_none_iff_forall_ne_some.mpr fun _ found =>
        different (entryNames?_length found)
    have sameSize := length_resolveElements scope elements
    rw [nameless size, nameless (sameSize.symm ▸ size), Option.map_none]

/-- What the names of a pattern stand for does not matter to its lowering. -/
theorem match_resolve_pattern (scope other : Scope) (pattern : BindingName) :
    PatternMatch (pattern.resolve scope) (pattern.resolve other) := by
  cases pattern with
  | identifier named => exact .identifier ⟨rfl, rfl⟩
  | object properties span => exact .object
  | array elements span =>
      refine .array ?_ ?_
      · rw [length_resolveElements, length_resolveElements]
      · rw [entryNames?_resolve, entryNames?_resolve]
        cases entryNames? elements with
        | none => exact .none
        | some names => exact .some ⟨⟨rfl, rfl⟩, ⟨rfl, rfl⟩⟩

theorem match_renameDeclaration (renames : Renames old new change scope other)
    {declared : Declaration} (fresh : new ∉ declared.allNames)
    (mentions : Mentions mentioned (declared.resolve scope).reach
      ((declared.rename change).resolve other).reach) :
    DeclarationMatch (aliasing old new mentioned) (declared.resolve scope)
      ((declared.rename change).resolve other) where
  name := match_resolve_pattern scope other declared.name
  initial := by
    obtain ⟨name, initial, span⟩ := declared
    cases initial with
    | none => exact .none
    | some initial =>
        exact .some
          (match_rename renames initial (fresh_append fresh).2 mentions.right)
  span := rfl

theorem match_renameDeclarations (renames : Renames old new change scope other) :
    ∀ declared : List Declaration, new ∉ namesOfDeclarations declared →
      Mentions mentioned
          (reachOfDeclarations (declared.map (Declaration.resolve scope)))
          (reachOfDeclarations
            ((declared.map (Declaration.rename change)).map
              (Declaration.resolve other))) →
        List.Forall₂ (DeclarationMatch (aliasing old new mentioned))
          (declared.map (Declaration.resolve scope))
          ((declared.map (Declaration.rename change)).map
            (Declaration.resolve other))
  | [], _, _ => .nil
  | _ :: others, fresh, mentions =>
      .cons
        (match_renameDeclaration renames (fresh_append fresh).1 mentions.left)
        (match_renameDeclarations renames others (fresh_append fresh).2
          mentions.right)

mutual

theorem match_renameStatement :
    ∀ (source : Statement) {change : String → String} {scope other : Scope},
      Renames old new change scope other → new ∉ source.names →
      Mentions mentioned (source.resolve scope).reach
          ((source.rename change).resolve other).reach →
        StatementMatch (aliasing old new mentioned) (source.resolve scope)
          ((source.rename change).resolve other)
  | .block statements _, _, _, _, renames, fresh, mentions =>
      .block (match_renameStatements statements (renames.enter fresh _) fresh
        mentions)
  | .expression evaluated _, _, _, _, renames, fresh, mentions =>
      .expression trivial (match_rename renames evaluated fresh mentions.right)
  | .branch condition consequent alternative _, _, _, _, renames, fresh,
      mentions => by
      obtain ⟨earlierFresh, alternativeFresh⟩ := fresh_append fresh
      obtain ⟨conditionFresh, consequentFresh⟩ := fresh_append earlierFresh
      exact .branch
        (match_rename renames condition conditionFresh mentions.left.left)
        (match_renameStatement consequent (renames.enterOne consequentFresh _)
          consequentFresh mentions.left.right)
        (match_renameAlternative alternative renames alternativeFresh
          mentions.right)
  | .loop header iterable body _, change, _, _, renames, fresh, mentions => by
      obtain ⟨earlierFresh, bodyFresh⟩ := fresh_append fresh
      obtain ⟨headerFresh, iterableFresh⟩ := fresh_append earlierFresh
      have inner := renames.header headerFresh (sparing header.boundNames change)
      have bodies := match_renameStatement body (inner.enterOne bodyFresh _) bodyFresh
        mentions.right
      have iterables :=
        match_rename renames iterable iterableFresh mentions.left.right
      cases header with
      | declaration declared =>
          exact .loop (match_resolve_pattern _ _ declared.name) iterables bodies
      | expression assigned =>
          refine .otherLoop ?_
          rw [span_resolve, span_resolve, span_rename]
  | .result returned _, _, _, _, renames, fresh, mentions =>
      .result (match_renameOption renames returned fresh mentions)
  | .declarations _ declared _, _, _, _, renames, fresh, mentions =>
      .declarations (match_renameDeclarations renames declared fresh mentions)
  | .other _ _, _, _, _, _, _, _ => .other

theorem match_renameStatements :
    ∀ (sources : List Statement) {change : String → String} {scope other : Scope},
      Renames old new change scope other → new ∉ namesOfStatements sources →
      Mentions mentioned (reachOfStatements (resolveStatements scope sources))
          (reachOfStatements
            (resolveStatements other (renameStatements change sources))) →
        List.Forall₂ (StatementMatch (aliasing old new mentioned))
          (resolveStatements scope sources)
          (resolveStatements other (renameStatements change sources))
  | [], _, _, _, _, _, _ => .nil
  | source :: others, _, _, _, renames, fresh, mentions =>
      .cons
        (match_renameStatement source renames (fresh_append fresh).1 mentions.left)
        (match_renameStatements others renames (fresh_append fresh).2 mentions.right)

theorem match_renameAlternative :
    ∀ (source : Option Statement) {change : String → String} {scope other : Scope},
      Renames old new change scope other → new ∉ namesOfAlternative source →
      Mentions mentioned (reachOfAlternative (resolveAlternative scope source))
          (reachOfAlternative
            (resolveAlternative other (renameAlternative change source))) →
        Option.Rel (StatementMatch (aliasing old new mentioned))
          (resolveAlternative scope source)
          (resolveAlternative other (renameAlternative change source))
  | none, _, _, _, _, _, _ => .none
  | some source, _, _, _, renames, fresh, mentions =>
      .some (match_renameStatement source (renames.enterOne fresh _) fresh mentions)

end

theorem match_renameFunction (renames : Renames old new change scope other)
    {function : FunctionDeclaration}
    (fresh : new ∉ parameterNames function.parameters ++ function.names)
    (mentions : Mentions mentioned (function.resolve scope).reach
      ((function.rename change).resolve other).reach) :
    FunctionMatch (aliasing old new mentioned) (function.resolve scope)
      ((function.rename change).resolve other) where
  name := rfl
  complaint := rfl
  body := by
    have inner := renames.function fresh
    obtain ⟨name, modifiers, parameters, body, isGenerator, span⟩ := function
    cases body with
    | none => exact .none
    | some body =>
        have bodyFresh := (fresh_append fresh).2
        exact .some
          ⟨match_renameStatements body.statements (inner.enter bodyFresh _) bodyFresh
            mentions, rfl⟩
  span := rfl

end VelocityScript.Lowering
