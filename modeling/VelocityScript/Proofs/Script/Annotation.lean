import VelocityScript.Script.Scope

/-!
# Resolving annotates a script

Resolving writes what names stand for and what calls return, and leaves the rest
of a script as it is.  It reads none of the annotations that are there before:
whatever an earlier resolution has written, in whatever scope, is written anew.
So a second resolution changes nothing.
-/

namespace VelocityScript.Script

/-! ## Scripts without annotations -/

def Identifier.bare (named : Identifier) : Identifier :=
  { named with binding := .unresolved }

mutual

/-- An expression without what its names stand for and what its calls return. -/
def Expression.bare : Expression → Expression
  | .identifier named => .identifier named.bare
  | .receiver span => .receiver span
  | .number text span => .number text span
  | .string text span => .string text span
  | .boolean truth span => .boolean truth span
  | .template head parts span => .template head (bareParts parts) span
  | .array elements span => .array (bareExpressions elements) span
  | .object members span => .object (bareMembers members) span
  | .parenthesized inner span => .parenthesized inner.bare span
  | .unary operator operand span => .unary operator operand.bare span
  | .binary operator left right span => .binary operator left.bare right.bare span
  | .assignment operator place value span =>
      .assignment operator place.bare value.bare span
  | .member object property isPrivate span =>
      .member object.bare property.bare isPrivate span
  | .index object subscript span => .index object.bare subscript.bare span
  | .call callee arguments _ span =>
      .call callee.bare (bareExpressions arguments) .unknown span
  | .other kind span => .other kind span

def bareExpressions : List Expression → List Expression
  | [] => []
  | source :: others => source.bare :: bareExpressions others

def bareParts : List TemplatePart → List TemplatePart
  | [] => []
  | .mk source literal :: others => .mk source.bare literal :: bareParts others

def PropertyName.bare : PropertyName → PropertyName
  | .identifier named => .identifier named.bare
  | .string text span => .string text span
  | .number text span => .number text span
  | .computed source span => .computed source.bare span
  | .privateName text span => .privateName text span

def bareMembers : List ObjectMember → List ObjectMember
  | [] => []
  | .shorthand named :: others => .shorthand named.bare :: bareMembers others
  | .property name value span :: others =>
      .property name.bare value.bare span :: bareMembers others
  | .other kind span :: others => .other kind span :: bareMembers others

end

mutual

def BindingName.bare : BindingName → BindingName
  | .identifier named => .identifier named.bare
  | .array elements span => .array (bareElements elements) span
  | .object properties span => .object (barePatterns properties) span

def bareElements : List BindingElement → List BindingElement
  | [] => []
  | .hole :: others => .hole :: bareElements others
  | .bound name :: others => .bound name.bare :: bareElements others

def barePatterns : List BindingName → List BindingName
  | [] => []
  | name :: others => name.bare :: barePatterns others

end

def Declaration.bare (declared : Declaration) : Declaration :=
  { declared with
    name := declared.name.bare
    initial := declared.initial.map Expression.bare }

def LoopHeader.bare : LoopHeader → LoopHeader
  | .declaration declared => .declaration declared.bare
  | .expression assigned => .expression assigned.bare

mutual

def Statement.bare : Statement → Statement
  | .block statements placement => .block (bareStatements statements) placement
  | .expression evaluated placement => .expression evaluated.bare placement
  | .branch condition consequent alternative placement =>
      .branch condition.bare consequent.bare (bareAlternative alternative) placement
  | .loop header iterable body placement =>
      .loop header.bare iterable.bare body.bare placement
  | .result returned placement =>
      .result (returned.map Expression.bare) placement
  | .declarations keyword declared placement =>
      .declarations keyword (declared.map Declaration.bare) placement
  | .other kind placement => .other kind placement

def bareStatements : List Statement → List Statement
  | [] => []
  | statement :: others => statement.bare :: bareStatements others

def bareAlternative : Option Statement → Option Statement
  | none => none
  | some statement => some statement.bare

end

def Block.bare (body : Block) : Block :=
  { body with statements := bareStatements body.statements }

def Parameter.bare (parameter : Parameter) : Parameter :=
  { parameter with name := parameter.name.bare }

def FunctionDeclaration.bare (function : FunctionDeclaration) :
    FunctionDeclaration :=
  { function with
    name := function.name.map Identifier.bare
    parameters := function.parameters.map Parameter.bare
    body := function.body.map Block.bare }

def Item.bare : Item → Item
  | .imports declared => .imports declared
  | .function declared => .function declared.bare
  | .typeDeclaration span => .typeDeclaration span
  | .statement content => .statement content.bare

/-- A module without annotations. -/
def Module.bare (script : Module) : Module :=
  ⟨script.items.map Item.bare⟩

/-! ## Nothing but annotations is written -/

section Written

variable (scope : Scope)

mutual

theorem bare_resolve :
    ∀ source : Expression, (source.resolve scope).bare = source.bare
  | .identifier _ | .receiver _ | .number _ _ | .string _ _ | .boolean _ _
  | .other _ _ => rfl
  | .template _ parts _ => by
      simp only [Expression.resolve, Expression.bare, bareParts_resolve parts]
  | .array elements _ => by
      simp only [Expression.resolve, Expression.bare,
        bareExpressions_resolve elements]
  | .object members _ => by
      simp only [Expression.resolve, Expression.bare, bareMembers_resolve members]
  | .parenthesized inner _ => by
      simp only [Expression.resolve, Expression.bare, bare_resolve inner]
  | .unary _ operand _ => by
      simp only [Expression.resolve, Expression.bare, bare_resolve operand]
  | .binary _ left right _ => by
      simp only [Expression.resolve, Expression.bare, bare_resolve left,
        bare_resolve right]
  | .assignment _ place value _ => by
      simp only [Expression.resolve, Expression.bare, bare_resolve place,
        bare_resolve value]
  | .member object _ _ _ => by
      simp only [Expression.resolve, Expression.bare, bare_resolve object]
  | .index object subscript _ => by
      simp only [Expression.resolve, Expression.bare, bare_resolve object,
        bare_resolve subscript]
  | .call callee arguments _ _ => by
      simp only [Expression.resolve, Expression.bare, bare_resolve callee,
        bareExpressions_resolve arguments]

theorem bareExpressions_resolve :
    ∀ sources : List Expression,
      bareExpressions (resolveExpressions scope sources) = bareExpressions sources
  | [] => rfl
  | source :: others => by
      simp only [resolveExpressions, bareExpressions, bare_resolve source,
        bareExpressions_resolve others]

theorem bareParts_resolve :
    ∀ parts : List TemplatePart,
      bareParts (resolveParts scope parts) = bareParts parts
  | [] => rfl
  | .mk source _ :: others => by
      simp only [resolveParts, bareParts, bare_resolve source,
        bareParts_resolve others]

theorem bare_resolve_property :
    ∀ name : PropertyName, (name.resolve scope).bare = name.bare
  | .identifier _ | .string _ _ | .number _ _ | .privateName _ _ => rfl
  | .computed source _ => by
      simp only [PropertyName.resolve, PropertyName.bare, bare_resolve source]

theorem bareMembers_resolve :
    ∀ members : List ObjectMember,
      bareMembers (resolveMembers scope members) = bareMembers members
  | [] => rfl
  | .shorthand _ :: others => by
      simp only [resolveMembers, bareMembers, bareMembers_resolve others]
      rfl
  | .property name value _ :: others => by
      simp only [resolveMembers, bareMembers, bare_resolve_property name,
        bare_resolve value, bareMembers_resolve others]
  | .other _ _ :: others => by
      simp only [resolveMembers, bareMembers, bareMembers_resolve others]

end

mutual

theorem bare_resolve_pattern :
    ∀ pattern : BindingName, (pattern.resolve scope).bare = pattern.bare
  | .identifier _ => rfl
  | .array elements _ => by
      simp only [BindingName.resolve, BindingName.bare,
        bareElements_resolve elements]
  | .object properties _ => by
      simp only [BindingName.resolve, BindingName.bare,
        barePatterns_resolve properties]

theorem bareElements_resolve :
    ∀ elements : List BindingElement,
      bareElements (resolveElements scope elements) = bareElements elements
  | [] => rfl
  | .hole :: others => by
      simp only [resolveElements, bareElements, bareElements_resolve others]
  | .bound name :: others => by
      simp only [resolveElements, bareElements, bare_resolve_pattern name,
        bareElements_resolve others]

theorem barePatterns_resolve :
    ∀ patterns : List BindingName,
      barePatterns (resolvePatterns scope patterns) = barePatterns patterns
  | [] => rfl
  | name :: others => by
      simp only [resolvePatterns, barePatterns, bare_resolve_pattern name,
        barePatterns_resolve others]

end

theorem bare_resolve_option (source : Option Expression) :
    (source.map (Expression.resolve scope)).map Expression.bare =
      source.map Expression.bare := by
  cases source with
  | none => rfl
  | some source => exact congrArg some (bare_resolve scope source)

theorem bare_resolve_declaration (declared : Declaration) :
    (declared.resolve scope).bare = declared.bare := by
  simp only [Declaration.resolve, Declaration.bare, bare_resolve_pattern,
    bare_resolve_option]

theorem bareDeclarations_resolve (declared : List Declaration) :
    (declared.map (Declaration.resolve scope)).map Declaration.bare =
      declared.map Declaration.bare := by
  rw [List.map_map]
  apply List.map_congr_left
  intro declaration _
  exact bare_resolve_declaration scope declaration

theorem bare_resolve_header (header : LoopHeader) :
    (header.resolve scope).bare = header.bare := by
  cases header with
  | declaration declared =>
      simp only [LoopHeader.resolve, LoopHeader.bare, Declaration.bare,
        bare_resolve_pattern]
  | expression assigned =>
      simp only [LoopHeader.resolve, LoopHeader.bare, bare_resolve]

end Written

mutual

theorem bare_resolve_statement :
    ∀ (scope : Scope) (source : Statement),
      (source.resolve scope).bare = source.bare
  | _, .block statements _ => by
      simp only [Statement.resolve, Statement.bare,
        bareStatements_resolve _ statements]
  | _, .expression _ _ => by
      simp only [Statement.resolve, Statement.bare, bare_resolve]
  | _, .branch _ consequent alternative _ => by
      simp only [Statement.resolve, Statement.bare, bare_resolve,
        bare_resolve_statement _ consequent, bareAlternative_resolve _ alternative]
  | _, .loop _ _ body _ => by
      simp only [Statement.resolve, Statement.bare, bare_resolve,
        bare_resolve_header, bare_resolve_statement _ body]
  | _, .result _ _ => by
      simp only [Statement.resolve, Statement.bare, bare_resolve_option]
  | _, .declarations _ _ _ => by
      simp only [Statement.resolve, Statement.bare, bareDeclarations_resolve]
  | _, .other _ _ => rfl

theorem bareStatements_resolve :
    ∀ (scope : Scope) (sources : List Statement),
      bareStatements (resolveStatements scope sources) = bareStatements sources
  | _, [] => rfl
  | scope, source :: others => by
      simp only [resolveStatements, bareStatements,
        bare_resolve_statement scope source, bareStatements_resolve scope others]

theorem bareAlternative_resolve :
    ∀ (scope : Scope) (source : Option Statement),
      bareAlternative (resolveAlternative scope source) = bareAlternative source
  | _, none => rfl
  | _, some statement => by
      simp only [resolveAlternative, bareAlternative,
        bare_resolve_statement _ statement]

end

theorem bare_resolve_item (scope : Scope) (item : Item) :
    (item.resolve scope).bare = item.bare := by
  cases item with
  | function declared =>
      cases bodied : declared.body with
      | none =>
          simp only [Item.resolve, Item.bare, FunctionDeclaration.resolve,
            FunctionDeclaration.bare, bodied, Option.map_none]
      | some body =>
          simp only [Item.resolve, Item.bare, FunctionDeclaration.resolve,
            FunctionDeclaration.bare, bodied, Option.map_some, Block.bare,
            bareStatements_resolve]
  | statement content =>
      exact congrArg Item.statement (bare_resolve_statement scope content)
  | imports declared => rfl
  | typeDeclaration span => rfl

/-! ## Declarations do not depend on annotations -/

section Declared

variable (before : Scope)

mutual

theorem names_resolve :
    ∀ pattern : BindingName, (pattern.resolve before).names = pattern.names
  | .identifier _ => rfl
  | .array elements _ => elementNames_resolve elements
  | .object properties _ => patternNames_resolve properties

theorem elementNames_resolve :
    ∀ elements : List BindingElement,
      elementNames (resolveElements before elements) = elementNames elements
  | [] => rfl
  | .hole :: others => elementNames_resolve others
  | .bound name :: others => by
      simp only [resolveElements, elementNames, names_resolve name,
        elementNames_resolve others]

theorem patternNames_resolve :
    ∀ patterns : List BindingName,
      patternNames (resolvePatterns before patterns) = patternNames patterns
  | [] => rfl
  | name :: others => by
      simp only [resolvePatterns, patternNames, names_resolve name,
        patternNames_resolve others]

end

theorem declaredNames_resolve (declared : List Declaration) :
    declaredNames (declared.map (Declaration.resolve before)) =
      declaredNames declared := by
  unfold declaredNames
  rw [List.flatMap_map]
  simp only [Declaration.resolve, names_resolve]

theorem blockNames_resolve (source : Statement) :
    (source.resolve before).blockNames = source.blockNames := by
  cases source with
  | declarations keyword declared placement =>
      simp only [Statement.resolve, Statement.blockNames, declaredNames_resolve]
  | _ => rfl

theorem blockNames_resolveStatements (sources : List Statement) :
    (resolveStatements before sources).flatMap Statement.blockNames =
      sources.flatMap Statement.blockNames := by
  induction sources with
  | nil => rfl
  | cons first others inductionHypothesis =>
      rw [resolveStatements, List.flatMap_cons, List.flatMap_cons,
        blockNames_resolve, inductionHypothesis]

theorem moduleNames_resolve (source : Statement) :
    (source.resolve before).moduleNames = source.moduleNames := by
  cases source with
  | declarations keyword declared placement =>
      exact declaredNames_resolve before declared
  | _ => rfl

end Declared

mutual

theorem functionNames_resolve :
    ∀ (before : Scope) (source : Statement),
      (source.resolve before).functionNames = source.functionNames
  | _, .block statements _ => functionNamesOf_resolve _ statements
  | _, .branch _ consequent alternative _ => by
      simp only [Statement.resolve, Statement.functionNames,
        functionNames_resolve _ consequent, functionNamesOf?_resolve _ alternative]
  | _, .loop _ _ body _ => functionNames_resolve _ body
  | _, .declarations _ _ _ => by
      simp only [Statement.resolve, Statement.functionNames, declaredNames_resolve]
  | _, .expression _ _ => rfl
  | _, .result _ _ => rfl
  | _, .other _ _ => rfl

theorem functionNamesOf_resolve :
    ∀ (before : Scope) (sources : List Statement),
      functionNamesOf (resolveStatements before sources) = functionNamesOf sources
  | _, [] => rfl
  | before, first :: others => by
      simp only [resolveStatements, functionNamesOf,
        functionNames_resolve before first, functionNamesOf_resolve before others]

theorem functionNamesOf?_resolve :
    ∀ (before : Scope) (source : Option Statement),
      functionNamesOf? (resolveAlternative before source) = functionNamesOf? source
  | _, none => rfl
  | _, some statement => functionNames_resolve _ statement

end

section Scopes

variable (before scope : Scope)

theorem enter_resolve (statements : List Statement) :
    scope.enter (resolveStatements before statements) = scope.enter statements := by
  unfold Scope.enter
  rw [blockNames_resolveStatements]

/-- A single statement as a scope of its own. -/
theorem enter_resolve_singleton (statement : Statement) :
    scope.enter [statement.resolve before] = scope.enter [statement] :=
  enter_resolve before scope [statement]

theorem declare_resolve_header (header : LoopHeader) :
    (header.resolve before).declare scope = header.declare scope := by
  cases header with
  | declaration declared =>
      simp only [LoopHeader.resolve, LoopHeader.declare, names_resolve]
  | expression assigned => rfl

theorem scope_resolve (function : FunctionDeclaration) :
    (function.resolve before).scope scope = function.scope scope := by
  unfold FunctionDeclaration.scope FunctionDeclaration.resolve
  cases function.body with
  | none => rfl
  | some body => simp only [Option.map_some, functionNamesOf_resolve]

theorem declare_resolve (item : Item) :
    (item.resolve before).declare scope = item.declare scope := by
  cases item with
  | statement content =>
      simp only [Item.resolve, Item.declare, moduleNames_resolve]
  | _ => rfl

theorem moduleScope_resolve (script : Module) :
    Module.scope ⟨script.items.map (Item.resolve before)⟩ = script.scope := by
  unfold Module.scope
  rw [List.foldl_map]
  simp only [declare_resolve]

end Scopes

/-! ## Annotations are overwritten -/

theorem length_resolveExpressions (scope : Scope) (sources : List Expression) :
    (resolveExpressions scope sources).length = sources.length := by
  induction sources with
  | nil => rfl
  | cons source others inductionHypothesis =>
      exact congrArg Nat.succ inductionHypothesis

section Overwritten

variable (before scope : Scope)

mutual

/-- What a call returns is read off its callee after that has been resolved, so
it is overwritten too. -/
theorem resolve_resolve :
    ∀ source : Expression,
      (source.resolve before).resolve scope = source.resolve scope
  | .identifier _ | .receiver _ | .number _ _ | .string _ _ | .boolean _ _
  | .other _ _ => rfl
  | .template _ parts _ => by
      simp only [Expression.resolve, resolveParts_resolve parts]
  | .array elements _ => by
      simp only [Expression.resolve, resolveExpressions_resolve elements]
  | .object members _ => by
      simp only [Expression.resolve, resolveMembers_resolve members]
  | .parenthesized inner _ => by
      simp only [Expression.resolve, resolve_resolve inner]
  | .unary _ operand _ => by
      simp only [Expression.resolve, resolve_resolve operand]
  | .binary _ left right _ => by
      simp only [Expression.resolve, resolve_resolve left, resolve_resolve right]
  | .assignment _ place value _ => by
      simp only [Expression.resolve, resolve_resolve place, resolve_resolve value]
  | .member object _ _ _ => by
      simp only [Expression.resolve, resolve_resolve object]
  | .index object subscript _ => by
      simp only [Expression.resolve, resolve_resolve object,
        resolve_resolve subscript]
  | .call callee arguments _ _ => by
      simp only [Expression.resolve, resolve_resolve callee,
        resolveExpressions_resolve arguments, length_resolveExpressions]

theorem resolveExpressions_resolve :
    ∀ sources : List Expression,
      resolveExpressions scope (resolveExpressions before sources) =
        resolveExpressions scope sources
  | [] => rfl
  | source :: others => by
      simp only [resolveExpressions, resolve_resolve source,
        resolveExpressions_resolve others]

theorem resolveParts_resolve :
    ∀ parts : List TemplatePart,
      resolveParts scope (resolveParts before parts) = resolveParts scope parts
  | [] => rfl
  | .mk source _ :: others => by
      simp only [resolveParts, resolve_resolve source, resolveParts_resolve others]

theorem resolve_resolve_property :
    ∀ name : PropertyName,
      (name.resolve before).resolve scope = name.resolve scope
  | .identifier _ | .string _ _ | .number _ _ | .privateName _ _ => rfl
  | .computed source _ => by
      simp only [PropertyName.resolve, resolve_resolve source]

theorem resolveMembers_resolve :
    ∀ members : List ObjectMember,
      resolveMembers scope (resolveMembers before members) =
        resolveMembers scope members
  | [] => rfl
  | .shorthand _ :: others => by
      simp only [resolveMembers, resolveMembers_resolve others]
      rfl
  | .property name value _ :: others => by
      simp only [resolveMembers, resolve_resolve_property name,
        resolve_resolve value, resolveMembers_resolve others]
  | .other _ _ :: others => by
      simp only [resolveMembers, resolveMembers_resolve others]

end

mutual

theorem resolve_resolve_pattern :
    ∀ pattern : BindingName,
      (pattern.resolve before).resolve scope = pattern.resolve scope
  | .identifier _ => rfl
  | .array elements _ => by
      simp only [BindingName.resolve, resolveElements_resolve elements]
  | .object properties _ => by
      simp only [BindingName.resolve, resolvePatterns_resolve properties]

theorem resolveElements_resolve :
    ∀ elements : List BindingElement,
      resolveElements scope (resolveElements before elements) =
        resolveElements scope elements
  | [] => rfl
  | .hole :: others => by
      simp only [resolveElements, resolveElements_resolve others]
  | .bound name :: others => by
      simp only [resolveElements, resolve_resolve_pattern name,
        resolveElements_resolve others]

theorem resolvePatterns_resolve :
    ∀ patterns : List BindingName,
      resolvePatterns scope (resolvePatterns before patterns) =
        resolvePatterns scope patterns
  | [] => rfl
  | name :: others => by
      simp only [resolvePatterns, resolve_resolve_pattern name,
        resolvePatterns_resolve others]

end

theorem resolve_resolve_option (source : Option Expression) :
    (source.map (Expression.resolve before)).map (Expression.resolve scope) =
      source.map (Expression.resolve scope) := by
  cases source with
  | none => rfl
  | some source => exact congrArg some (resolve_resolve before scope source)

theorem resolve_resolve_declaration (declared : Declaration) :
    (declared.resolve before).resolve scope = declared.resolve scope := by
  simp only [Declaration.resolve, resolve_resolve_pattern, resolve_resolve_option]

theorem resolveDeclarations_resolve (declared : List Declaration) :
    (declared.map (Declaration.resolve before)).map (Declaration.resolve scope) =
      declared.map (Declaration.resolve scope) := by
  rw [List.map_map]
  apply List.map_congr_left
  intro declaration _
  exact resolve_resolve_declaration before scope declaration

theorem resolve_resolve_header (header : LoopHeader) :
    (header.resolve before).resolve scope = header.resolve scope := by
  cases header with
  | declaration declared =>
      simp only [LoopHeader.resolve, resolve_resolve_pattern]
  | expression assigned => simp only [LoopHeader.resolve, resolve_resolve]

end Overwritten

mutual

/-- The scopes inside a statement come from its declarations, so the second
resolution has the same ones as a first one would have. -/
theorem resolve_resolve_statement :
    ∀ (before scope : Scope) (source : Statement),
      (source.resolve before).resolve scope = source.resolve scope
  | _, scope, .block statements _ => by
      simp only [Statement.resolve, enter_resolve,
        resolveStatements_resolve _ _ statements]
  | _, _, .expression _ _ => by
      simp only [Statement.resolve, resolve_resolve]
  | _, _, .branch _ consequent alternative _ => by
      simp only [Statement.resolve, resolve_resolve, enter_resolve_singleton,
        resolve_resolve_statement _ _ consequent,
        resolveAlternative_resolve _ _ alternative]
  | _, _, .loop _ _ body _ => by
      simp only [Statement.resolve, resolve_resolve, declare_resolve_header,
        resolve_resolve_header, enter_resolve_singleton,
        resolve_resolve_statement _ _ body]
  | _, _, .result _ _ => by
      simp only [Statement.resolve, resolve_resolve_option]
  | _, _, .declarations _ _ _ => by
      simp only [Statement.resolve, resolveDeclarations_resolve]
  | _, _, .other _ _ => rfl

theorem resolveStatements_resolve :
    ∀ (before scope : Scope) (sources : List Statement),
      resolveStatements scope (resolveStatements before sources) =
        resolveStatements scope sources
  | _, _, [] => rfl
  | before, scope, source :: others => by
      simp only [resolveStatements, resolve_resolve_statement before scope source,
        resolveStatements_resolve before scope others]

theorem resolveAlternative_resolve :
    ∀ (before scope : Scope) (source : Option Statement),
      resolveAlternative scope (resolveAlternative before source) =
        resolveAlternative scope source
  | _, _, none => rfl
  | _, _, some statement => by
      simp only [resolveAlternative, enter_resolve_singleton,
        resolve_resolve_statement _ _ statement]

end

theorem resolve_resolve_item (before scope : Scope) (item : Item) :
    (item.resolve before).resolve scope = item.resolve scope := by
  cases item with
  | function declared =>
      have scopes := scope_resolve before scope declared
      simp only [Item.resolve]
      unfold FunctionDeclaration.resolve at scopes ⊢
      cases bodied : declared.body with
      | none => simp only [Option.map_none]
      | some body =>
          simp only [bodied, Option.map_some] at scopes ⊢
          simp only [scopes, enter_resolve, resolveStatements_resolve]
  | statement content =>
      exact congrArg Item.statement
        (resolve_resolve_statement before scope content)
  | imports declared => rfl
  | typeDeclaration span => rfl

/-- Whatever an earlier resolution has written is written anew. -/
theorem resolve_overwrites (before : Scope) (script : Module) :
    Module.resolve ⟨script.items.map (Item.resolve before)⟩ = script.resolve := by
  unfold Module.resolve
  rw [moduleScope_resolve, List.map_map]
  congr 1
  apply List.map_congr_left
  intro item _
  exact resolve_resolve_item before script.scope item

/-- Resolving changes nothing of a module but its annotations, and a second
resolution changes nothing at all. -/
theorem resolving_only_annotates (script : Module) :
    script.resolve.bare = script.bare ∧
      script.resolve.resolve = script.resolve := by
  constructor
  · unfold Module.bare Module.resolve
    rw [List.map_map]
    congr 1
    apply List.map_congr_left
    intro item _
    exact bare_resolve_item script.scope item
  · exact resolve_overwrites script.scope script

end VelocityScript.Script
