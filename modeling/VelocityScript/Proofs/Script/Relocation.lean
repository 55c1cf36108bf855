import VelocityScript.Script.Scope

/-!
# Relocated scripts

A script is relocated when its parts stand at other places of a source text.
What its names stand for does not depend on where they are.
-/

namespace VelocityScript.Script

/-! ## Relocated parts of a script -/

def Identifier.relocate (move : Span → Span) (named : Identifier) : Identifier :=
  { named with span := move named.span }

mutual

/-- An expression with the spans of its parts moved. -/
def Expression.relocate (move : Span → Span) : Expression → Expression
  | .identifier named => .identifier (named.relocate move)
  | .receiver span => .receiver (move span)
  | .number text span => .number text (move span)
  | .string text span => .string text (move span)
  | .boolean truth span => .boolean truth (move span)
  | .template head parts span =>
      .template head (relocateParts move parts) (move span)
  | .array elements span =>
      .array (relocateExpressions move elements) (move span)
  | .object members span => .object (relocateMembers move members) (move span)
  | .parenthesized inner span => .parenthesized (inner.relocate move) (move span)
  | .unary operator operand span =>
      .unary operator (operand.relocate move) (move span)
  | .binary operator left right span =>
      .binary operator (left.relocate move) (right.relocate move) (move span)
  | .assignment operator place value span =>
      .assignment operator (place.relocate move) (value.relocate move) (move span)
  | .member object property isPrivate span =>
      .member (object.relocate move) (property.relocate move) isPrivate (move span)
  | .index object subscript span =>
      .index (object.relocate move) (subscript.relocate move) (move span)
  | .call callee arguments returns span =>
      .call (callee.relocate move) (relocateExpressions move arguments) returns
        (move span)
  | .other kind span => .other kind (move span)

def relocateExpressions (move : Span → Span) : List Expression → List Expression
  | [] => []
  | source :: others => source.relocate move :: relocateExpressions move others

def TemplatePart.relocate (move : Span → Span) : TemplatePart → TemplatePart
  | .mk source literal => .mk (source.relocate move) literal

def relocateParts (move : Span → Span) : List TemplatePart → List TemplatePart
  | [] => []
  | part :: others => part.relocate move :: relocateParts move others

def PropertyName.relocate (move : Span → Span) : PropertyName → PropertyName
  | .identifier named => .identifier (named.relocate move)
  | .string text span => .string text (move span)
  | .number text span => .number text (move span)
  | .computed source span => .computed (source.relocate move) (move span)
  | .privateName text span => .privateName text (move span)

def ObjectMember.relocate (move : Span → Span) : ObjectMember → ObjectMember
  | .shorthand named => .shorthand (named.relocate move)
  | .property name value span =>
      .property (name.relocate move) (value.relocate move) (move span)
  | .other kind span => .other kind (move span)

def relocateMembers (move : Span → Span) : List ObjectMember → List ObjectMember
  | [] => []
  | member :: others => member.relocate move :: relocateMembers move others

end

mutual

/-- A pattern with the spans of its parts moved. -/
def BindingName.relocate (move : Span → Span) : BindingName → BindingName
  | .identifier named => .identifier (named.relocate move)
  | .array elements span => .array (relocateBindings move elements) (move span)
  | .object properties span =>
      .object (relocatePatterns move properties) (move span)

def relocateBindings (move : Span → Span) :
    List BindingElement → List BindingElement
  | [] => []
  | .hole :: others => .hole :: relocateBindings move others
  | .bound name :: others =>
      .bound (name.relocate move) :: relocateBindings move others

def relocatePatterns (move : Span → Span) : List BindingName → List BindingName
  | [] => []
  | name :: others => name.relocate move :: relocatePatterns move others

end

def Declaration.relocate (move : Span → Span) (declared : Declaration) :
    Declaration :=
  { name := declared.name.relocate move
    initial := declared.initial.map (Expression.relocate move)
    span := move declared.span }

def LoopHeader.relocate (move : Span → Span) : LoopHeader → LoopHeader
  | .declaration declared => .declaration (declared.relocate move)
  | .expression assigned => .expression (assigned.relocate move)

/-- The line breaks in front stay. -/
def Placement.relocate (move : Span → Span) (placement : Placement) : Placement :=
  { placement with span := move placement.span }

mutual

/-- A statement with the spans of its parts moved. -/
def Statement.relocate (move : Span → Span) : Statement → Statement
  | .block statements placement =>
      .block (relocateStatements move statements) (placement.relocate move)
  | .expression evaluated placement =>
      .expression (evaluated.relocate move) (placement.relocate move)
  | .branch condition consequent alternative placement =>
      .branch (condition.relocate move) (consequent.relocate move)
        (relocateAlternative move alternative) (placement.relocate move)
  | .loop header iterable body placement =>
      .loop (header.relocate move) (iterable.relocate move) (body.relocate move)
        (placement.relocate move)
  | .result returned placement =>
      .result (returned.map (Expression.relocate move)) (placement.relocate move)
  | .declarations keyword declared placement =>
      .declarations keyword (declared.map (Declaration.relocate move))
        (placement.relocate move)
  | .other kind placement => .other kind (placement.relocate move)

def relocateStatements (move : Span → Span) : List Statement → List Statement
  | [] => []
  | statement :: others =>
      statement.relocate move :: relocateStatements move others

def relocateAlternative (move : Span → Span) :
    Option Statement → Option Statement
  | none => none
  | some statement => some (statement.relocate move)

end

def Block.relocate (move : Span → Span) (body : Block) : Block :=
  { statements := relocateStatements move body.statements
    span := move body.span }

def Parameter.relocate (move : Span → Span) (parameter : Parameter) : Parameter :=
  { parameter with
    name := parameter.name.relocate move
    span := move parameter.span }

def FunctionDeclaration.relocate (move : Span → Span)
    (function : FunctionDeclaration) : FunctionDeclaration :=
  { function with
    name := function.name.map (Identifier.relocate move)
    parameters := function.parameters.map (Parameter.relocate move)
    body := function.body.map (Block.relocate move)
    span := move function.span }

def ImportDeclaration.relocate (move : Span → Span)
    (imports : ImportDeclaration) : ImportDeclaration :=
  { imports with span := move imports.span }

def Item.relocate (move : Span → Span) : Item → Item
  | .imports declared => .imports (declared.relocate move)
  | .function declared => .function (declared.relocate move)
  | .typeDeclaration span => .typeDeclaration (move span)
  | .statement content => .statement (content.relocate move)

/-- A script with the spans of its parts moved. -/
def Module.relocate (move : Span → Span) (script : Module) : Module :=
  ⟨script.items.map (Item.relocate move)⟩

/-- A script up to where its parts stand. -/
def Module.withoutSpans (script : Module) : Module :=
  script.relocate fun _ => ⟨0, 0⟩

/-! ## What does not change -/

variable (move : Span → Span)

theorem span_relocate (source : Expression) :
    (source.relocate move).span = move source.span := by
  cases source <;> rfl

theorem syntaxName_relocate (source : Expression) :
    (source.relocate move).syntaxName = source.syntaxName := by
  cases source with
  | boolean truth span => cases truth <;> rfl
  | _ => rfl

theorem span_relocate_statement (source : Statement) :
    (source.relocate move).span = move source.span := by
  cases source <;> rfl

theorem syntaxName_relocate_statement (source : Statement) :
    (source.relocate move).syntaxName = source.syntaxName := by
  cases source <;> rfl

mutual

theorem names_relocate :
    ∀ pattern : BindingName, (pattern.relocate move).names = pattern.names
  | .identifier _ => rfl
  | .array elements _ => elementNames_relocate elements
  | .object properties _ => patternNames_relocate properties

theorem elementNames_relocate :
    ∀ elements : List BindingElement,
      elementNames (relocateBindings move elements) = elementNames elements
  | [] => rfl
  | .hole :: others => elementNames_relocate others
  | .bound name :: others => by
      have here := names_relocate name
      have there := elementNames_relocate others
      simp only [relocateBindings, elementNames, here, there]

theorem patternNames_relocate :
    ∀ patterns : List BindingName,
      patternNames (relocatePatterns move patterns) = patternNames patterns
  | [] => rfl
  | name :: others => by
      have here := names_relocate name
      have there := patternNames_relocate others
      simp only [relocatePatterns, patternNames, here, there]

end

theorem declaredNames_relocate (declared : List Declaration) :
    declaredNames (declared.map (Declaration.relocate move)) =
      declaredNames declared := by
  unfold declaredNames
  rw [List.flatMap_map]
  simp only [Declaration.relocate, names_relocate]

theorem parameterNames_relocate (parameters : List Parameter) :
    parameterNames (parameters.map (Parameter.relocate move)) =
      parameterNames parameters := by
  unfold parameterNames
  rw [List.flatMap_map]
  simp only [Parameter.relocate, names_relocate]

theorem blockNames_relocate (source : Statement) :
    (source.relocate move).blockNames = source.blockNames := by
  cases source with
  | declarations keyword declared placement =>
      simp only [Statement.relocate, Statement.blockNames, declaredNames_relocate]
  | _ => rfl

theorem blockNames_relocateStatements (sources : List Statement) :
    (relocateStatements move sources).flatMap Statement.blockNames =
      sources.flatMap Statement.blockNames := by
  induction sources with
  | nil => rfl
  | cons first others inductionHypothesis =>
      rw [relocateStatements, List.flatMap_cons, List.flatMap_cons,
        blockNames_relocate, inductionHypothesis]

theorem moduleNames_relocate (source : Statement) :
    (source.relocate move).moduleNames = source.moduleNames := by
  cases source with
  | declarations keyword declared placement =>
      exact declaredNames_relocate move declared
  | _ => rfl

mutual

theorem functionNames_relocate :
    ∀ source : Statement,
      (source.relocate move).functionNames = source.functionNames
  | .block statements _ => functionNamesOf_relocate statements
  | .branch _ consequent alternative _ => by
      have here := functionNames_relocate consequent
      have there := functionNamesOf?_relocate alternative
      simp only [Statement.relocate, Statement.functionNames, here, there]
  | .loop _ _ body _ => functionNames_relocate body
  | .declarations _ declared _ => by
      simp only [Statement.relocate, Statement.functionNames,
        declaredNames_relocate]
  | .expression _ _ => rfl
  | .result _ _ => rfl
  | .other _ _ => rfl

theorem functionNamesOf_relocate :
    ∀ sources : List Statement,
      functionNamesOf (relocateStatements move sources) = functionNamesOf sources
  | [] => rfl
  | first :: others => by
      have here := functionNames_relocate first
      have there := functionNamesOf_relocate others
      simp only [relocateStatements, functionNamesOf, here, there]

theorem functionNamesOf?_relocate :
    ∀ source : Option Statement,
      functionNamesOf? (relocateAlternative move source) =
        functionNamesOf? source
  | none => rfl
  | some statement => functionNames_relocate statement

end

/-! ## Scopes -/

theorem enter_relocate (scope : Scope) (statements : List Statement) :
    scope.enter (relocateStatements move statements) = scope.enter statements := by
  unfold Scope.enter
  rw [blockNames_relocateStatements]

theorem declare_relocate_header (scope : Scope) (header : LoopHeader) :
    (header.relocate move).declare scope = header.declare scope := by
  cases header with
  | declaration declared =>
      simp only [LoopHeader.relocate, LoopHeader.declare, Declaration.relocate,
        names_relocate]
  | expression assigned => rfl

theorem scope_relocate (scope : Scope) (function : FunctionDeclaration) :
    (function.relocate move).scope scope = function.scope scope := by
  unfold FunctionDeclaration.scope FunctionDeclaration.relocate
  cases function.body with
  | none => simp only [Option.map_none, parameterNames_relocate]
  | some body =>
      simp only [Option.map_some, Block.relocate, parameterNames_relocate,
        functionNamesOf_relocate]

theorem declare_relocate (scope : Scope) (item : Item) :
    (item.relocate move).declare scope = item.declare scope := by
  cases item with
  | statement content =>
      simp only [Item.relocate, Item.declare, moduleNames_relocate]
  | _ => rfl

theorem moduleScope_relocate (script : Module) :
    (script.relocate move).scope = script.scope := by
  unfold Module.scope Module.relocate
  rw [List.foldl_map]
  simp only [declare_relocate]

/-! ## Resolved names -/

theorem calleeReturn_relocate (arity : Nat) :
    ∀ (callee : Expression) (properties : List String),
      calleeReturn arity (callee.relocate move) properties =
        calleeReturn arity callee properties
  | .member object property _ _, properties =>
      calleeReturn_relocate arity object (property.name :: properties)
  | .parenthesized inner _, properties =>
      calleeReturn_relocate arity inner properties
  | .identifier _, _ | .receiver _, _ | .number _ _, _ | .string _ _, _
  | .boolean _ _, _ | .template _ _ _, _ | .array _ _, _ | .object _ _, _
  | .unary _ _ _, _ | .binary _ _ _ _, _ | .assignment _ _ _ _, _
  | .index _ _ _, _ | .call _ _ _ _, _ | .other _ _, _ => rfl

theorem length_relocateExpressions (sources : List Expression) :
    (relocateExpressions move sources).length = sources.length := by
  induction sources with
  | nil => rfl
  | cons source others inductionHypothesis =>
      exact congrArg Nat.succ inductionHypothesis

variable (scope : Scope)

mutual

theorem resolve_relocate :
    ∀ source : Expression,
      (source.relocate move).resolve scope = (source.resolve scope).relocate move
  | .identifier _ | .receiver _ | .number _ _ | .string _ _ | .boolean _ _
  | .other _ _ => rfl
  | .template _ parts _ => by
      have same := resolveParts_relocate parts
      simp only [Expression.relocate, Expression.resolve, same]
  | .array elements _ => by
      have same := resolveExpressions_relocate elements
      simp only [Expression.relocate, Expression.resolve, same]
  | .object members _ => by
      have same := resolveMembers_relocate members
      simp only [Expression.relocate, Expression.resolve, same]
  | .parenthesized inner _ => by
      have same := resolve_relocate inner
      simp only [Expression.relocate, Expression.resolve, same]
  | .unary _ operand _ => by
      have same := resolve_relocate operand
      simp only [Expression.relocate, Expression.resolve, same]
  | .binary _ left right _ => by
      have lefts := resolve_relocate left
      have rights := resolve_relocate right
      simp only [Expression.relocate, Expression.resolve, lefts, rights]
  | .assignment _ place value _ => by
      have places := resolve_relocate place
      have values := resolve_relocate value
      simp only [Expression.relocate, Expression.resolve, places, values]
  | .member object _ _ _ => by
      have same := resolve_relocate object
      simp only [Expression.relocate, Expression.resolve, same]
  | .index object subscript _ => by
      have objects := resolve_relocate object
      have subscripts := resolve_relocate subscript
      simp only [Expression.relocate, Expression.resolve, objects, subscripts]
  | .call callee arguments _ _ => by
      have callees := resolve_relocate callee
      have same := resolveExpressions_relocate arguments
      simp only [Expression.relocate, Expression.resolve, callees, same,
        length_relocateExpressions, calleeReturn_relocate]

theorem resolveExpressions_relocate :
    ∀ sources : List Expression,
      resolveExpressions scope (relocateExpressions move sources) =
        relocateExpressions move (resolveExpressions scope sources)
  | [] => rfl
  | source :: others => by
      have here := resolve_relocate source
      have there := resolveExpressions_relocate others
      simp only [relocateExpressions, resolveExpressions, here, there]

theorem resolveParts_relocate :
    ∀ parts : List TemplatePart,
      resolveParts scope (relocateParts move parts) =
        relocateParts move (resolveParts scope parts)
  | [] => rfl
  | .mk source _ :: others => by
      have here := resolve_relocate source
      have there := resolveParts_relocate others
      simp only [relocateParts, TemplatePart.relocate, resolveParts, here, there]

theorem resolve_relocate_property :
    ∀ name : PropertyName,
      (name.relocate move).resolve scope = (name.resolve scope).relocate move
  | .identifier _ | .string _ _ | .number _ _ | .privateName _ _ => rfl
  | .computed source _ => by
      have same := resolve_relocate source
      simp only [PropertyName.relocate, PropertyName.resolve, same]

theorem resolveMembers_relocate :
    ∀ members : List ObjectMember,
      resolveMembers scope (relocateMembers move members) =
        relocateMembers move (resolveMembers scope members)
  | [] => rfl
  | .shorthand _ :: others => by
      have there := resolveMembers_relocate others
      simp only [relocateMembers, ObjectMember.relocate, resolveMembers, there]
      rfl
  | .property name value _ :: others => by
      have names := resolve_relocate_property name
      have values := resolve_relocate value
      have there := resolveMembers_relocate others
      simp only [relocateMembers, ObjectMember.relocate, resolveMembers, names,
        values, there]
  | .other _ _ :: others => by
      have there := resolveMembers_relocate others
      simp only [relocateMembers, ObjectMember.relocate, resolveMembers, there]

end

mutual

theorem resolve_relocate_pattern :
    ∀ pattern : BindingName,
      (pattern.relocate move).resolve scope = (pattern.resolve scope).relocate move
  | .identifier _ => rfl
  | .array elements _ => by
      have same := resolveElements_relocate elements
      simp only [BindingName.relocate, BindingName.resolve, same]
  | .object properties _ => by
      have same := resolvePatterns_relocate properties
      simp only [BindingName.relocate, BindingName.resolve, same]

theorem resolveElements_relocate :
    ∀ elements : List BindingElement,
      resolveElements scope (relocateBindings move elements) =
        relocateBindings move (resolveElements scope elements)
  | [] => rfl
  | .hole :: others => by
      have there := resolveElements_relocate others
      simp only [relocateBindings, resolveElements, there]
  | .bound name :: others => by
      have here := resolve_relocate_pattern name
      have there := resolveElements_relocate others
      simp only [relocateBindings, resolveElements, here, there]

theorem resolvePatterns_relocate :
    ∀ patterns : List BindingName,
      resolvePatterns scope (relocatePatterns move patterns) =
        relocatePatterns move (resolvePatterns scope patterns)
  | [] => rfl
  | name :: others => by
      have here := resolve_relocate_pattern name
      have there := resolvePatterns_relocate others
      simp only [relocatePatterns, resolvePatterns, here, there]

end

theorem resolve_relocate_option (source : Option Expression) :
    (source.map (Expression.relocate move)).map (Expression.resolve scope) =
      (source.map (Expression.resolve scope)).map (Expression.relocate move) := by
  cases source with
  | none => rfl
  | some source => exact congrArg some (resolve_relocate move scope source)

theorem resolve_relocate_declaration (declared : Declaration) :
    (declared.relocate move).resolve scope =
      (declared.resolve scope).relocate move := by
  simp only [Declaration.relocate, Declaration.resolve, resolve_relocate_pattern,
    resolve_relocate_option]

theorem resolve_relocate_header (header : LoopHeader) :
    (header.relocate move).resolve scope = (header.resolve scope).relocate move := by
  cases header with
  | declaration declared =>
      simp only [LoopHeader.relocate, LoopHeader.resolve, Declaration.relocate,
        resolve_relocate_pattern]
  | expression assigned =>
      simp only [LoopHeader.relocate, LoopHeader.resolve, resolve_relocate]

theorem resolveDeclarations_relocate (declared : List Declaration) :
    (declared.map (Declaration.relocate move)).map (Declaration.resolve scope) =
      (declared.map (Declaration.resolve scope)).map (Declaration.relocate move) := by
  rw [List.map_map, List.map_map]
  exact List.map_congr_left
    fun declaration _ => resolve_relocate_declaration move scope declaration

mutual

theorem resolve_relocate_statement :
    ∀ (scope : Scope) (source : Statement),
      (source.relocate move).resolve scope = (source.resolve scope).relocate move
  | scope, .block statements _ => by
      have same :=
        resolveStatements_relocate (scope.enter statements) statements
      simp only [Statement.relocate, Statement.resolve, enter_relocate, same]
  | scope, .expression _ _ => by
      simp only [Statement.relocate, Statement.resolve, resolve_relocate]
  | scope, .branch _ consequent alternative _ => by
      have entered := enter_relocate move scope [consequent]
      have consequents :=
        resolve_relocate_statement (scope.enter [consequent]) consequent
      have alternatives := resolveAlternative_relocate scope alternative
      simp only [relocateStatements] at entered
      simp only [Statement.relocate, Statement.resolve, resolve_relocate, entered,
        consequents, alternatives]
  | scope, .loop header _ body _ => by
      have entered := enter_relocate move (header.declare scope) [body]
      have bodies := resolve_relocate_statement
        ((header.declare scope).enter [body]) body
      simp only [relocateStatements] at entered
      simp only [Statement.relocate, Statement.resolve, resolve_relocate,
        declare_relocate_header, resolve_relocate_header, entered, bodies]
  | scope, .result _ _ => by
      simp only [Statement.relocate, Statement.resolve, resolve_relocate_option]
  | scope, .declarations _ _ _ => by
      simp only [Statement.relocate, Statement.resolve,
        resolveDeclarations_relocate]
  | _, .other _ _ => rfl

theorem resolveStatements_relocate :
    ∀ (scope : Scope) (sources : List Statement),
      resolveStatements scope (relocateStatements move sources) =
        relocateStatements move (resolveStatements scope sources)
  | _, [] => rfl
  | scope, source :: others => by
      have here := resolve_relocate_statement scope source
      have there := resolveStatements_relocate scope others
      simp only [relocateStatements, resolveStatements, here, there]

theorem resolveAlternative_relocate :
    ∀ (scope : Scope) (source : Option Statement),
      resolveAlternative scope (relocateAlternative move source) =
        relocateAlternative move (resolveAlternative scope source)
  | _, none => rfl
  | scope, some statement => by
      have entered := enter_relocate move scope [statement]
      have same := resolve_relocate_statement (scope.enter [statement]) statement
      simp only [relocateStatements] at entered
      simp only [relocateAlternative, resolveAlternative, entered, same]

end

theorem resolve_relocate_function (function : FunctionDeclaration) :
    (function.relocate move).resolve scope =
      (function.resolve scope).relocate move := by
  have scopes := scope_relocate move scope function
  unfold FunctionDeclaration.resolve
  rw [scopes]
  cases bodied : function.body with
  | none => simp only [FunctionDeclaration.relocate, bodied, Option.map_none]
  | some body =>
      simp only [FunctionDeclaration.relocate, bodied, Option.map_some,
        Block.relocate, enter_relocate, resolveStatements_relocate]

theorem resolve_relocate_item (item : Item) :
    (item.relocate move).resolve scope = (item.resolve scope).relocate move := by
  cases item with
  | function declared =>
      exact congrArg Item.function (resolve_relocate_function move scope declared)
  | statement content =>
      exact congrArg Item.statement (resolve_relocate_statement move scope content)
  | imports declared => rfl
  | typeDeclaration span => rfl

/-- Names stand for the same in a script that is moved. -/
theorem resolve_relocate_module (script : Module) :
    (script.relocate move).resolve = script.resolve.relocate move := by
  unfold Module.resolve
  rw [moduleScope_relocate]
  simp only [Module.relocate, List.map_map]
  congr 1
  exact List.map_congr_left
    fun item _ => resolve_relocate_item move script.scope item

end VelocityScript.Script
