import VelocityScript.Script.Tree

/-!
# Scopes

Resolving a module says of every name what it stands for, and of every call
what it returns.  Scoping is lexical, and a declaration holds in the whole of
its scope.
-/

namespace VelocityScript.Script

/-- The names in scope, the innermost and latest declaration first. -/
abbrev Scope := List (String × Binding)

namespace Scope

/-- What a name stands for. -/
def lookup (scope : Scope) (name : String) : Binding :=
  (List.lookup name scope).getD .unresolved

/-- The scope with more names, all bound alike.  Later names hide earlier
ones. -/
def declare (scope : Scope) (names : List String) (binding : Binding) : Scope :=
  names.foldl (fun scope name => (name, binding) :: scope) scope

end Scope

def ImportSpecifier.exported : ImportSpecifier → String
  | .named imported _ => imported
  | .default _ => "default"
  | .everything _ => "*"

/-- The name that a specifier binds. -/
def ImportSpecifier.bound : ImportSpecifier → String
  | .named _ bound => bound
  | .default bound => bound
  | .everything bound => bound

def ImportSpecifier.binding (moduleName : String) (specifier : ImportSpecifier) :
    Binding :=
  let kind :=
    match specifier with
    | .everything _ => .value
    | _ => Catalogue.exportKind moduleName specifier.exported
  .helper moduleName specifier.exported kind

/-- The scope with the names of an import.  Only helper modules count. -/
def ImportDeclaration.declare (imports : ImportDeclaration) (scope : Scope) :
    Scope :=
  if Catalogue.isHelperModule imports.moduleName then
    imports.specifiers.foldl
      (fun scope specifier =>
        (specifier.bound, specifier.binding imports.moduleName) :: scope)
      scope
  else
    scope

/-- The names that an import takes from a helper module without an export of
that name.  Of an unknown module no exports are known. -/
def ImportDeclaration.undeclared (imports : ImportDeclaration) : List String :=
  let known := (Catalogue.exports imports.moduleName).map Prod.fst
  if Catalogue.isHelperModule imports.moduleName && !known.isEmpty then
    imports.specifiers.filterMap fun specifier =>
      match specifier with
      | .named imported _ =>
          if known.contains imported then none else some imported
      | _ => none
  else
    []

/-- The undeclared names of all imports, each with its module. -/
def Module.undeclared (script : Module) : List (String × String) :=
  script.items.flatMap fun item =>
    match item with
    | .imports declared =>
        declared.undeclared.map fun name => (declared.moduleName, name)
    | _ => []

/-- The names of some declarations. -/
def declaredNames (declared : List Declaration) : List String :=
  declared.flatMap fun declaration => declaration.name.names

/-- The names that a statement declares in the block around it.  Names declared
with `var` belong to the function. -/
def Statement.blockNames : Statement → List String
  | .declarations keyword declared _ =>
      if keyword = .var then [] else declaredNames declared
  | _ => []

mutual

/-- The names declared with `var` in a statement, however deep. -/
def Statement.functionNames : Statement → List String
  | .declarations keyword declared _ =>
      if keyword = .var then declaredNames declared else []
  | .block statements _ => functionNamesOf statements
  | .branch _ consequent alternative _ =>
      consequent.functionNames ++ functionNamesOf? alternative
  | .loop _ _ body _ => body.functionNames
  | .expression _ _ => []
  | .result _ _ => []
  | .other _ _ => []

/-- The names declared with `var` in several statements. -/
def functionNamesOf : List Statement → List String
  | [] => []
  | statement :: others => statement.functionNames ++ functionNamesOf others

/-- The names declared with `var` in a statement that may be missing. -/
def functionNamesOf? : Option Statement → List String
  | none => []
  | some statement => statement.functionNames

end

def Statement.moduleNames : Statement → List String
  | .declarations _ declared _ => declaredNames declared
  | _ => []

/-- The scope with the names that a statement declares in its block. -/
def Scope.enter (scope : Scope) (statements : List Statement) : Scope :=
  scope.declare (statements.flatMap Statement.blockNames) .variableName

/-- What a call returns, given its resolved callee and the properties that
lead from there to the method. -/
def calleeReturn (arity : Nat) : Expression → List String → ReturnKind
  | .member object property _ _, properties =>
      calleeReturn arity object (property.name :: properties)
  | .parenthesized inner _, properties => calleeReturn arity inner properties
  | .identifier name, properties =>
      match name.binding, properties with
      | .helper _ exported .function, [] =>
          Catalogue.functionReturn exported arity
      | .helper _ _ _, [] => .unknown
      | .helper moduleName exported _, properties =>
          Catalogue.methodReturn moduleName exported properties
      | _, _ => .unknown
  | _, _ => .unknown

/-- A name with what it stands for. -/
def Identifier.resolve (scope : Scope) (identifier : Identifier) : Identifier :=
  { identifier with binding := scope.lookup identifier.name }

mutual

/-- An expression with its names resolved. -/
def Expression.resolve (scope : Scope) : Expression → Expression
  | .identifier name => .identifier (name.resolve scope)
  | .receiver span => .receiver span
  | .number text span => .number text span
  | .string text span => .string text span
  | .boolean truth span => .boolean truth span
  | .template head parts span => .template head (resolveParts scope parts) span
  | .array elements span => .array (resolveExpressions scope elements) span
  | .object members span => .object (resolveMembers scope members) span
  | .parenthesized inner span => .parenthesized (inner.resolve scope) span
  | .unary operator operand span => .unary operator (operand.resolve scope) span
  | .binary operator left right span =>
      .binary operator (left.resolve scope) (right.resolve scope) span
  | .assignment operator target value span =>
      .assignment operator (target.resolve scope) (value.resolve scope) span
  | .member object property isPrivate span =>
      .member (object.resolve scope) property isPrivate span
  | .index object subscript span =>
      .index (object.resolve scope) (subscript.resolve scope) span
  | .call callee arguments _ span =>
      let callee := callee.resolve scope
      .call callee (resolveExpressions scope arguments)
        (calleeReturn arguments.length callee []) span
  | .other kind span => .other kind span

/-- Several expressions with their names resolved. -/
def resolveExpressions (scope : Scope) : List Expression → List Expression
  | [] => []
  | expression :: others =>
      expression.resolve scope :: resolveExpressions scope others

/-- The parts of a template literal with their names resolved. -/
def resolveParts (scope : Scope) : List TemplatePart → List TemplatePart
  | [] => []
  | .mk expression literal :: others =>
      .mk (expression.resolve scope) literal :: resolveParts scope others

/-- A property name with the names of a computed key resolved. -/
def PropertyName.resolve (scope : Scope) : PropertyName → PropertyName
  | .computed expression span => .computed (expression.resolve scope) span
  | .identifier name => .identifier name
  | .string text span => .string text span
  | .number text span => .number text span
  | .privateName text span => .privateName text span

/-- The members of an object with their names resolved. -/
def resolveMembers (scope : Scope) : List ObjectMember → List ObjectMember
  | [] => []
  | .shorthand identifier :: others =>
      .shorthand (identifier.resolve scope) :: resolveMembers scope others
  | .property name value span :: others =>
      .property (name.resolve scope) (value.resolve scope) span ::
        resolveMembers scope others
  | .other kind span :: others =>
      .other kind span :: resolveMembers scope others

end

mutual

/-- A pattern with its names resolved. -/
def BindingName.resolve (scope : Scope) : BindingName → BindingName
  | .identifier name => .identifier (name.resolve scope)
  | .array elements span => .array (resolveElements scope elements) span
  | .object properties span => .object (resolvePatterns scope properties) span

/-- The elements of an array pattern with their names resolved. -/
def resolveElements (scope : Scope) : List BindingElement → List BindingElement
  | [] => []
  | .hole :: others => .hole :: resolveElements scope others
  | .bound name :: others =>
      .bound (name.resolve scope) :: resolveElements scope others

/-- Several patterns with their names resolved. -/
def resolvePatterns (scope : Scope) : List BindingName → List BindingName
  | [] => []
  | name :: others => name.resolve scope :: resolvePatterns scope others

end

/-- A declaration with its names resolved. -/
def Declaration.resolve (scope : Scope) (declaration : Declaration) :
    Declaration :=
  { declaration with
    name := declaration.name.resolve scope
    initial := declaration.initial.map (Expression.resolve scope) }

/-- The scope of a loop body: the names that the header declares. -/
def LoopHeader.declare (scope : Scope) : LoopHeader → Scope
  | .declaration declared => scope.declare declared.name.names .variableName
  | .expression _ => scope

/-- A loop header with its names resolved. -/
def LoopHeader.resolve (scope : Scope) : LoopHeader → LoopHeader
  | .declaration declared =>
      .declaration { declared with name := declared.name.resolve scope }
  | .expression assigned => .expression (assigned.resolve scope)

mutual

/-- A statement with its names resolved.  A branch or a loop body is a scope
of its own, and the header of a loop is one around the body. -/
def Statement.resolve (scope : Scope) : Statement → Statement
  | .block statements placement =>
      .block (resolveStatements (scope.enter statements) statements) placement
  | .expression evaluated placement =>
      .expression (evaluated.resolve scope) placement
  | .branch condition consequent alternative placement =>
      .branch (condition.resolve scope)
        (consequent.resolve (scope.enter [consequent]))
        (resolveAlternative scope alternative) placement
  | .loop header iterable body placement =>
      let inner := header.declare scope
      .loop (header.resolve inner) (iterable.resolve scope)
        (body.resolve (inner.enter [body])) placement
  | .result returned placement =>
      .result (returned.map (Expression.resolve scope)) placement
  | .declarations keyword declared placement =>
      .declarations keyword (declared.map (Declaration.resolve scope)) placement
  | .other kind placement => .other kind placement

/-- Several statements of one scope with their names resolved. -/
def resolveStatements (scope : Scope) : List Statement → List Statement
  | [] => []
  | statement :: others =>
      statement.resolve scope :: resolveStatements scope others

/-- The other branch of a branch, if there is one, with its names resolved. -/
def resolveAlternative (scope : Scope) : Option Statement → Option Statement
  | none => none
  | some statement => some (statement.resolve (scope.enter [statement]))

end

/-- The names that the parameters of a function bind. -/
def parameterNames (parameters : List Parameter) : List String :=
  parameters.flatMap fun parameter =>
    if parameter.isReceiver then [] else parameter.name.names

/-- The scope of a function: its parameters, and over them the names declared
with `var` in its body. -/
def FunctionDeclaration.scope (scope : Scope) (function : FunctionDeclaration) :
    Scope :=
  let withParameters := scope.declare (parameterNames function.parameters) .parameter
  match function.body with
  | none => withParameters
  | some body =>
      withParameters.declare (functionNamesOf body.statements) .variableName

/-- A function with the names of its body resolved. -/
def FunctionDeclaration.resolve (scope : Scope) (function : FunctionDeclaration) :
    FunctionDeclaration :=
  let inner := function.scope scope
  { function with
    body := function.body.map fun body =>
      { body with
        statements := resolveStatements (inner.enter body.statements) body.statements } }

def Item.declare (scope : Scope) : Item → Scope
  | .imports declared => declared.declare scope
  | .statement content => scope.declare content.moduleNames .variableName
  | .function _ => scope
  | .typeDeclaration _ => scope

/-- An item with its names resolved. -/
def Item.resolve (scope : Scope) : Item → Item
  | .function declared => .function (declared.resolve scope)
  | .statement content => .statement (content.resolve scope)
  | .imports declared => .imports declared
  | .typeDeclaration span => .typeDeclaration span

def Module.scope (script : Module) : Scope :=
  script.items.foldl Item.declare []

/-- A module with its names resolved. -/
def Module.resolve (script : Module) : Module :=
  ⟨script.items.map (Item.resolve script.scope)⟩

end VelocityScript.Script
