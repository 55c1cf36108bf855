import VelocityScript.Script.Scope

/-!
# One stack of scopes

The names of a module can also be resolved in one pass over it, with a single
stack of scopes: what opens a scope pushes it, and pops it at its end.  The pass
gives what resolving each part in its own scope gives, and behind every part the
stack is the one before it.
-/

namespace VelocityScript.Script

/-- The scopes around a place, the innermost first. -/
abbrev Stack := List Scope

/-- What a name stands for: the innermost scope that declares it decides. -/
def Stack.lookup (stack : Stack) (name : String) : Binding :=
  (stack.findSome? fun scope => List.lookup name scope).getD .unresolved

/-- A step of the pass. -/
abbrev Visit := StateM Stack

/-- A step in a scope of its own. -/
def within {Result : Type} (scope : Scope) (step : Visit Result) : Visit Result := do
  modify (scope :: ·)
  let result ← step
  modify List.tail
  return result

/-! ## The pass -/

def Identifier.visit (identifier : Identifier) : Visit Identifier := do
  return { identifier with binding := (← get).lookup identifier.name }

mutual

def Expression.visit : Expression → Visit Expression
  | .identifier name => do
      return .identifier (← name.visit)
  | .receiver span => return .receiver span
  | .number text span => return .number text span
  | .string text span => return .string text span
  | .boolean truth span => return .boolean truth span
  | .template head parts span => do
      return .template head (← visitParts parts) span
  | .array elements span => do
      return .array (← visitExpressions elements) span
  | .object members span => do
      return .object (← visitMembers members) span
  | .parenthesized inner span => do
      return .parenthesized (← inner.visit) span
  | .unary operator operand span => do
      return .unary operator (← operand.visit) span
  | .binary operator left right span => do
      return .binary operator (← left.visit) (← right.visit) span
  | .assignment operator target value span => do
      return .assignment operator (← target.visit) (← value.visit) span
  | .member object property isPrivate span => do
      return .member (← object.visit) property isPrivate span
  | .index object subscript span => do
      return .index (← object.visit) (← subscript.visit) span
  | .call callee arguments _ span => do
      let callee ← callee.visit
      return .call callee (← visitExpressions arguments)
        (calleeReturn arguments.length callee []) span
  | .other kind span => return .other kind span

def visitExpressions : List Expression → Visit (List Expression)
  | [] => return []
  | expression :: others => do
      return (← expression.visit) :: (← visitExpressions others)

def visitParts : List TemplatePart → Visit (List TemplatePart)
  | [] => return []
  | .mk expression literal :: others => do
      return .mk (← expression.visit) literal :: (← visitParts others)

def PropertyName.visit : PropertyName → Visit PropertyName
  | .computed expression span => do
      return .computed (← expression.visit) span
  | .identifier name => return .identifier name
  | .string text span => return .string text span
  | .number text span => return .number text span
  | .privateName text span => return .privateName text span

def visitMembers : List ObjectMember → Visit (List ObjectMember)
  | [] => return []
  | .shorthand identifier :: others => do
      return .shorthand (← identifier.visit) :: (← visitMembers others)
  | .property name value span :: others => do
      return .property (← name.visit) (← value.visit) span ::
        (← visitMembers others)
  | .other kind span :: others => do
      return .other kind span :: (← visitMembers others)

end

mutual

def BindingName.visit : BindingName → Visit BindingName
  | .identifier name => do
      return .identifier (← name.visit)
  | .array elements span => do
      return .array (← visitElements elements) span
  | .object properties span => do
      return .object (← visitPatterns properties) span

def visitElements : List BindingElement → Visit (List BindingElement)
  | [] => return []
  | .hole :: others => do
      return .hole :: (← visitElements others)
  | .bound name :: others => do
      return .bound (← name.visit) :: (← visitElements others)

def visitPatterns : List BindingName → Visit (List BindingName)
  | [] => return []
  | name :: others => do
      return (← name.visit) :: (← visitPatterns others)

end

/-- Visits an expression that may be missing. -/
def visitOptional : Option Expression → Visit (Option Expression)
  | none => return none
  | some expression => do
      return some (← expression.visit)

def visitDeclarations : List Declaration → Visit (List Declaration)
  | [] => return []
  | declared :: others => do
      let name ← declared.name.visit
      let initial ← visitOptional declared.initial
      return { declared with name, initial } :: (← visitDeclarations others)

def LoopHeader.visit : LoopHeader → Visit LoopHeader
  | .declaration declared => do
      return .declaration { declared with name := ← declared.name.visit }
  | .expression assigned => do
      return .expression (← assigned.visit)

mutual

/-- Visits a statement.  What is iterated over stands outside the scope of a
loop. -/
def Statement.visit : Statement → Visit Statement
  | .block statements placement => do
      let inner ← within (Scope.enter [] statements) (visitStatements statements)
      return .block inner placement
  | .expression evaluated placement => do
      return .expression (← evaluated.visit) placement
  | .branch condition consequent alternative placement => do
      let condition ← condition.visit
      let taken ← within (Scope.enter [] [consequent]) consequent.visit
      return .branch condition taken (← visitAlternative alternative) placement
  | .loop header iterable body placement => do
      let iterable ← iterable.visit
      within (header.declare []) do
        let header ← header.visit
        let inner ← within (Scope.enter [] [body]) body.visit
        return .loop header iterable inner placement
  | .result returned placement => do
      return .result (← visitOptional returned) placement
  | .declarations keyword declared placement => do
      return .declarations keyword (← visitDeclarations declared) placement
  | .other kind placement => return .other kind placement

def visitStatements : List Statement → Visit (List Statement)
  | [] => return []
  | statement :: others => do
      return (← statement.visit) :: (← visitStatements others)

def visitAlternative : Option Statement → Visit (Option Statement)
  | none => return none
  | some statement => do
      return some (← within (Scope.enter [] [statement]) statement.visit)

end

/-- Visits a function: its body is a block in the scope of its parameters. -/
def FunctionDeclaration.visit (function : FunctionDeclaration) :
    Visit FunctionDeclaration :=
  within (function.scope []) do
    match function.body with
    | none => return { function with body := none }
    | some body =>
        let statements ←
          within (Scope.enter [] body.statements) (visitStatements body.statements)
        return { function with body := some { body with statements } }

def Item.visit : Item → Visit Item
  | .function declared => do
      return .function (← declared.visit)
  | .statement content => do
      return .statement (← content.visit)
  | .imports declared => return .imports declared
  | .typeDeclaration span => return .typeDeclaration span

def visitItems : List Item → Visit (List Item)
  | [] => return []
  | item :: others => do
      return (← item.visit) :: (← visitItems others)

/-- Visits a module in the scope of its imports and statements. -/
def Module.visit (script : Module) : Visit Module := do
  modify (script.scope :: ·)
  return ⟨← visitItems script.items⟩

/-! ## Scopes on top of others -/

theorem Stack.lookup_eq (stack : Stack) (name : String) :
    stack.lookup name = Scope.lookup stack.flatten name := by
  have found : (stack.findSome? fun scope => List.lookup name scope) =
      List.lookup name stack.flatten := by
    induction stack with
    | nil => rfl
    | cons scope others inductionHypothesis =>
        rw [List.findSome?_cons, List.flatten_cons, List.lookup_append,
          inductionHypothesis]
        cases List.lookup name scope with
        | none => rfl
        | some binding => rfl
  rw [Stack.lookup, found]
  rfl

namespace Scope

theorem declare_append (first scope : Scope) (names : List String)
    (binding : Binding) :
    declare (first ++ scope) names binding = declare first names binding ++ scope := by
  induction names generalizing first with
  | nil => rfl
  | cons name others inductionHypothesis =>
      exact inductionHypothesis ((name, binding) :: first)

theorem enter_eq_append (scope : Scope) (statements : List Statement) :
    scope.enter statements = enter [] statements ++ scope :=
  declare_append [] scope _ _

end Scope

theorem LoopHeader.declare_eq_append (scope : Scope) (header : LoopHeader) :
    header.declare scope = header.declare [] ++ scope := by
  cases header with
  | declaration declared => exact Scope.declare_append [] scope _ _
  | expression assigned => rfl

theorem FunctionDeclaration.scope_eq_append (scope : Scope)
    (function : FunctionDeclaration) :
    function.scope scope = function.scope [] ++ scope := by
  have parameters := Scope.declare_append [] scope
    (parameterNames function.parameters) .parameter
  rw [List.nil_append] at parameters
  unfold FunctionDeclaration.scope
  rw [parameters]
  cases function.body with
  | none => rfl
  | some body => exact Scope.declare_append _ scope _ _

/-! ## Steps that leave the stack as it was -/

/-- A step that only looks names up: what it gives depends on all scopes
together, and behind it the stack is the one before it. -/
def Resolves {Result : Type} (step : Visit Result) (result : Scope → Result) : Prop :=
  ∀ stack : Stack, step.run stack = (result stack.flatten, stack)

namespace Resolves

variable {Result Other : Type}

theorem pure (value : Result) : Resolves (pure value) fun _ => value :=
  fun _ => rfl

theorem bind {step : Visit Result} {continued : Result → Visit Other}
    {result : Scope → Result} {after : Result → Scope → Other}
    (resolves : Resolves step result)
    (continues : ∀ value, Resolves (continued value) (after value)) :
    Resolves (step >>= continued) fun scope => after (result scope) scope := by
  intro stack
  have unfolded : (step >>= continued).run stack =
      (continued (step.run stack).1).run (step.run stack).2 := rfl
  rw [unfolded, resolves stack]
  exact continues (result stack.flatten) stack

/-- The scope of a step lies over the ones around it, and is gone behind it. -/
theorem within {step : Visit Result} {result : Scope → Result}
    (resolves : Resolves step result) (scope : Scope) :
    Resolves (within scope step) fun outer => result (scope ++ outer) := by
  intro stack
  have inside := resolves (scope :: stack)
  have unfolded : (Script.within scope step).run stack =
      ((step.run (scope :: stack)).1, (step.run (scope :: stack)).2.tail) := rfl
  rw [unfolded, inside]
  rfl

end Resolves

/-! ## The pass resolves every name in its scope -/

theorem Identifier.resolves_visit (identifier : Identifier) :
    Resolves identifier.visit identifier.resolve := by
  intro stack
  have unfolded : identifier.visit.run stack =
      ({ identifier with binding := stack.lookup identifier.name }, stack) := rfl
  rw [unfolded, Stack.lookup_eq]
  rfl

mutual

theorem Expression.resolves_visit :
    ∀ expression : Expression, Resolves expression.visit expression.resolve
  | .identifier name => name.resolves_visit.bind fun _ => .pure _
  | .receiver _ => .pure _
  | .number _ _ => .pure _
  | .string _ _ => .pure _
  | .boolean _ _ => .pure _
  | .template _ parts _ => (resolves_visitParts parts).bind fun _ => .pure _
  | .array elements _ => (resolves_visitExpressions elements).bind fun _ => .pure _
  | .object members _ => (resolves_visitMembers members).bind fun _ => .pure _
  | .parenthesized inner _ => inner.resolves_visit.bind fun _ => .pure _
  | .unary _ operand _ => operand.resolves_visit.bind fun _ => .pure _
  | .binary _ left right _ =>
      left.resolves_visit.bind fun _ => right.resolves_visit.bind fun _ => .pure _
  | .assignment _ target value _ =>
      target.resolves_visit.bind fun _ => value.resolves_visit.bind fun _ => .pure _
  | .member object _ _ _ => object.resolves_visit.bind fun _ => .pure _
  | .index object subscript _ =>
      object.resolves_visit.bind fun _ => subscript.resolves_visit.bind fun _ => .pure _
  | .call callee arguments _ _ =>
      callee.resolves_visit.bind fun _ =>
        (resolves_visitExpressions arguments).bind fun _ => .pure _
  | .other _ _ => .pure _

theorem resolves_visitExpressions :
    ∀ expressions : List Expression,
      Resolves (visitExpressions expressions) fun scope =>
        resolveExpressions scope expressions
  | [] => .pure _
  | expression :: others =>
      expression.resolves_visit.bind fun _ =>
        (resolves_visitExpressions others).bind fun _ => .pure _

theorem resolves_visitParts :
    ∀ parts : List TemplatePart,
      Resolves (visitParts parts) fun scope => resolveParts scope parts
  | [] => .pure _
  | .mk expression _ :: others =>
      expression.resolves_visit.bind fun _ =>
        (resolves_visitParts others).bind fun _ => .pure _

theorem PropertyName.resolves_visit :
    ∀ name : PropertyName, Resolves name.visit fun scope => name.resolve scope
  | .computed expression _ => expression.resolves_visit.bind fun _ => .pure _
  | .identifier _ => .pure _
  | .string _ _ => .pure _
  | .number _ _ => .pure _
  | .privateName _ _ => .pure _

theorem resolves_visitMembers :
    ∀ members : List ObjectMember,
      Resolves (visitMembers members) fun scope => resolveMembers scope members
  | [] => .pure _
  | .shorthand identifier :: others =>
      identifier.resolves_visit.bind fun _ =>
        (resolves_visitMembers others).bind fun _ => .pure _
  | .property name value _ :: others =>
      name.resolves_visit.bind fun _ => value.resolves_visit.bind fun _ =>
        (resolves_visitMembers others).bind fun _ => .pure _
  | .other _ _ :: others => (resolves_visitMembers others).bind fun _ => .pure _

end

mutual

theorem BindingName.resolves_visit :
    ∀ name : BindingName, Resolves name.visit fun scope => name.resolve scope
  | .identifier name => name.resolves_visit.bind fun _ => .pure _
  | .array elements _ => (resolves_visitElements elements).bind fun _ => .pure _
  | .object properties _ => (resolves_visitPatterns properties).bind fun _ => .pure _

theorem resolves_visitElements :
    ∀ elements : List BindingElement,
      Resolves (visitElements elements) fun scope => resolveElements scope elements
  | [] => .pure _
  | .hole :: others => (resolves_visitElements others).bind fun _ => .pure _
  | .bound name :: others =>
      name.resolves_visit.bind fun _ => (resolves_visitElements others).bind fun _ => .pure _

theorem resolves_visitPatterns :
    ∀ names : List BindingName,
      Resolves (visitPatterns names) fun scope => resolvePatterns scope names
  | [] => .pure _
  | name :: others =>
      name.resolves_visit.bind fun _ => (resolves_visitPatterns others).bind fun _ => .pure _

end

theorem resolves_visitOptional (expression : Option Expression) :
    Resolves (visitOptional expression) fun scope =>
      expression.map (Expression.resolve scope) := by
  cases expression with
  | none => exact .pure _
  | some expression => exact expression.resolves_visit.bind fun _ => .pure _

theorem resolves_visitDeclarations (declared : List Declaration) :
    Resolves (visitDeclarations declared) fun scope =>
      declared.map (Declaration.resolve scope) := by
  induction declared with
  | nil => exact .pure _
  | cons first others inductionHypothesis =>
      exact first.name.resolves_visit.bind fun _ =>
        (resolves_visitOptional first.initial).bind fun _ =>
          inductionHypothesis.bind fun _ => .pure _

theorem LoopHeader.resolves_visit (header : LoopHeader) :
    Resolves header.visit fun scope => header.resolve scope := by
  cases header with
  | declaration declared => exact declared.name.resolves_visit.bind fun _ => .pure _
  | expression assigned => exact assigned.resolves_visit.bind fun _ => .pure _

/-- What is resolved in the scope of some statements. -/
theorem Resolves.enter {Result : Type} {step : Visit Result} {result : Scope → Result}
    (resolves : Resolves step result) (statements : List Statement) :
    Resolves (Script.within (Scope.enter [] statements) step) fun scope =>
      result (scope.enter statements) := by
  have inside := resolves.within (Scope.enter [] statements)
  simp only [← Scope.enter_eq_append] at inside
  exact inside

mutual

/-- Whatever a statement is, it is resolved in its scope, and the stack behind it
is the one before it. -/
theorem Statement.resolves_visit :
    ∀ statement : Statement, Resolves statement.visit fun scope => statement.resolve scope
  | .block statements _ =>
      ((resolves_visitStatements statements).enter statements).bind fun _ => .pure _
  | .expression evaluated _ => evaluated.resolves_visit.bind fun _ => .pure _
  | .branch condition consequent alternative _ =>
      condition.resolves_visit.bind fun _ =>
        (consequent.resolves_visit.enter [consequent]).bind fun _ =>
          (resolves_visitAlternative alternative).bind fun _ => .pure _
  | .loop header iterable body placement => by
      -- The scope of the header lies over the one around the loop.
      have inside (value : Expression) := (header.resolves_visit.bind fun header =>
        (body.resolves_visit.enter [body]).bind fun inner =>
          .pure (Statement.loop header value inner placement)).within
            (header.declare [])
      simp only [← LoopHeader.declare_eq_append] at inside
      exact iterable.resolves_visit.bind inside
  | .result returned _ => (resolves_visitOptional returned).bind fun _ => .pure _
  | .declarations _ declared _ =>
      (resolves_visitDeclarations declared).bind fun _ => .pure _
  | .other _ _ => .pure _

theorem resolves_visitStatements :
    ∀ statements : List Statement,
      Resolves (visitStatements statements) fun scope =>
        resolveStatements scope statements
  | [] => .pure _
  | statement :: others =>
      statement.resolves_visit.bind fun _ =>
        (resolves_visitStatements others).bind fun _ => .pure _

theorem resolves_visitAlternative :
    ∀ alternative : Option Statement,
      Resolves (visitAlternative alternative) fun scope =>
        resolveAlternative scope alternative
  | none => .pure _
  | some statement => (statement.resolves_visit.enter [statement]).bind fun _ => .pure _

end

theorem FunctionDeclaration.resolves_visit (function : FunctionDeclaration) :
    Resolves function.visit fun scope => function.resolve scope := by
  unfold FunctionDeclaration.visit
  cases bodied : function.body with
  | none =>
      have inside := (Resolves.pure { function with body := none }).within
        (function.scope [])
      have resolved (scope : Scope) : function.resolve scope =
          { function with body := none } := by
        rw [FunctionDeclaration.resolve, bodied]
        rfl
      simp only [resolved]
      exact inside
  | some body =>
      have inside := (((resolves_visitStatements body.statements).enter
        body.statements).bind fun statements => .pure
          { function with body := some { body with statements } }).within
            (function.scope [])
      have resolved (scope : Scope) : function.resolve scope =
          { function with
            body := some { body with
              statements := resolveStatements
                ((function.scope scope).enter body.statements) body.statements } } := by
        rw [FunctionDeclaration.resolve, bodied]
        rfl
      simp only [← FunctionDeclaration.scope_eq_append] at inside
      simp only [resolved]
      exact inside

theorem Item.resolves_visit (item : Item) :
    Resolves item.visit fun scope => item.resolve scope := by
  cases item with
  | function declared => exact declared.resolves_visit.bind fun _ => .pure _
  | statement content => exact content.resolves_visit.bind fun _ => .pure _
  | imports declared => exact .pure _
  | typeDeclaration span => exact .pure _

theorem resolves_visitItems (items : List Item) :
    Resolves (visitItems items) fun scope => items.map (Item.resolve scope) := by
  induction items with
  | nil => exact .pure _
  | cons item others inductionHypothesis =>
      exact item.resolves_visit.bind fun _ =>
        inductionHypothesis.bind fun _ => .pure _

/-- The pass over a module resolves it, and what is left on the stack is the
scope of the module itself. -/
theorem Module.visit_run (script : Module) :
    script.visit.run [] = (script.resolve, [script.scope]) := by
  have resolved := resolves_visitItems script.items [script.scope]
  have alone : List.flatten [script.scope] = script.scope := List.append_nil _
  rw [alone] at resolved
  have unfolded : script.visit.run [] =
      (⟨((visitItems script.items).run [script.scope]).1⟩,
        ((visitItems script.items).run [script.scope]).2) := rfl
  rw [unfolded, resolved]
  rfl

end VelocityScript.Script
