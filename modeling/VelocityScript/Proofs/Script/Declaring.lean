import VelocityScript.Proofs.Script.Aliasing

/-!
# What declares a name

A name is declared by a pattern that binds it, at whatever depth.  Declarations
with `let` and `const` belong to the block they stand in, those with `var` to the
function around them, and a module has its imports and its own declarations.

Looking a name up in a scope asks just that: a scope with more declarations gives
what they say of the names they declare, and what it gave before of all others.
-/

namespace VelocityScript.Script

/-! ## Patterns and declarations -/

/-- A pattern binds a name. -/
inductive BindingName.Binds (name : String) : BindingName → Prop
  | identifier {named : Identifier} :
      named.name = name → BindingName.Binds name (.identifier named)
  | element {elements : List BindingElement} {element : BindingName}
      {span : Span} :
      .bound element ∈ elements →
      BindingName.Binds name element →
      BindingName.Binds name (.array elements span)
  | property {properties : List BindingName} {property : BindingName}
      {span : Span} :
      property ∈ properties →
      BindingName.Binds name property →
      BindingName.Binds name (.object properties span)

/-- A statement declares a name for the block it stands in. -/
inductive Statement.DeclaresInBlock (name : String) : Statement → Prop
  | declarations {keyword : DeclarationKeyword} {declared : List Declaration}
      {declaration : Declaration} {placement : Placement} :
      keyword ≠ .var →
      declaration ∈ declared →
      declaration.name.Binds name →
      Statement.DeclaresInBlock name (.declarations keyword declared placement)

/-- A statement declares a name for the function around it. -/
inductive Statement.DeclaresInFunction (name : String) : Statement → Prop
  | declarations {declared : List Declaration} {declaration : Declaration}
      {placement : Placement} :
      declaration ∈ declared →
      declaration.name.Binds name →
      Statement.DeclaresInFunction name (.declarations .var declared placement)
  | block {statements : List Statement} {statement : Statement}
      {placement : Placement} :
      statement ∈ statements →
      Statement.DeclaresInFunction name statement →
      Statement.DeclaresInFunction name (.block statements placement)
  | consequent {condition : Expression} {consequent : Statement}
      {alternative : Option Statement} {placement : Placement} :
      Statement.DeclaresInFunction name consequent →
      Statement.DeclaresInFunction name
        (.branch condition consequent alternative placement)
  | alternative {condition : Expression} {consequent alternative : Statement}
      {placement : Placement} :
      Statement.DeclaresInFunction name alternative →
      Statement.DeclaresInFunction name
        (.branch condition consequent (some alternative) placement)
  | body {header : LoopHeader} {iterable : Expression} {body : Statement}
      {placement : Placement} :
      Statement.DeclaresInFunction name body →
      Statement.DeclaresInFunction name (.loop header iterable body placement)

/-- The header of a loop declares a name. -/
def LoopHeader.Declares (name : String) : LoopHeader → Prop
  | .declaration declared => declared.name.Binds name
  | .expression _ => False

variable {name : String}

mutual

theorem mem_names_iff :
    ∀ {pattern : BindingName}, name ∈ pattern.names ↔ pattern.Binds name
  | .identifier named => by
      simp only [BindingName.names, List.mem_singleton]
      constructor
      · intro same
        exact .identifier same.symm
      · rintro ⟨same⟩
        exact same.symm
  | .array elements span => by
      rw [BindingName.names, mem_elementNames_iff]
      constructor
      · rintro ⟨element, member, binds⟩
        exact .element member binds
      · intro binds
        cases binds with
        | element member binds => exact ⟨_, member, binds⟩
  | .object properties span => by
      rw [BindingName.names, mem_patternNames_iff]
      constructor
      · rintro ⟨property, member, binds⟩
        exact .property member binds
      · intro binds
        cases binds with
        | property member binds => exact ⟨_, member, binds⟩

theorem mem_elementNames_iff :
    ∀ {elements : List BindingElement},
      name ∈ elementNames elements ↔
        ∃ element, .bound element ∈ elements ∧ element.Binds name
  | [] => by simp [elementNames]
  | .hole :: others => by
      simp [elementNames, @mem_elementNames_iff others]
  | .bound first :: others => by
      simp [elementNames, @mem_names_iff first,
        @mem_elementNames_iff others, or_and_right, exists_or]

theorem mem_patternNames_iff :
    ∀ {properties : List BindingName},
      name ∈ patternNames properties ↔
        ∃ property ∈ properties, property.Binds name
  | [] => by simp [patternNames]
  | first :: others => by
      simp [patternNames, @mem_names_iff first,
        @mem_patternNames_iff others]

end

theorem mem_declaredNames_iff {declared : List Declaration} :
    name ∈ declaredNames declared ↔
      ∃ declaration ∈ declared, declaration.name.Binds name := by
  simp only [declaredNames, List.mem_flatMap, mem_names_iff]

theorem mem_blockNames_iff {statement : Statement} :
    name ∈ statement.blockNames ↔ statement.DeclaresInBlock name := by
  constructor
  · intro member
    cases statement with
    | declarations keyword declared placement =>
        by_cases hoisted : keyword = .var
        · simp [Statement.blockNames, hoisted] at member
        · simp only [Statement.blockNames, if_neg hoisted,
            mem_declaredNames_iff] at member
          obtain ⟨declaration, found, binds⟩ := member
          exact .declarations hoisted found binds
    | _ => cases member
  · rintro ⟨lexical, found, binds⟩
    simp only [Statement.blockNames, if_neg lexical, mem_declaredNames_iff]
    exact ⟨_, found, binds⟩

mutual

theorem mem_functionNames_iff :
    ∀ {statement : Statement},
      name ∈ statement.functionNames ↔ statement.DeclaresInFunction name
  | .declarations keyword declared placement => by
      constructor
      · intro member
        by_cases hoisted : keyword = .var
        · subst hoisted
          simp only [Statement.functionNames, if_true,
            mem_declaredNames_iff] at member
          obtain ⟨declaration, found, binds⟩ := member
          exact .declarations found binds
        · simp [Statement.functionNames, hoisted] at member
      · intro declares
        cases declares with
        | declarations found binds =>
            simp only [Statement.functionNames, if_true, mem_declaredNames_iff]
            exact ⟨_, found, binds⟩
  | .block statements placement => by
      rw [Statement.functionNames, mem_functionNamesOf_iff]
      constructor
      · rintro ⟨statement, member, declares⟩
        exact .block member declares
      · intro declares
        cases declares with
        | block member declares => exact ⟨_, member, declares⟩
  | .branch condition consequent alternative placement => by
      rw [Statement.functionNames, List.mem_append, mem_functionNames_iff,
        mem_functionNamesOf?_iff]
      constructor
      · rintro (declares | ⟨other, rfl, declares⟩)
        · exact .consequent declares
        · exact .alternative declares
      · intro declares
        cases declares with
        | consequent declares => exact Or.inl declares
        | alternative declares => exact Or.inr ⟨_, rfl, declares⟩
  | .loop header iterable body placement => by
      rw [Statement.functionNames, mem_functionNames_iff]
      constructor
      · intro declares
        exact .body declares
      · intro declares
        cases declares with
        | body declares => exact declares
  | .expression evaluated placement | .result returned placement
  | .other kind placement => by
      constructor
      · intro member
        cases member
      · intro declares
        cases declares

theorem mem_functionNamesOf_iff :
    ∀ {statements : List Statement},
      name ∈ functionNamesOf statements ↔
        ∃ statement ∈ statements, statement.DeclaresInFunction name
  | [] => by simp [functionNamesOf]
  | first :: others => by
      simp [functionNamesOf, @mem_functionNames_iff first,
        @mem_functionNamesOf_iff others]

theorem mem_functionNamesOf?_iff :
    ∀ {source : Option Statement},
      name ∈ functionNamesOf? source ↔
        ∃ statement, source = some statement ∧ statement.DeclaresInFunction name
  | none => by simp [functionNamesOf?]
  | some statement => by
      simp [functionNamesOf?, @mem_functionNames_iff statement]

end

/-! ## Functions -/

/-- The body of a function declares a name for all of it. -/
def FunctionDeclaration.DeclaresVariable (name : String)
    (function : FunctionDeclaration) : Prop :=
  ∃ body, function.body = some body ∧
    ∃ statement ∈ body.statements, statement.DeclaresInFunction name

/-- A parameter of a function, other than the one that types its receiver, binds
a name. -/
def FunctionDeclaration.HasParameter (name : String)
    (function : FunctionDeclaration) : Prop :=
  ∃ parameter ∈ function.parameters,
    parameter.isReceiver = false ∧ parameter.name.Binds name

theorem mem_parameterNames_iff {function : FunctionDeclaration} :
    name ∈ parameterNames function.parameters ↔ function.HasParameter name := by
  simp only [parameterNames, FunctionDeclaration.HasParameter, List.mem_flatMap]
  apply exists_congr
  intro parameter
  cases parameter.isReceiver <;> simp [mem_names_iff]

section Functions

variable {function : FunctionDeclaration} (scope : Scope)

theorem lookup_of_declaresVariable (declares : function.DeclaresVariable name) :
    (function.scope scope).lookup name = .variableName := by
  obtain ⟨body, bodied, inside⟩ := declares
  simp only [FunctionDeclaration.scope, bodied]
  exact Scope.lookup_declare_of_mem (mem_functionNamesOf_iff.mpr inside) _

theorem lookup_of_not_declaresVariable
    (silent : ¬ function.DeclaresVariable name) :
    (function.scope scope).lookup name =
      (scope.declare (parameterNames function.parameters) .parameter).lookup
        name := by
  cases bodied : function.body with
  | none => simp only [FunctionDeclaration.scope, bodied]
  | some body =>
      simp only [FunctionDeclaration.scope, bodied]
      apply Scope.lookup_declare_of_not_mem
      intro member
      exact silent ⟨body, bodied, mem_functionNamesOf_iff.mp member⟩

theorem lookup_of_hasParameter (silent : ¬ function.DeclaresVariable name)
    (parameter : function.HasParameter name) :
    (function.scope scope).lookup name = .parameter := by
  rw [lookup_of_not_declaresVariable scope silent]
  exact Scope.lookup_declare_of_mem (mem_parameterNames_iff.mpr parameter) scope

theorem lookup_outside_function (silent : ¬ function.DeclaresVariable name)
    (noParameter : ¬ function.HasParameter name) :
    (function.scope scope).lookup name = scope.lookup name := by
  rw [lookup_of_not_declaresVariable scope silent]
  apply Scope.lookup_declare_of_not_mem
  intro member
  exact noParameter (mem_parameterNames_iff.mp member)

end Functions

/-! ## Modules -/

/-- An item of a module gives a name a meaning.  Only imports of helper modules
count, and of several specifiers the last one. -/
inductive Item.Gives (name : String) : Item → Binding → Prop
  | specifier {declared : ImportDeclaration} {before after : List ImportSpecifier}
      {specifier : ImportSpecifier} :
      Catalogue.isHelperModule declared.moduleName = true →
      declared.specifiers = before ++ specifier :: after →
      specifier.bound = name →
      (∀ other ∈ after, other.bound ≠ name) →
      Item.Gives name (.imports declared) (specifier.binding declared.moduleName)
  | declarations {keyword : DeclarationKeyword} {declared : List Declaration}
      {declaration : Declaration} {placement : Placement} :
      declaration ∈ declared →
      declaration.name.Binds name →
      Item.Gives name (.statement (.declarations keyword declared placement))
        .variableName

/-- The last item of a module that gives a name a meaning gives this one. -/
def Module.Gives (script : Module) (name : String) (binding : Binding) : Prop :=
  ∃ before item after, script.items = before ++ item :: after ∧
    item.Gives name binding ∧
      ∀ other ∈ after, ∀ otherBinding, ¬ other.Gives name otherBinding

/-- Where some element of a list has a property, one of them is the last. -/
theorem exists_last {Element : Type} {property : Element → Prop}
    {elements : List Element} (some : ∃ element ∈ elements, property element) :
    ∃ before element after, elements = before ++ element :: after ∧
      property element ∧ ∀ other ∈ after, ¬ property other := by
  induction elements with
  | nil => simp at some
  | cons first others inductionHypothesis =>
      by_cases later : ∃ element ∈ others, property element
      · obtain ⟨before, element, after, split, holds, none⟩ :=
          inductionHypothesis later
        exact ⟨first :: before, element, after, congrArg (first :: ·) split,
          holds, none⟩
      · have here : property first := by
          simpa [later] using some
        refine ⟨[], first, others, rfl, here, ?_⟩
        intro other member holds
        exact later ⟨other, member, holds⟩

theorem lookup_specifiers_of_free {moduleName : String}
    {specifiers : List ImportSpecifier}
    (free : ∀ other ∈ specifiers, other.bound ≠ name) (scope : Scope) :
    Scope.lookup
        (specifiers.foldl
          (fun scope specifier =>
            (specifier.bound, specifier.binding moduleName) :: scope)
          scope)
        name =
      scope.lookup name := by
  apply (extends_specifiers moduleName specifiers).others
  simpa using free

theorem Item.Gives.lookup_eq {item : Item} {binding : Binding}
    (gives : item.Gives name binding) (scope : Scope) :
    (item.declare scope).lookup name = binding := by
  cases gives with
  | specifier helper split bound last =>
      simp only [Item.declare, ImportDeclaration.declare, helper, if_true, split,
        List.foldl_append, List.foldl_cons]
      rw [lookup_specifiers_of_free last, Scope.lookup_cons, if_pos bound.symm]
  | declarations found binds =>
      simp only [Item.declare, Statement.moduleNames]
      apply Scope.lookup_declare_of_mem
      exact mem_declaredNames_iff.mpr ⟨_, found, binds⟩

theorem Item.lookup_of_silent {item : Item}
    (silent : ∀ binding, ¬ item.Gives name binding) (scope : Scope) :
    (item.declare scope).lookup name = scope.lookup name := by
  apply item.extends_declare.others
  intro member
  cases item with
  | imports declared =>
      by_cases helper : Catalogue.isHelperModule declared.moduleName = true
      · simp only [Item.boundNames, ImportDeclaration.boundNames, if_pos helper,
          List.mem_map] at member
        obtain ⟨before, specifier, after, split, bound, last⟩ :=
          exists_last member
        exact silent _ (.specifier helper split bound last)
      · simp [Item.boundNames, ImportDeclaration.boundNames, helper] at member
  | statement content =>
      cases content with
      | declarations keyword declared placement =>
          obtain ⟨declaration, found, binds⟩ := mem_declaredNames_iff.mp member
          exact silent _ (.declarations found binds)
      | _ => cases member
  | function declared => cases member
  | typeDeclaration span => cases member

theorem lookup_items_of_silent {items : List Item}
    (silent : ∀ item ∈ items, ∀ binding, ¬ item.Gives name binding)
    (scope : Scope) :
    (items.foldl Item.declare scope).lookup name = scope.lookup name := by
  induction items generalizing scope with
  | nil => rfl
  | cons first others inductionHypothesis =>
      obtain ⟨here, later⟩ := List.forall_mem_cons.mp silent
      rw [List.foldl_cons, inductionHypothesis later, Item.lookup_of_silent here]

theorem Module.Gives.lookup_eq {script : Module} {binding : Binding}
    (gives : script.Gives name binding) : script.scope.lookup name = binding := by
  obtain ⟨before, item, after, split, here, last⟩ := gives
  rw [Module.scope, split, List.foldl_append, List.foldl_cons,
    lookup_items_of_silent last, here.lookup_eq]

theorem Module.lookup_of_silent {script : Module}
    (silent : ∀ binding, ¬ script.Gives name binding) :
    script.scope.lookup name = .unresolved := by
  have none : ∀ item ∈ script.items, ∀ binding, ¬ item.Gives name binding := by
    intro item member binding gives
    have given : ∃ item ∈ script.items, ∃ binding, item.Gives name binding :=
      ⟨item, member, binding, gives⟩
    obtain ⟨before, last, after, split, ⟨lastBinding, lastGives⟩, later⟩ :=
      exists_last given
    apply silent lastBinding
    refine ⟨before, last, after, split, lastGives, ?_⟩
    intro other found otherBinding otherGives
    exact later other found ⟨otherBinding, otherGives⟩
  rw [Module.scope, lookup_items_of_silent none]
  rfl

end VelocityScript.Script
