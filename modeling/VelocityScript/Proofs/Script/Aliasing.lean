import VelocityScript.Proofs.Lowering.Binding
import VelocityScript.Proofs.Script.Names

/-!
# Importing under another name

A named import can bind another name.  The references that stand for it are then
renamed, but not those that a declaration of the same name hides.  In the scopes
of the renamed script every name stands for what the original one stood for.
-/

namespace VelocityScript.Script

/-! ## Renamed scripts -/

/-- A change of names that leaves out the given ones. -/
def sparing (names : List String) (change : String → String) : String → String :=
  fun name => if name ∈ names then name else change name

def Identifier.rename (change : String → String) (named : Identifier) :
    Identifier :=
  { named with name := change named.name }

mutual

/-- An expression with other names in its references. -/
def Expression.rename (change : String → String) : Expression → Expression
  | .identifier named => .identifier (named.rename change)
  | .receiver span => .receiver span
  | .number text span => .number text span
  | .string text span => .string text span
  | .boolean truth span => .boolean truth span
  | .template head parts span => .template head (renameParts change parts) span
  | .array elements span => .array (renameExpressions change elements) span
  | .object members span => .object (renameMembers change members) span
  | .parenthesized inner span => .parenthesized (inner.rename change) span
  | .unary operator operand span => .unary operator (operand.rename change) span
  | .binary operator left right span =>
      .binary operator (left.rename change) (right.rename change) span
  | .assignment operator place value span =>
      .assignment operator (place.rename change) (value.rename change) span
  | .member object property isPrivate span =>
      .member (object.rename change) property isPrivate span
  | .index object subscript span =>
      .index (object.rename change) (subscript.rename change) span
  | .call callee arguments returns span =>
      .call (callee.rename change) (renameExpressions change arguments) returns
        span
  | .other kind span => .other kind span

def renameExpressions (change : String → String) :
    List Expression → List Expression
  | [] => []
  | source :: others => source.rename change :: renameExpressions change others

def renameParts (change : String → String) :
    List TemplatePart → List TemplatePart
  | [] => []
  | .mk source literal :: others =>
      .mk (source.rename change) literal :: renameParts change others

def PropertyName.rename (change : String → String) : PropertyName → PropertyName
  | .computed source span => .computed (source.rename change) span
  | .identifier named => .identifier named
  | .string text span => .string text span
  | .number text span => .number text span
  | .privateName text span => .privateName text span

/-- The members of an object with other names in their references.  The key of a
shorthand stays, so a shorthand that is renamed is written out. -/
def renameMembers (change : String → String) :
    List ObjectMember → List ObjectMember
  | [] => []
  | .shorthand named :: others =>
      (if change named.name = named.name then .shorthand named
        else .property (.identifier named) (.identifier (named.rename change))
          named.span) ::
        renameMembers change others
  | .property name value span :: others =>
      .property (name.rename change) (value.rename change) span ::
        renameMembers change others
  | .other kind span :: others =>
      .other kind span :: renameMembers change others

end

def Declaration.rename (change : String → String) (declared : Declaration) :
    Declaration :=
  { declared with initial := declared.initial.map (Expression.rename change) }

def LoopHeader.rename (change : String → String) : LoopHeader → LoopHeader
  | .declaration declared => .declaration declared
  | .expression assigned => .expression (assigned.rename change)

mutual

/-- A statement with other names in its references.  What a scope inside it
declares is left out there. -/
def Statement.rename (change : String → String) : Statement → Statement
  | .block statements placement =>
      .block
        (renameStatements
          (sparing (statements.flatMap Statement.blockNames) change) statements)
        placement
  | .expression evaluated placement =>
      .expression (evaluated.rename change) placement
  | .branch condition consequent alternative placement =>
      .branch (condition.rename change)
        (consequent.rename
          (sparing ([consequent].flatMap Statement.blockNames) change))
        (renameAlternative change alternative) placement
  | .loop header iterable body placement =>
      let inner := sparing header.boundNames change
      .loop (header.rename inner) (iterable.rename change)
        (body.rename (sparing ([body].flatMap Statement.blockNames) inner))
        placement
  | .result returned placement =>
      .result (returned.map (Expression.rename change)) placement
  | .declarations keyword declared placement =>
      .declarations keyword (declared.map (Declaration.rename change)) placement
  | .other kind placement => .other kind placement

def renameStatements (change : String → String) :
    List Statement → List Statement
  | [] => []
  | statement :: others =>
      statement.rename change :: renameStatements change others

def renameAlternative (change : String → String) :
    Option Statement → Option Statement
  | none => none
  | some statement =>
      some (statement.rename
        (sparing ([statement].flatMap Statement.blockNames) change))

end

/-- The names that a function declares for the whole of its body. -/
def FunctionDeclaration.outerNames (function : FunctionDeclaration) :
    List String :=
  match function.body with
  | none => parameterNames function.parameters
  | some body =>
      parameterNames function.parameters ++ functionNamesOf body.statements

/-- A function with other names in the references of its body. -/
def FunctionDeclaration.rename (change : String → String)
    (function : FunctionDeclaration) : FunctionDeclaration :=
  let inner := sparing function.outerNames change
  { function with
    body := function.body.map fun body =>
      { body with
        statements :=
          renameStatements
            (sparing (body.statements.flatMap Statement.blockNames) inner)
            body.statements } }

def Item.rename (change : String → String) : Item → Item
  | .function declared => .function (declared.rename change)
  | .statement content => .statement (content.rename change)
  | .imports declared => .imports declared
  | .typeDeclaration span => .typeDeclaration span

/-! ## What does not change -/

theorem span_rename (change : String → String) (source : Expression) :
    (source.rename change).span = source.span := by
  cases source <;> rfl

theorem declaredNames_rename (change : String → String)
    (declared : List Declaration) :
    declaredNames (declared.map (Declaration.rename change)) =
      declaredNames declared := by
  unfold declaredNames
  rw [List.flatMap_map]
  rfl

theorem blockNames_rename (change : String → String) (source : Statement) :
    (source.rename change).blockNames = source.blockNames := by
  cases source with
  | declarations keyword declared placement =>
      simp only [Statement.rename, Statement.blockNames, declaredNames_rename]
  | _ => rfl

theorem blockNames_renameStatements (change : String → String)
    (sources : List Statement) :
    (renameStatements change sources).flatMap Statement.blockNames =
      sources.flatMap Statement.blockNames := by
  induction sources with
  | nil => rfl
  | cons first others inductionHypothesis =>
      rw [renameStatements, List.flatMap_cons, List.flatMap_cons,
        blockNames_rename, inductionHypothesis]

theorem moduleNames_rename (change : String → String) (source : Statement) :
    (source.rename change).moduleNames = source.moduleNames := by
  cases source with
  | declarations keyword declared placement =>
      exact declaredNames_rename change declared
  | _ => rfl

mutual

theorem functionNames_rename :
    ∀ (change : String → String) (source : Statement),
      (source.rename change).functionNames = source.functionNames
  | _, .block statements _ => functionNamesOf_rename _ statements
  | change, .branch _ consequent alternative _ => by
      have here := functionNames_rename
        (sparing ([consequent].flatMap Statement.blockNames) change) consequent
      have there := functionNamesOf?_rename change alternative
      simp only [Statement.rename, Statement.functionNames, here, there]
  | _, .loop _ _ body _ => functionNames_rename _ body
  | change, .declarations _ declared _ => by
      simp only [Statement.rename, Statement.functionNames,
        declaredNames_rename]
  | _, .expression _ _ => rfl
  | _, .result _ _ => rfl
  | _, .other _ _ => rfl

theorem functionNamesOf_rename :
    ∀ (change : String → String) (sources : List Statement),
      functionNamesOf (renameStatements change sources) =
        functionNamesOf sources
  | _, [] => rfl
  | change, first :: others => by
      have here := functionNames_rename change first
      have there := functionNamesOf_rename change others
      simp only [renameStatements, functionNamesOf, here, there]

theorem functionNamesOf?_rename :
    ∀ (change : String → String) (source : Option Statement),
      functionNamesOf? (renameAlternative change source) =
        functionNamesOf? source
  | _, none => rfl
  | _, some statement => functionNames_rename _ statement

end

/-! ## Scopes -/

/-- A change of scopes declares the given names, whatever the scope, and leaves
the others alone. -/
structure Scope.Extends (extend : Scope → Scope) (names : List String) : Prop where
  others : ∀ scope name, name ∉ names →
    (extend scope).lookup name = scope.lookup name
  own : ∀ scope other name, name ∈ names →
    (extend scope).lookup name = (extend other).lookup name

namespace Scope.Extends

theorem refl : Extends id [] :=
  ⟨fun _ _ _ => rfl, fun _ _ _ member => nomatch member⟩

theorem cons (declared : String × Binding) :
    Extends (declared :: ·) [declared.1] where
  others scope name free := by
    rw [lookup_cons, if_neg fun same => free (List.mem_singleton.mpr same)]
  own scope other name member := by
    rw [lookup_cons, lookup_cons, if_pos (List.mem_singleton.mp member),
      if_pos (List.mem_singleton.mp member)]

theorem declare (names : List String) (binding : Binding) :
    Extends (fun scope => scope.declare names binding) names where
  others scope _ free := lookup_declare_of_not_mem free scope
  own scope other _ member := by
    rw [lookup_declare_of_mem member, lookup_declare_of_mem member]

/-- One change after another. -/
theorem comp {first second : Scope → Scope} {earlier later : List String}
    (firstExtends : Extends first earlier) (secondExtends : Extends second later) :
    Extends (fun scope => second (first scope)) (earlier ++ later) where
  others scope name free := by
    have notEarlier : name ∉ earlier :=
      fun member => free (List.mem_append_left later member)
    have notLater : name ∉ later :=
      fun member => free (List.mem_append_right earlier member)
    rw [secondExtends.others _ _ notLater, firstExtends.others _ _ notEarlier]
  own scope other name member := by
    by_cases inLater : name ∈ later
    · exact secondExtends.own _ _ _ inLater
    · have inEarlier := (List.mem_append.mp member).resolve_right inLater
      rw [secondExtends.others _ _ inLater, secondExtends.others _ _ inLater]
      exact firstExtends.own _ _ _ inEarlier

theorem foldl {Declared : Type} {declare : Scope → Declared → Scope}
    {names : Declared → List String}
    (each : ∀ declared, Extends (declare · declared) (names declared)) :
    ∀ all : List Declared,
      Extends (fun scope => all.foldl declare scope) (all.flatMap names)
  | [] => refl
  | first :: others => (each first).comp (foldl each others)

end Scope.Extends

theorem Scope.extends_enter (statements : List Statement) :
    Scope.Extends (fun scope => scope.enter statements)
      (statements.flatMap Statement.blockNames) :=
  .declare _ .variableName

theorem FunctionDeclaration.extends_scope (function : FunctionDeclaration) :
    Scope.Extends (fun scope => function.scope scope) function.outerNames := by
  unfold FunctionDeclaration.scope FunctionDeclaration.outerNames
  cases function.body with
  | none => exact .declare _ .parameter
  | some body =>
      exact (Scope.Extends.declare _ .parameter).comp (.declare _ .variableName)

/-- The names that an import binds. -/
def ImportDeclaration.boundNames (imports : ImportDeclaration) : List String :=
  if Catalogue.isHelperModule imports.moduleName then
    imports.specifiers.map ImportSpecifier.bound
  else
    []

/-- The names that an item declares in the module. -/
def Item.boundNames : Item → List String
  | .imports declared => declared.boundNames
  | .statement content => content.moduleNames
  | .function _ => []
  | .typeDeclaration _ => []

theorem extends_specifiers (moduleName : String)
    (specifiers : List ImportSpecifier) :
    Scope.Extends
      (fun scope => specifiers.foldl
        (fun scope specifier =>
          (specifier.bound, specifier.binding moduleName) :: scope)
        scope)
      (specifiers.map ImportSpecifier.bound) := by
  rw [List.map_eq_flatMap]
  exact .foldl (fun specifier => .cons (specifier.bound, _)) specifiers

theorem ImportDeclaration.extends_declare (imports : ImportDeclaration) :
    Scope.Extends (fun scope => imports.declare scope) imports.boundNames := by
  unfold ImportDeclaration.declare ImportDeclaration.boundNames
  cases Catalogue.isHelperModule imports.moduleName with
  | true => exact extends_specifiers imports.moduleName imports.specifiers
  | false => exact .refl

theorem Item.extends_declare (item : Item) :
    Scope.Extends (fun scope => item.declare scope) item.boundNames := by
  cases item with
  | imports declared => exact declared.extends_declare
  | statement content => exact .declare _ .variableName
  | function declared => exact .refl
  | typeDeclaration span => exact .refl

/-! ## Names that occur -/

theorem declaredNames_subset (declared : List Declaration) :
    declaredNames declared ⊆ namesOfDeclarations declared := by
  intro name member
  obtain ⟨declaration, found, bound⟩ := List.mem_flatMap.mp member
  exact List.mem_flatMap.mpr ⟨declaration, found, List.mem_append_left _ bound⟩

theorem blockNames_subset (statement : Statement) :
    statement.blockNames ⊆ statement.names := by
  cases statement with
  | declarations keyword declared placement =>
      simp only [Statement.blockNames]
      split
      · exact List.nil_subset _
      · exact declaredNames_subset declared
  | _ => exact List.nil_subset _

theorem blockNamesOf_subset (statements : List Statement) :
    statements.flatMap Statement.blockNames ⊆ namesOfStatements statements := by
  induction statements with
  | nil => exact List.nil_subset _
  | cons first others inductionHypothesis =>
      rw [List.flatMap_cons, namesOfStatements]
      exact List.append_subset.mpr
        ⟨List.subset_append_of_subset_left _ (blockNames_subset first),
          List.subset_append_of_subset_right _ inductionHypothesis⟩

theorem boundNames_subset_names (header : LoopHeader) :
    header.boundNames ⊆ header.names := by
  cases header with
  | declaration declared => exact List.subset_append_left _ _
  | expression assigned => exact List.nil_subset _

theorem moduleNames_subset (statement : Statement) :
    statement.moduleNames ⊆ statement.names := by
  cases statement with
  | declarations keyword declared placement => exact declaredNames_subset declared
  | _ => exact List.nil_subset _

mutual

theorem functionNames_subset :
    ∀ statement : Statement, statement.functionNames ⊆ statement.names
  | .block statements _ => functionNamesOf_subset statements
  | .branch _ consequent alternative _ => by
      have here := functionNames_subset consequent
      have there := functionNamesOf?_subset alternative
      rw [Statement.functionNames, Statement.names]
      exact List.append_subset.mpr
        ⟨List.subset_append_of_subset_left _
            (List.subset_append_of_subset_right _ here),
          List.subset_append_of_subset_right _ there⟩
  | .loop _ _ body _ =>
      List.subset_append_of_subset_right _ (functionNames_subset body)
  | .declarations _ declared _ => by
      rw [Statement.functionNames]
      split
      · exact declaredNames_subset declared
      · exact List.nil_subset _
  | .expression _ _ => List.nil_subset _
  | .result _ _ => List.nil_subset _
  | .other _ _ => List.nil_subset _

theorem functionNamesOf_subset :
    ∀ statements : List Statement,
      functionNamesOf statements ⊆ namesOfStatements statements
  | [] => List.nil_subset _
  | first :: others => by
      rw [functionNamesOf, namesOfStatements]
      exact List.append_subset.mpr
        ⟨List.subset_append_of_subset_left _ (functionNames_subset first),
          List.subset_append_of_subset_right _ (functionNamesOf_subset others)⟩

theorem functionNamesOf?_subset :
    ∀ statement : Option Statement,
      functionNamesOf? statement ⊆ namesOfAlternative statement
  | none => List.nil_subset _
  | some statement => functionNames_subset statement

end

/-- The names in an item: those that it binds, and those in statements. -/
def Item.names : Item → List String
  | .imports declared => declared.specifiers.map ImportSpecifier.bound
  | .function declared => parameterNames declared.parameters ++ declared.names
  | .statement content => content.names
  | .typeDeclaration _ => []

def Module.names (script : Module) : List String :=
  script.items.flatMap Item.names

theorem Item.boundNames_subset (item : Item) : item.boundNames ⊆ item.names := by
  cases item with
  | imports declared =>
      simp only [Item.boundNames, ImportDeclaration.boundNames]
      split
      · exact List.Subset.refl _
      · exact List.nil_subset _
  | statement content => exact moduleNames_subset content
  | function declared => exact List.nil_subset _
  | typeDeclaration span => exact List.nil_subset _

theorem FunctionDeclaration.outerNames_subset (function : FunctionDeclaration) :
    function.outerNames ⊆ parameterNames function.parameters ++ function.names := by
  unfold FunctionDeclaration.outerNames FunctionDeclaration.names
  cases function.body with
  | none => exact List.subset_append_left _ _
  | some body =>
      exact List.append_subset.mpr
        ⟨List.subset_append_left _ _,
          List.subset_append_of_subset_right _
            (functionNamesOf_subset body.statements)⟩

/-! ## Renamed scopes -/

/-- A change of names that moves one name at most, from that of a helper to a new
one; in another scope the changed names stand for what the names stand for. -/
structure Renames (old new : String) (change : String → String)
    (scope other : Scope) : Prop where
  moved : ∀ name, change name = name ∨ name = old ∧ change name = new ∧
    ∃ moduleName kind, scope.lookup name = .helper moduleName old kind
  same : ∀ name, name ≠ new → other.lookup (change name) = scope.lookup name

section

variable {old new : String} {change : String → String} {scope other : Scope}

theorem Renames.extend {names : List String} {extend : Scope → Scope}
    (renames : Renames old new change scope other)
    (extension : Scope.Extends extend names) (fresh : new ∉ names) :
    Renames old new (sparing names change) (extend scope) (extend other) where
  moved name := by
    unfold sparing
    split
    · exact .inl rfl
    · next free =>
        rw [extension.others _ _ free]
        exact renames.moved name
  same name different := by
    unfold sparing
    split
    · next member => exact extension.own other scope name member
    · next free =>
        -- The new name is declared nowhere inside, so nothing captures it.
        have changedFree : change name ∉ names := by
          rcases renames.moved name with kept | ⟨-, moved, -⟩
          · rw [kept]
            exact free
          · rw [moved]
            exact fresh
        rw [extension.others _ _ changedFree, extension.others _ _ free]
        exact renames.same name different

theorem Renames.enter (renames : Renames old new change scope other)
    {statements : List Statement} (fresh : new ∉ namesOfStatements statements)
    (inner : String → String) :
    Renames old new
      (sparing (statements.flatMap Statement.blockNames) change)
      (scope.enter statements) (other.enter (renameStatements inner statements)) := by
  have same : other.enter (renameStatements inner statements) =
      other.enter statements := by
    unfold Scope.enter
    rw [blockNames_renameStatements]
  rw [same]
  exact renames.extend (Scope.extends_enter statements)
    fun member => fresh (blockNamesOf_subset statements member)

theorem Renames.enterOne (renames : Renames old new change scope other)
    {statement : Statement} (fresh : new ∉ statement.names)
    (inner : String → String) :
    Renames old new
      (sparing ([statement].flatMap Statement.blockNames) change)
      (scope.enter [statement]) (other.enter [statement.rename inner]) := by
  have freshOfOne : new ∉ namesOfStatements [statement] := by
    rw [namesOfStatements, namesOfStatements, List.append_nil]
    exact fresh
  exact renames.enter freshOfOne inner

theorem Renames.header (renames : Renames old new change scope other)
    {header : LoopHeader} (fresh : new ∉ header.names)
    (inner : String → String) :
    Renames old new (sparing header.boundNames change) (header.declare scope)
      ((header.rename inner).declare other) := by
  have same : (header.rename inner).declare other = header.declare other := by
    cases header <;> rfl
  rw [same, header.declare_eq, header.declare_eq]
  exact renames.extend (.declare _ .variableName)
    fun member => fresh (boundNames_subset_names header member)

theorem Renames.function (renames : Renames old new change scope other)
    {function : FunctionDeclaration}
    (fresh : new ∉ parameterNames function.parameters ++ function.names) :
    Renames old new (sparing function.outerNames change) (function.scope scope)
      ((function.rename change).scope other) := by
  have same : (function.rename change).scope other = function.scope other := by
    unfold FunctionDeclaration.scope FunctionDeclaration.rename
    cases function.body with
    | none => rfl
    | some body => simp only [Option.map_some, functionNamesOf_rename]
  rw [same]
  exact renames.extend function.extends_scope
    fun member => fresh (function.outerNames_subset member)

end

/-! ## Named imports -/

/-- A named import of a helper in a script: the items before and after its
declaration, and the other specifiers there. -/
structure NamedImport where
  before : List Item
  moduleName : String
  earlier : List ImportSpecifier
  exported : String
  later : List ImportSpecifier
  span : Span
  after : List Item
  isHelper : Catalogue.isHelperModule moduleName = true

namespace NamedImport

/-- The items of the script where the import binds the given name. -/
def items (place : NamedImport) (bound : String) : List Item :=
  place.before ++
    .imports
      { moduleName := place.moduleName
        specifiers :=
          place.earlier ++ .named place.exported bound :: place.later
        span := place.span } ::
    place.after

/-- The script where the import binds the name of the export. -/
def script (place : NamedImport) : Module :=
  ⟨place.items place.exported⟩

/-- The names that later specifiers and items bind. -/
def laterNames (place : NamedImport) : List String :=
  place.later.map ImportSpecifier.bound ++ place.after.flatMap Item.boundNames

/-- The change of the names in references to the import. -/
def change (place : NamedImport) (nickname : String) : String → String :=
  sparing place.laterNames fun name =>
    if name = place.exported then nickname else name

/-- The script where the import binds an alias, and all references to it are
renamed. -/
def aliased (place : NamedImport) (nickname : String) : Module :=
  ⟨(place.items nickname).map (Item.rename (place.change nickname))⟩

theorem laterNames_subset (place : NamedImport) :
    place.laterNames ⊆ place.script.names := by
  intro name member
  unfold Module.names NamedImport.script NamedImport.items
  rw [List.flatMap_append, List.flatMap_cons]
  refine List.mem_append_right _ ?_
  rcases List.mem_append.mp member with specified | declared
  · refine List.mem_append_left _ ?_
    obtain ⟨specifier, found, named⟩ := List.mem_map.mp specified
    exact List.mem_map.mpr
      ⟨specifier, List.mem_append_right _ (List.mem_cons_of_mem _ found), named⟩
  · refine List.mem_append_right _ ?_
    obtain ⟨item, found, bound⟩ := List.mem_flatMap.mp declared
    exact List.mem_flatMap.mpr ⟨item, found, item.boundNames_subset bound⟩

theorem otherNames_subset (place : NamedImport) :
    (place.before ++ place.after).flatMap Item.names ⊆ place.script.names := by
  unfold Module.names NamedImport.script NamedImport.items
  rw [List.flatMap_append, List.flatMap_append, List.flatMap_cons]
  exact List.append_subset.mpr
    ⟨List.subset_append_left _ _,
      List.subset_append_of_subset_right _ (List.subset_append_right _ _)⟩

end NamedImport

theorem Item.declare_rename (change : String → String) (scope : Scope)
    (item : Item) : (item.rename change).declare scope = item.declare scope := by
  cases item with
  | statement content =>
      simp only [Item.rename, Item.declare, moduleNames_rename]
  | _ => rfl

theorem declare_renamed_items (change : String → String) (scope : Scope)
    (items : List Item) :
    (items.map (Item.rename change)).foldl Item.declare scope =
      items.foldl Item.declare scope := by
  rw [List.foldl_map]
  simp only [Item.declare_rename]

/-- The scope of the script where the import binds the given name. -/
theorem NamedImport.scope_items (place : NamedImport) (bound : String) :
    (place.items bound).foldl Item.declare [] =
      place.after.foldl Item.declare
        (place.later.foldl
          (fun scope specifier =>
            (specifier.bound, specifier.binding place.moduleName) :: scope)
          ((bound, (ImportSpecifier.named place.exported bound).binding
              place.moduleName) ::
            place.earlier.foldl
              (fun scope specifier =>
                (specifier.bound, specifier.binding place.moduleName) :: scope)
              (place.before.foldl Item.declare []))) := by
  simp only [NamedImport.items, List.foldl_append, List.foldl_cons, Item.declare,
    ImportDeclaration.declare, place.isHelper, if_true]
  rfl

/-- In the script with the alias, changed names stand for what the names stand
for in the other one. -/
theorem NamedImport.renames (place : NamedImport) {nickname : String}
    (fresh : nickname ∉ place.script.names) :
    Renames place.exported nickname (place.change nickname) place.script.scope
      (place.aliased nickname).scope := by
  unfold Module.scope NamedImport.script NamedImport.aliased
  rw [declare_renamed_items, place.scope_items, place.scope_items]
  refine Renames.extend ?_
    ((extends_specifiers place.moduleName place.later).comp
      (.foldl Item.extends_declare place.after))
    fun member => fresh (place.laterNames_subset member)
  constructor
  · intro name
    by_cases same : name = place.exported
    · refine .inr ⟨same, if_pos same, place.moduleName, ?_⟩
      rw [Scope.lookup_cons, if_pos same]
      exact ⟨_, rfl⟩
    · exact .inl (if_neg same)
  · intro name different
    by_cases same : name = place.exported
    · rw [if_pos same, Scope.lookup_cons, Scope.lookup_cons, if_pos rfl,
        if_pos same]
      rfl
    · rw [if_neg same, Scope.lookup_cons, Scope.lookup_cons, if_neg different,
        if_neg same]

end VelocityScript.Script
