import VelocityScript.Proofs.Lowering.Binding
import VelocityScript.Proofs.Lowering.Capture

/-!
# Shadowing

A declaration in an inner scope hides a variable of the same name around it.
Templates have no scopes: a variable is kept under its own name wherever it is
declared.  Only the parameters of a resolver are kept elsewhere, among the
arguments of the request, so these are the variables that an inner declaration
of the same name leaves alone.
-/

namespace VelocityScript.Script

/-! ## Inner scopes -/

/-- The names to which declarations give a value. -/
def givenNames (declared : List Declaration) : List String :=
  declaredNames (declared.filter fun declaration => declaration.initial.isSome)

/-- The names in the own scope of a statement that `let` and `const` declare.
Which names of the declarations count is a parameter. -/
def Statement.ownNames (counted : List Declaration → List String) :
    Statement → List String
  | .declarations keyword declared _ =>
      if keyword = .var then [] else counted declared
  | _ => []

/-- A statement, resolved in a scope, has a scope inside it in which `let`,
`const` or a loop header declares a name. -/
inductive Statement.Declares (counted : List Declaration → List String)
    (name : String) (inner : Scope) : Scope → Statement → Prop
  | block {scope : Scope} {statements : List Statement} {placement : Placement} :
      name ∈ statements.flatMap (Statement.ownNames counted) →
      inner = scope.enter statements →
      Statement.Declares counted name inner scope (.block statements placement)
  | inBlock {scope : Scope} {statements : List Statement} {statement : Statement}
      {placement : Placement} :
      statement ∈ statements →
      Statement.Declares counted name inner (scope.enter statements) statement →
      Statement.Declares counted name inner scope (.block statements placement)
  | consequent {scope : Scope} {condition : Expression} {consequent : Statement}
      {alternative : Option Statement} {placement : Placement} :
      name ∈ consequent.ownNames counted →
      inner = scope.enter [consequent] →
      Statement.Declares counted name inner scope
        (.branch condition consequent alternative placement)
  | inConsequent {scope : Scope} {condition : Expression}
      {consequent : Statement} {alternative : Option Statement}
      {placement : Placement} :
      Statement.Declares counted name inner (scope.enter [consequent])
        consequent →
      Statement.Declares counted name inner scope
        (.branch condition consequent alternative placement)
  | alternative {scope : Scope} {condition : Expression}
      {consequent alternative : Statement} {placement : Placement} :
      name ∈ alternative.ownNames counted →
      inner = scope.enter [alternative] →
      Statement.Declares counted name inner scope
        (.branch condition consequent (some alternative) placement)
  | inAlternative {scope : Scope} {condition : Expression}
      {consequent alternative : Statement} {placement : Placement} :
      Statement.Declares counted name inner (scope.enter [alternative])
        alternative →
      Statement.Declares counted name inner scope
        (.branch condition consequent (some alternative) placement)
  | header {scope : Scope} {header : LoopHeader} {iterable : Expression}
      {body : Statement} {placement : Placement} :
      name ∈ header.boundNames →
      inner = header.declare scope →
      Statement.Declares counted name inner scope
        (.loop header iterable body placement)
  | body {scope : Scope} {header : LoopHeader} {iterable : Expression}
      {body : Statement} {placement : Placement} :
      name ∈ body.ownNames counted →
      inner = (header.declare scope).enter [body] →
      Statement.Declares counted name inner scope
        (.loop header iterable body placement)
  | inBody {scope : Scope} {header : LoopHeader} {iterable : Expression}
      {body : Statement} {placement : Placement} :
      Statement.Declares counted name inner
        ((header.declare scope).enter [body]) body →
      Statement.Declares counted name inner scope
        (.loop header iterable body placement)

/-- A statement, resolved in a scope, has a block inside it whose statements are
resolved in the scope `inside`. -/
inductive Statement.Opens (inside : Scope) (found : List Statement) :
    Scope → Statement → Prop
  | block {scope : Scope} {placement : Placement} :
      inside = scope.enter found →
      Statement.Opens inside found scope (.block found placement)
  | inBlock {scope : Scope} {statements : List Statement} {statement : Statement}
      {placement : Placement} :
      statement ∈ statements →
      Statement.Opens inside found (scope.enter statements) statement →
      Statement.Opens inside found scope (.block statements placement)
  | consequent {scope : Scope} {condition : Expression} {consequent : Statement}
      {alternative : Option Statement} {placement : Placement} :
      Statement.Opens inside found (scope.enter [consequent]) consequent →
      Statement.Opens inside found scope
        (.branch condition consequent alternative placement)
  | alternative {scope : Scope} {condition : Expression}
      {consequent alternative : Statement} {placement : Placement} :
      Statement.Opens inside found (scope.enter [alternative]) alternative →
      Statement.Opens inside found scope
        (.branch condition consequent (some alternative) placement)
  | body {scope : Scope} {header : LoopHeader} {iterable : Expression}
      {body : Statement} {placement : Placement} :
      Statement.Opens inside found ((header.declare scope).enter [body]) body →
      Statement.Opens inside found scope (.loop header iterable body placement)

/-- A function, resolved in a scope, has a block whose statements are resolved in
the scope `inside`: its body, or one inside the body. -/
inductive FunctionDeclaration.Opens (inside : Scope) (found : List Statement)
    (scope : Scope) (function : FunctionDeclaration) : Prop
  | body {span : Span} :
      function.body = some ⟨found, span⟩ →
      inside = (function.scope scope).enter found →
      FunctionDeclaration.Opens inside found scope function
  | inBody {body : Block} {statement : Statement} :
      function.body = some body →
      statement ∈ body.statements →
      statement.Opens inside found ((function.scope scope).enter body.statements) →
      FunctionDeclaration.Opens inside found scope function

/-! ## Names that are not hidden -/

/-- The names in something resolved that are called `name`. -/
def Reach.called (name : String) (reach : Reach) : List Identifier :=
  reach.mentioned.filter fun named => named.name = name

mutual

/-- The names called `name` in a statement, resolved, that no declaration inside
it hides. -/
def Statement.uses (name : String) (scope : Scope) : Statement → List Identifier
  | .block statements _ =>
      if name ∈ statements.flatMap Statement.blockNames then []
      else usesOf name (scope.enter statements) statements
  | .expression evaluated _ => (evaluated.resolve scope).reach.called name
  | .branch condition consequent alternative _ =>
      (condition.resolve scope).reach.called name ++
        (if name ∈ [consequent].flatMap Statement.blockNames then []
          else consequent.uses name (scope.enter [consequent])) ++
        usesOf? name scope alternative
  | .loop header iterable body _ =>
      (iterable.resolve scope).reach.called name ++
        if name ∈ header.boundNames ∨ name ∈ [body].flatMap Statement.blockNames then []
        else body.uses name ((header.declare scope).enter [body])
  | .result returned _ =>
      (reachOfOption (returned.map (Expression.resolve scope))).called name
  | .declarations _ declared _ =>
      (reachOfDeclarations (declared.map (Declaration.resolve scope))).called name
  | .other _ _ => []

def usesOf (name : String) (scope : Scope) : List Statement → List Identifier
  | [] => []
  | statement :: others => statement.uses name scope ++ usesOf name scope others

def usesOf? (name : String) (scope : Scope) : Option Statement → List Identifier
  | none => []
  | some statement =>
      if name ∈ [statement].flatMap Statement.blockNames then []
      else statement.uses name (scope.enter [statement])

end

/-- A use stands for what the scope says, although it may be in a scope inside
it. -/
def UsesBound (name : String) (scope : Scope) (uses : List Identifier) : Prop :=
  ∀ found ∈ uses, found.toVariable = ⟨name, scope.lookup name⟩

theorem usesBound_called {name : String} {scope : Scope} {reach : Reach}
    (bound : reach.BoundIn scope) : UsesBound name scope (reach.called name) := by
  intro found member
  obtain ⟨mentioned, same⟩ := List.mem_filter.mp member
  have named : found.name = name := of_decide_eq_true same
  unfold Identifier.toVariable
  rw [bound found mentioned, named]

theorem UsesBound.append {name : String} {scope : Scope}
    {first second : List Identifier} (firstBound : UsesBound name scope first)
    (secondBound : UsesBound name scope second) :
    UsesBound name scope (first ++ second) := by
  intro found member
  rcases List.mem_append.mp member with earlier | later
  · exact firstBound found earlier
  · exact secondBound found later

theorem UsesBound.nil {name : String} {scope : Scope} : UsesBound name scope [] := by
  intro found member
  cases member

/-- Uses in a scope inside, unless a declaration there hides the name. -/
theorem UsesBound.entered {name : String} {outer inner : Scope}
    {uses : List Identifier} (bound : UsesBound name inner uses)
    (same : inner.lookup name = outer.lookup name) :
    UsesBound name outer uses := by
  intro found member
  rw [bound found member, same]

theorem lookup_declare_header {name : String} {header : LoopHeader}
    (free : name ∉ header.boundNames) (scope : Scope) :
    (header.declare scope).lookup name = scope.lookup name := by
  rw [header.declare_eq]
  exact Scope.lookup_declare_of_not_mem free scope

mutual

theorem usesBound_uses (name : String) :
    ∀ (scope : Scope) (statement : Statement),
      UsesBound name scope (statement.uses name scope)
  | scope, .block statements _ => by
      rw [Statement.uses]
      split
      · exact .nil
      · next free =>
          exact (usesBound_usesOf name _ statements).entered
            (Scope.lookup_enter_of_not_mem free scope)
  | scope, .expression evaluated _ => usesBound_called (boundIn_resolve evaluated)
  | scope, .branch condition consequent alternative _ => by
      rw [Statement.uses]
      refine UsesBound.append (.append ?_ ?_) (usesBound_usesOf? name scope alternative)
      · exact usesBound_called (boundIn_resolve condition)
      · split
        · exact .nil
        · next free =>
            exact (usesBound_uses name _ consequent).entered
              (Scope.lookup_enter_of_not_mem free scope)
  | scope, .loop header iterable body _ => by
      rw [Statement.uses]
      refine UsesBound.append (usesBound_called (boundIn_resolve iterable)) ?_
      split
      · exact .nil
      · next free =>
          obtain ⟨freeHeader, freeBody⟩ := not_or.mp free
          refine (usesBound_uses name _ body).entered ?_
          rw [Scope.lookup_enter_of_not_mem freeBody,
            lookup_declare_header freeHeader]
  | scope, .result returned _ => usesBound_called (boundIn_resolve_option returned)
  | scope, .declarations _ declared _ =>
      usesBound_called (boundIn_resolveDeclarations declared)
  | scope, .other _ _ => .nil

theorem usesBound_usesOf (name : String) :
    ∀ (scope : Scope) (statements : List Statement),
      UsesBound name scope (usesOf name scope statements)
  | _, [] => .nil
  | scope, statement :: others =>
      (usesBound_uses name scope statement).append
        (usesBound_usesOf name scope others)

theorem usesBound_usesOf? (name : String) :
    ∀ (scope : Scope) (alternative : Option Statement),
      UsesBound name scope (usesOf? name scope alternative)
  | _, none => .nil
  | scope, some statement => by
      rw [usesOf?]
      split
      · exact .nil
      · next free =>
          exact (usesBound_uses name _ statement).entered
            (Scope.lookup_enter_of_not_mem free scope)

end

/-! ## What the lowering reaches of it -/

theorem called_subset (name : String) (reach : Reach) :
    reach.called name ⊆ reach.mentioned :=
  fun _ member => (List.mem_filter.mp member).1

theorem append_subset_append {Item : Type} {first second : List Item}
    {wider further : List Item} (firstInside : first ⊆ wider)
    (secondInside : second ⊆ further) : first ++ second ⊆ wider ++ further :=
  List.append_subset.mpr
    ⟨List.subset_append_of_subset_left _ firstInside,
      List.subset_append_of_subset_right _ secondInside⟩

mutual

theorem uses_subset (name : String) :
    ∀ (scope : Scope) (statement : Statement),
      statement.uses name scope ⊆ (statement.resolve scope).reach.mentioned
  | scope, .block statements _ => by
      rw [Statement.uses]
      split
      · exact List.nil_subset _
      · exact usesOf_subset name _ statements
  | scope, .expression evaluated _ => called_subset name _
  | scope, .branch condition consequent alternative _ => by
      rw [Statement.uses]
      refine append_subset_append (append_subset_append ?_ ?_)
        (usesOf?_subset name scope alternative)
      · exact called_subset name _
      · split
        · exact List.nil_subset _
        · exact uses_subset name _ consequent
  | scope, .loop header iterable body _ => by
      rw [Statement.uses]
      refine append_subset_append (called_subset name _) ?_
      split
      · exact List.nil_subset _
      · exact uses_subset name _ body
  | scope, .result returned _ => called_subset name _
  | scope, .declarations _ declared _ => called_subset name _
  | scope, .other _ _ => List.nil_subset _

theorem usesOf_subset (name : String) :
    ∀ (scope : Scope) (statements : List Statement),
      usesOf name scope statements ⊆
        (reachOfStatements (resolveStatements scope statements)).mentioned
  | _, [] => List.nil_subset _
  | scope, statement :: others =>
      append_subset_append (uses_subset name scope statement)
        (usesOf_subset name scope others)

theorem usesOf?_subset (name : String) :
    ∀ (scope : Scope) (alternative : Option Statement),
      usesOf? name scope alternative ⊆
        (reachOfAlternative (resolveAlternative scope alternative)).mentioned
  | _, none => List.nil_subset _
  | scope, some statement => by
      rw [usesOf?]
      split
      · exact List.nil_subset _
      · exact uses_subset name _ statement

end

theorem within_reachOfStatements {statement : Statement}
    {statements : List Statement} (member : statement ∈ statements)
    (scope : Scope) :
    (statement.resolve scope).reach.Within
      (reachOfStatements (resolveStatements scope statements)) := by
  induction statements with
  | nil => cases member
  | cons first others inductionHypothesis =>
      rcases List.mem_cons.mp member with rfl | later
      · exact .inLeft _ _
      · exact (inductionHypothesis later).trans (.inRight _ _)

theorem Statement.Opens.within {inside scope : Scope} {found : List Statement}
    {statement : Statement} (opened : statement.Opens inside found scope) :
    (reachOfStatements (resolveStatements inside found)).Within
      (statement.resolve scope).reach := by
  induction opened with
  | block entered =>
      subst entered
      exact .refl _
  | inBlock member _ inductionHypothesis =>
      exact inductionHypothesis.trans (within_reachOfStatements member _)
  | consequent _ inductionHypothesis =>
      exact (inductionHypothesis.trans (.inRight _ _)).trans (.inLeft _ _)
  | alternative _ inductionHypothesis =>
      exact inductionHypothesis.trans (.inRight _ _)
  | body _ inductionHypothesis => exact inductionHypothesis.trans (.inRight _ _)

theorem FunctionDeclaration.Opens.within {inside scope : Scope}
    {found : List Statement} {function : FunctionDeclaration}
    (opened : function.Opens inside found scope) :
    (reachOfStatements (resolveStatements inside found)).Within
      (function.resolve scope).reach := by
  cases opened with
  | body bodied entered =>
      subst entered
      simp only [FunctionDeclaration.reach, FunctionDeclaration.resolve, bodied]
      exact .refl _
  | inBody bodied member opened =>
      simp only [FunctionDeclaration.reach, FunctionDeclaration.resolve, bodied]
      exact opened.within.trans (within_reachOfStatements member _)

mutual

theorem names_resolve_pattern (scope : Scope) :
    ∀ pattern : BindingName,
      (pattern.resolve scope).identifiers.map Identifier.name = pattern.names
  | .identifier _ => rfl
  | .array elements _ => names_resolveElements scope elements
  | .object properties _ => names_resolvePatterns scope properties

theorem names_resolveElements (scope : Scope) :
    ∀ elements : List BindingElement,
      (elementIdentifiers (resolveElements scope elements)).map Identifier.name =
        elementNames elements
  | [] => rfl
  | .hole :: others => names_resolveElements scope others
  | .bound name :: others => by
      have here := names_resolve_pattern scope name
      have there := names_resolveElements scope others
      simp only [resolveElements, elementIdentifiers, elementNames,
        List.map_append, here, there]

theorem names_resolvePatterns (scope : Scope) :
    ∀ patterns : List BindingName,
      (patternIdentifiers (resolvePatterns scope patterns)).map Identifier.name =
        patternNames patterns
  | [] => rfl
  | name :: others => by
      have here := names_resolve_pattern scope name
      have there := names_resolvePatterns scope others
      simp only [resolvePatterns, patternIdentifiers, patternNames,
        List.map_append, here, there]

end

/-- The names that are given a value. -/
def Reach.givenNames (reach : Reach) : List String :=
  reach.declared.map Identifier.name

theorem Reach.Within.givenNames {reach whole : Reach}
    (within : reach.Within whole) : reach.givenNames ⊆ whole.givenNames :=
  List.map_subset _ within.declared

theorem givenNames_subset (scope : Scope) (declared : List Declaration) :
    givenNames declared ⊆
      (reachOfDeclarations
        (declared.map (Declaration.resolve scope))).givenNames := by
  induction declared with
  | nil => exact List.nil_subset _
  | cons declaration others inductionHypothesis =>
      have later := List.Subset.trans inductionHypothesis
        (Reach.Within.inRight (declaration.resolve scope).reach _).givenNames
      unfold Script.givenNames declaredNames at later ⊢
      rw [List.filter_cons]
      split
      · next valued =>
          obtain ⟨initial, present⟩ := Option.isSome_iff_exists.mp valued
          rw [List.flatMap_cons]
          refine List.append_subset.mpr ⟨fun name member => ?_, later⟩
          refine (Reach.Within.inLeft _ _).givenNames ?_
          simp only [Declaration.reach, Declaration.resolve, present]
          refine (Reach.Within.inLeft _ _).givenNames ?_
          unfold Reach.givenNames
          rw [names_resolve_pattern]
          exact member
      · exact later

theorem ownNames_subset (scope : Scope) (statement : Statement) :
    statement.ownNames givenNames ⊆ (statement.resolve scope).reach.givenNames := by
  cases statement with
  | declarations keyword declared placement =>
      simp only [Statement.ownNames]
      split
      · exact List.nil_subset _
      · exact givenNames_subset scope declared
  | _ => exact List.nil_subset _

theorem boundNames_subset (scope : Scope) (header : LoopHeader) :
    header.boundNames ⊆
      (header.resolve scope).identifiers.map Identifier.name := by
  cases header with
  | declaration declared =>
      have same := names_resolve_pattern scope declared.name
      exact fun name member => same.symm ▸ member
  | expression assigned => exact List.nil_subset _

/-- A declaration that gives a name a value is reached. -/
theorem Statement.Declares.given {name : String} {inner scope : Scope}
    {statement : Statement}
    (declares : statement.Declares givenNames name inner scope) :
    name ∈ (statement.resolve scope).reach.givenNames := by
  induction declares with
  | block own _ =>
      obtain ⟨statement, member, named⟩ := List.mem_flatMap.mp own
      exact (within_reachOfStatements member _).givenNames
        (ownNames_subset _ statement named)
  | inBlock member _ inductionHypothesis =>
      exact (within_reachOfStatements member _).givenNames inductionHypothesis
  | consequent own _ =>
      refine ((Reach.Within.inRight _ _).trans (.inLeft _ _)).givenNames ?_
      exact ownNames_subset _ _ own
  | inConsequent _ inductionHypothesis =>
      refine ((Reach.Within.inRight _ _).trans (.inLeft _ _)).givenNames ?_
      exact inductionHypothesis
  | alternative own _ =>
      refine (Reach.Within.inRight _ _).givenNames ?_
      exact ownNames_subset _ _ own
  | inAlternative _ inductionHypothesis =>
      refine (Reach.Within.inRight _ _).givenNames ?_
      exact inductionHypothesis
  | header bound _ =>
      refine ((Reach.Within.inLeft _ _).trans (.inLeft _ _)).givenNames ?_
      exact boundNames_subset _ _ bound
  | body own _ =>
      refine (Reach.Within.inRight _ _).givenNames ?_
      exact ownNames_subset _ _ own
  | inBody _ inductionHypothesis =>
      refine (Reach.Within.inRight _ _).givenNames ?_
      exact inductionHypothesis

theorem mem_blockNames_of_own {name : String} {statement : Statement}
    (own : name ∈ statement.ownNames declaredNames) :
    name ∈ [statement].flatMap Statement.blockNames := by
  rw [List.flatMap_cons, List.flatMap_nil, List.append_nil]
  cases statement <;> exact own

/-- A name stands for a variable in the scope that declares it. -/
theorem Statement.Declares.lookup_eq {name : String} {inner scope : Scope}
    {statement : Statement}
    (declares : statement.Declares declaredNames name inner scope) :
    inner.lookup name = .variableName := by
  induction declares with
  | block own entered =>
      subst entered
      obtain ⟨statement, member, named⟩ := List.mem_flatMap.mp own
      refine Scope.lookup_declare_of_mem (List.mem_flatMap.mpr ?_) _
      refine ⟨statement, member, ?_⟩
      cases statement <;> exact named
  | consequent own entered | alternative own entered | body own entered =>
      subst entered
      exact Scope.lookup_declare_of_mem (mem_blockNames_of_own own) _
  | @header _ header _ _ _ bound entered =>
      subst entered
      cases header with
      | declaration declared => exact Scope.lookup_declare_of_mem bound _
      | expression assigned => cases bound
  | inBlock _ _ inductionHypothesis => exact inductionHypothesis
  | inConsequent _ inductionHypothesis | inAlternative _ inductionHypothesis
  | inBody _ inductionHypothesis => exact inductionHypothesis

end VelocityScript.Script

namespace VelocityScript.Lowering

open Script
open Template (Interpretation Store)

/-- Every name that is given a value is set. -/
def Sets (reach : Reach) (found : List String) : Prop :=
  ∀ named ∈ reach.declared, bareName named.name ∈ found

namespace Sets

variable {reach before after : Reach} {found other earlier later : List String}

theorem nothing (silent : reach.declared = []) : Sets reach found := by
  intro named declared
  rw [silent] at declared
  cases declared

theorem mono (sets : Sets reach found) (wider : found ⊆ other) :
    Sets reach other :=
  fun named declared => wider (sets named declared)

theorem append (first : Sets before earlier) (second : Sets after later) :
    Sets (before ++ after) (earlier ++ later) := by
  intro named declared
  rcases List.mem_append.mp declared with here | there
  · exact List.mem_append_left _ (first named here)
  · exact List.mem_append_right _ (second named there)

theorem afterExpression (source : Expression) (sets : Sets reach found) :
    Sets (source.reach ++ reach) found := by
  intro named declared
  rw [Reach.append_declared, declared_reach, List.nil_append] at declared
  exact sets named declared

theorem beforeExpression (source : Expression) (sets : Sets reach found) :
    Sets (reach ++ source.reach) found := by
  intro named declared
  rw [Reach.append_declared, declared_reach, List.append_nil] at declared
  exact sets named declared

/-- Elements with others in front. -/
theorem preceded {elements others : List Template.Element}
    (sets : Sets reach (Template.visitElements .targets elements)) :
    Sets reach (Template.visitElements .targets (others ++ elements)) := by
  rw [Template.visitElements_append]
  exact sets.mono (List.subset_append_right _ _)

end Sets

/-- A declaration that gives a name a value sets it in the template. -/
theorem Yields.sets {target : Target} {passage : Passage} {first next : Nat}
    {result : passage.Result} {effect : Effect}
    (yielded : Yields target passage first result next effect) :
    Sets passage.reach (passage.visit .targets result) := by
  induction yielded with
  | assignment derived => exact .nothing (declared_reach _)
  | standalone alone derived referred => exact .nothing (declared_reach _)
  | noResult => exact .nothing rfl
  | result derived => exact .nothing (declared_reach _)
  | uninitialised absent =>
      refine .nothing ?_
      simp only [Passage.reach, Declaration.reach, absent]
      rfl
  | initialised named valued place derived =>
      obtain ⟨-, rfl, rfl, rfl⟩ := place.name_inversion
      refine Sets.preceded ?_
      intro found declared
      simp only [Passage.reach, Declaration.reach, named, valued,
        Reach.append_declared, declared_reach, List.append_nil] at declared
      rw [List.mem_singleton.mp declared]
      exact List.mem_cons_self
  | noDeclarations => exact .nothing rfl
  | moreDeclarations declaration others declarationSets othersSet =>
      simp only [Passage.visit, Template.visitElements_append]
      exact declarationSets.append othersSet
  | item derived =>
      obtain ⟨-, rfl, rfl, rfl⟩ := derived.name_inversion
      intro found declared
      rw [List.mem_singleton.mp declared]
      exact List.mem_cons_self
  | entry named keyDerived valueDerived =>
      obtain ⟨-, rfl, rfl, rfl⟩ := keyDerived.name_inversion
      obtain ⟨-, rfl, rfl, rfl⟩ := valueDerived.name_inversion
      intro found declared
      simp only [Passage.reach, identifiers_of_entryNames? named, List.mem_cons,
        List.not_mem_nil, or_false] at declared
      rcases declared with rfl | rfl
      · exact List.mem_cons_of_mem _ List.mem_cons_self
      · exact List.mem_cons_of_mem _ (List.mem_cons_of_mem _ List.mem_cons_self)
  | branch condition consequent alternative consequentSets restSets =>
      refine ((consequentSets.afterExpression _).append restSets).mono
        fun name member => ?_
      simp only [Passage.visit, Template.Clause.visit, Template.Block.visit,
        List.mem_append] at member ⊢
      grind
  | noAlternative => exact .nothing rfl
  | chained parts partsSet => exact partsSet
  | otherwise notBranch statement statementSets => exact statementSets
  | block statements statementsSet => exact statementsSet.preceded
  | evaluation evaluated evaluatedSets => exact evaluatedSets.preceded
  | branching parts partsSet =>
      refine Sets.preceded ?_
      rw [Template.visitElements_singleton]
      exact partsSet
  | looping pattern iterable body patternSets bodySets =>
      refine Sets.preceded ?_
      rw [Template.visitElements_singleton]
      refine ((patternSets.beforeExpression _).append bodySets).mono
        fun name member => ?_
      simp only [Passage.visit, Template.Element.visit, Template.Block.visit,
        Template.visitElements_append, List.mem_append] at member ⊢
      grind
  | returning returned returnedSets => exact returnedSets.preceded
  | declaring declared declaredSet => exact declaredSet.preceded
  | noStatements => exact .nothing rfl
  | moreStatements statement others statementSets othersSet =>
      simp only [Passage.visit, Template.visitElements_append]
      exact statementSets.append othersSet

theorem FunctionYields.sets {target : Target} {function : FunctionDeclaration}
    {file : Template.File} (yielded : FunctionYields target function file) :
    Sets function.reach (file.visit .targets) := by
  cases yielded with
  | body complaint bodied statements =>
      simp only [FunctionDeclaration.reach, bodied]
      exact statements.sets.preceded

/-! ## Places -/

theorem location_of_variable (target : Target) (name : String) :
    location target ⟨name, .variableName⟩ = .plain (bareName name) := by
  rw [location, if_neg]
  rintro ⟨-, parameter⟩
  cases parameter

/-- A variable of the same name is kept apart from what it hides exactly where
that is a parameter of a resolver, and is not called like the request itself. -/
theorem isApart_hiding_iff {target : Target} {name : String} {binding : Binding} :
    (location target ⟨name, .variableName⟩).isApart
        (location target ⟨name, binding⟩) = true ↔
      target = .appsync ∧ binding = .parameter ∧ bareName name ≠ "ctx" := by
  rw [location_of_variable]
  by_cases argument : target = .appsync ∧ binding = .parameter
  · obtain ⟨rfl, rfl⟩ := argument
    have kept : location .appsync ⟨name, .parameter⟩ =
        .argument (bareName name) := rfl
    rw [kept]
    simp [Location.isApart, Location.root]
  · rw [location, if_neg argument]
    simp only [Location.isApart, bne_self_eq_false, Bool.false_eq_true, false_iff]
    rintro ⟨resolver, parameter, -⟩
    exact argument ⟨resolver, parameter⟩

/-- A name declared in an inner scope and the one around it are kept apart in the
template exactly where the outer one is a parameter of a resolver (and not called
like the request).  Then what is assigned to the inner one never shows in the
outer one; and where both are kept in one place it always does. -/
theorem inner_declaration_spares_outer_iff {target : Target}
    {scope inside inner : Scope} {function : FunctionDeclaration}
    {statements : List Statement} {statement : Statement} {name : String}
    (silent : (lowerFunction target (function.resolve scope)).2 = [])
    (opened : function.Opens inside statements scope)
    (member : statement ∈ statements)
    (declares : statement.Declares declaredNames name inner inside) :
    ∃ file, (lowerFunction target (function.resolve scope)).1 = some file ∧
      let innerPlace := location target ⟨name, inner.lookup name⟩
      let outerPlace := location target ⟨name, inside.lookup name⟩
      (statement.Declares givenNames name inner inside →
        innerPlace.root ∈ file.visit .targets) ∧
      (∀ found ∈ usesOf name inside statements,
        location target found.toVariable = outerPlace ∧
          outerPlace.root ∈ file.visit .variables) ∧
      (innerPlace.isApart outerPlace = true ↔
        target = .appsync ∧ inside.lookup name = .parameter ∧
          bareName name ≠ "ctx") ∧
      ∀ (Datum : Type) (interpretation : Interpretation Datum),
        LawfulProperties interpretation → ∀ (store : Store Datum) (datum : Datum),
          (innerPlace.isApart outerPlace = true →
            outerPlace.read interpretation
                (innerPlace.write interpretation store datum) =
              outerPlace.read interpretation store) ∧
          (innerPlace = outerPlace →
            outerPlace.read interpretation
                (innerPlace.write interpretation store datum) =
              datum) := by
  obtain ⟨file, lowered, yielded⟩ := functionYields_of_reports_eq_nil silent
  have declared : inner.lookup name = .variableName := declares.lookup_eq
  have within := opened.within
  refine ⟨file, lowered, fun given => ?_, fun found used => ?_, ?_,
    fun Datum interpretation lawful store datum => ⟨fun apart => ?_, fun same => ?_⟩⟩
  · have reached := within.givenNames
      ((within_reachOfStatements member inside).givenNames given.given)
    obtain ⟨named, inFunction, rfl⟩ := List.mem_map.mp reached
    rw [declared, location_of_variable]
    exact yielded.sets named inFunction
  · have bound := usesBound_usesOf name inside statements found used
    have mentioned := within.mentioned (usesOf_subset name inside statements used)
    rw [← bound]
    exact ⟨rfl, yielded.leavesBehind.mentioned mentioned⟩
  · rw [declared]
    exact isApart_hiding_iff
  · exact Location.read_write_of_isApart lawful store datum apart
  · rw [same]
    exact Location.read_write_self lawful store datum _

/-- A variable of an inner block has the name of a parameter, which is returned
after the block. -/
theorem inner_declaration_spares_outer_iff_parameter :
    let span : Span := ⟨0, 0⟩
    let placement : Placement := ⟨span, 0⟩
    let named : Identifier := ⟨"a", span, .unresolved⟩
    let inner := Statement.declarations .let
      [⟨.identifier named, some (.number "2" span), span⟩] placement
    let statements : List Statement :=
      [.block [inner] placement, .result (some (.identifier named)) placement]
    let function : FunctionDeclaration :=
      { name := none
        modifiers := [.exported]
        parameters := [⟨.identifier named, false, span⟩]
        body := some ⟨statements, span⟩
        isGenerator := false
        span }
    let inside := (function.scope []).enter statements
    (lowerFunction .appsync (function.resolve [])).2 = [] ∧
      inside.lookup "a" = .parameter ∧
      ∃ file, (lowerFunction .appsync (function.resolve [])).1 = some file ∧
        "a" ∈ file.visit .targets ∧ "ctx" ∈ file.visit .variables ∧
        (location .appsync ⟨"a", .variableName⟩).isApart
          (location .appsync ⟨"a", .parameter⟩) = true := by
  intro span placement named inner statements function inside
  have silent : (lowerFunction .appsync (function.resolve [])).2 = [] := by
    decide +kernel
  have opened : function.Opens inside statements [] := .body rfl rfl
  have declares : ∀ counted : List Declaration → List String,
      "a" ∈ inner.ownNames counted →
        (Statement.block [inner] placement).Declares counted "a"
          (inside.enter [inner]) inside := by
    intro counted own
    refine .block (List.mem_flatMap.mpr ⟨inner, List.mem_singleton.mpr rfl, own⟩) rfl
  obtain ⟨file, lowered, sets, reads, apart, -⟩ :=
    inner_declaration_spares_outer_iff silent opened List.mem_cons_self
      (declares declaredNames (by decide))
  have used : ⟨"a", span, .parameter⟩ ∈ usesOf "a" inside statements := by
    decide +kernel
  have given := sets (declares givenNames (by decide))
  have innerRoot : (location .appsync
      ⟨"a", (inside.enter [inner]).lookup "a"⟩).root = "a" := by
    decide +kernel
  rw [innerRoot] at given
  exact ⟨silent, rfl, file, lowered, given, (reads _ used).2,
    apart.mpr ⟨rfl, rfl, by decide⟩⟩

/-- The variable of an inner block is set under the name of the one around it,
which is read after the block. -/
theorem inner_declaration_overwrites_outer :
    let source : SourceText :=
      ⟨"shadowing.ts",
        "export function f() \x7b let a = 1; \x7b let a = 2; \x7d return a; \x7d"⟩
    (transpile .apigateway source).isClean = true ∧
      (∃ file ∈ (transpile .apigateway source).files,
        file.visit .targets = ["a", "a"] ∧ file.visit .reads = ["a"] ∧
          file.render {} =
            "## Function: f\n#set($a = 1)\n#set($a = 2)\n$a") ∧
      (location .apigateway ⟨"a", .variableName⟩).isApart
        (location .apigateway ⟨"a", .variableName⟩) = false := by
  decide +kernel

end VelocityScript.Lowering
