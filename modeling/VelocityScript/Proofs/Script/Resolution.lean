import Mathlib.Data.List.Forall2
import VelocityScript.Proofs.Script.Declaring

/-!
# Resolution is lexical scoping

What a name in a function stands for can be read off the constructs around it.
The innermost of them decides, then the declarations of the function, then its
parameters, and at last the module.  Resolving a module gives every name in its
functions just this meaning.
-/

namespace VelocityScript.Script

/-! ## What stands around a name -/

/-- A construct around a name that can declare names for it: a block, a branch or
a loop body that is a single statement, and the header of a loop for the body. -/
inductive Enclosure where
  | block (statements : List Statement)
  | limb (statement : Statement)
  | header (opening : LoopHeader)

/-- A construct declares a name for what stands in it. -/
def Enclosure.Declares (name : String) : Enclosure → Prop
  | .block statements =>
      ∃ statement ∈ statements, statement.DeclaresInBlock name
  | .limb statement => statement.DeclaresInBlock name
  | .header opening => opening.Declares name

/-- A name in a function, with the constructs around it, the innermost first. -/
structure Occurrence where
  identifier : Identifier
  around : List Enclosure

mutual

/-- The names that an expression refers to, in source order: its identifiers and
its shorthand properties, at whatever depth. -/
def Expression.references : Expression → List Identifier
  | .identifier named => [named]
  | .receiver _ => []
  | .number _ _ => []
  | .string _ _ => []
  | .boolean _ _ => []
  | .template _ parts _ => referencesOfParts parts
  | .array elements _ => referencesOfAll elements
  | .object members _ => referencesOfMembers members
  | .parenthesized inner _ => inner.references
  | .unary _ operand _ => operand.references
  | .binary _ left right _ => left.references ++ right.references
  | .assignment _ place value _ => place.references ++ value.references
  | .member object _ _ _ => object.references
  | .index object subscript _ => object.references ++ subscript.references
  | .call callee arguments _ _ => callee.references ++ referencesOfAll arguments
  | .other _ _ => []

def referencesOfAll : List Expression → List Identifier
  | [] => []
  | source :: others => source.references ++ referencesOfAll others

def referencesOfParts : List TemplatePart → List Identifier
  | [] => []
  | .mk source _ :: others => source.references ++ referencesOfParts others

def PropertyName.references : PropertyName → List Identifier
  | .identifier _ => []
  | .string _ _ => []
  | .number _ _ => []
  | .computed source _ => source.references
  | .privateName _ _ => []

def referencesOfMembers : List ObjectMember → List Identifier
  | [] => []
  | .shorthand named :: others => named :: referencesOfMembers others
  | .property name value _ :: others =>
      name.references ++ value.references ++ referencesOfMembers others
  | .other _ _ :: others => referencesOfMembers others

end

/-- The names that an expression between the given constructs refers to. -/
def Expression.occurrences (around : List Enclosure) (source : Expression) :
    List Occurrence :=
  source.references.map fun named => ⟨named, around⟩

def occurrencesOfOption (around : List Enclosure) :
    Option Expression → List Occurrence
  | none => []
  | some source => source.occurrences around

def occurrencesOfDeclarations (around : List Enclosure)
    (declared : List Declaration) : List Occurrence :=
  declared.flatMap fun declaration =>
    occurrencesOfOption around declaration.initial

/-- The names in a loop header that is no declaration.  The grammar gives a
declaration there no initial value. -/
def LoopHeader.occurrences (around : List Enclosure) :
    LoopHeader → List Occurrence
  | .declaration _ => []
  | .expression assigned => assigned.occurrences around

mutual

/-- The names in a statement between the given constructs, in source order. -/
def Statement.occurrences (around : List Enclosure) :
    Statement → List Occurrence
  | .block statements _ =>
      occurrencesOfStatements (.block statements :: around) statements
  | .expression evaluated _ => evaluated.occurrences around
  | .branch condition consequent alternative _ =>
      condition.occurrences around ++
        consequent.occurrences (.limb consequent :: around) ++
          occurrencesOfAlternative around alternative
  | .loop header iterable body _ =>
      header.occurrences around ++ iterable.occurrences around ++
        body.occurrences (.limb body :: .header header :: around)
  | .result returned _ => occurrencesOfOption around returned
  | .declarations _ declared _ => occurrencesOfDeclarations around declared
  | .other _ _ => []

def occurrencesOfStatements (around : List Enclosure) :
    List Statement → List Occurrence
  | [] => []
  | statement :: others =>
      statement.occurrences around ++ occurrencesOfStatements around others

def occurrencesOfAlternative (around : List Enclosure) :
    Option Statement → List Occurrence
  | none => []
  | some statement => statement.occurrences (.limb statement :: around)

end

/-- The names in a function.  Its body is the outermost construct around them. -/
def FunctionDeclaration.occurrences (function : FunctionDeclaration) :
    List Occurrence :=
  match function.body with
  | none => []
  | some body =>
      occurrencesOfStatements [.block body.statements] body.statements

/-! ## The rule -/

/-- What a name between some constructs of a function of a module stands for: the
first of these that declares it decides. -/
inductive StandsFor (script : Module) (function : FunctionDeclaration)
    (around : List Enclosure) (name : String) : Binding → Prop
  | enclosed :
      (∃ enclosure ∈ around, enclosure.Declares name) →
      StandsFor script function around name .variableName
  | functionVariable :
      (¬ ∃ enclosure ∈ around, enclosure.Declares name) →
      function.DeclaresVariable name →
      StandsFor script function around name .variableName
  | parameter :
      (¬ ∃ enclosure ∈ around, enclosure.Declares name) →
      ¬ function.DeclaresVariable name →
      function.HasParameter name →
      StandsFor script function around name .parameter
  | given {binding : Binding} :
      (¬ ∃ enclosure ∈ around, enclosure.Declares name) →
      ¬ function.DeclaresVariable name →
      ¬ function.HasParameter name →
      script.Gives name binding →
      StandsFor script function around name binding
  | unresolved :
      (¬ ∃ enclosure ∈ around, enclosure.Declares name) →
      ¬ function.DeclaresVariable name →
      ¬ function.HasParameter name →
      (∀ binding, ¬ script.Gives name binding) →
      StandsFor script function around name .unresolved

/-- The scope inside a construct. -/
def Enclosure.enter (scope : Scope) : Enclosure → Scope
  | .block statements => scope.enter statements
  | .limb statement => scope.enter [statement]
  | .header opening => opening.declare scope

/-- The scope inside all of some constructs, the outermost last. -/
def Scope.enclosed (scope : Scope) : List Enclosure → Scope
  | [] => scope
  | enclosure :: around => enclosure.enter (scope.enclosed around)

section Lookup

variable {name : String}

theorem mem_boundNames_iff {header : LoopHeader} :
    name ∈ header.boundNames ↔ header.Declares name := by
  cases header with
  | declaration declared => exact mem_names_iff
  | expression assigned => simp [LoopHeader.boundNames, LoopHeader.Declares]

/-- A construct adds declarations of the names that it declares. -/
theorem Enclosure.exists_names (enclosure : Enclosure) :
    ∃ names, (∀ scope, enclosure.enter scope = scope.declare names .variableName) ∧
      ∀ name, name ∈ names ↔ enclosure.Declares name := by
  cases enclosure with
  | block statements =>
      refine ⟨statements.flatMap Statement.blockNames, fun _ => rfl, fun name => ?_⟩
      simp only [List.mem_flatMap, mem_blockNames_iff, Enclosure.Declares]
  | limb statement =>
      refine ⟨[statement].flatMap Statement.blockNames, fun _ => rfl, fun name => ?_⟩
      simp [mem_blockNames_iff, Enclosure.Declares]
  | header opening =>
      exact ⟨_, fun scope => opening.declare_eq scope, fun _ => mem_boundNames_iff⟩

theorem Enclosure.lookup_of_declares {enclosure : Enclosure}
    (declares : enclosure.Declares name) (scope : Scope) :
    (enclosure.enter scope).lookup name = .variableName := by
  obtain ⟨names, entered, declared⟩ := enclosure.exists_names
  rw [entered]
  exact Scope.lookup_declare_of_mem ((declared name).mpr declares) scope

theorem Enclosure.lookup_of_not_declares {enclosure : Enclosure}
    (silent : ¬ enclosure.Declares name) (scope : Scope) :
    (enclosure.enter scope).lookup name = scope.lookup name := by
  obtain ⟨names, entered, declared⟩ := enclosure.exists_names
  rw [entered]
  apply Scope.lookup_declare_of_not_mem
  intro member
  exact silent ((declared name).mp member)

theorem Scope.lookup_enclosed_of_declares {around : List Enclosure}
    (declares : ∃ enclosure ∈ around, enclosure.Declares name) (scope : Scope) :
    (scope.enclosed around).lookup name = .variableName := by
  induction around with
  | nil => simp at declares
  | cons enclosure outer inductionHypothesis =>
      rw [Scope.enclosed]
      by_cases here : enclosure.Declares name
      · exact enclosure.lookup_of_declares here _
      · rw [enclosure.lookup_of_not_declares here]
        apply inductionHypothesis
        simpa [here] using declares

theorem Scope.lookup_enclosed_of_not_declares {around : List Enclosure}
    (silent : ¬ ∃ enclosure ∈ around, enclosure.Declares name) (scope : Scope) :
    (scope.enclosed around).lookup name = scope.lookup name := by
  induction around with
  | nil => rfl
  | cons enclosure outer inductionHypothesis =>
      have here : ¬ enclosure.Declares name :=
        fun declares => silent ⟨enclosure, List.mem_cons_self, declares⟩
      rw [Scope.enclosed, enclosure.lookup_of_not_declares here]
      apply inductionHypothesis
      rintro ⟨other, member, declares⟩
      exact silent ⟨other, List.mem_cons_of_mem _ member, declares⟩

/-- The scope around a name. -/
def FunctionDeclaration.scopeAround (function : FunctionDeclaration)
    (script : Module) (around : List Enclosure) : Scope :=
  (function.scope script.scope).enclosed around

variable {script : Module} {function : FunctionDeclaration}
variable {around : List Enclosure}

theorem StandsFor.lookup_eq {binding : Binding}
    (stands : StandsFor script function around name binding) :
    (function.scopeAround script around).lookup name = binding := by
  unfold FunctionDeclaration.scopeAround
  cases stands with
  | enclosed declares => exact Scope.lookup_enclosed_of_declares declares _
  | functionVariable silent declares =>
      rw [Scope.lookup_enclosed_of_not_declares silent,
        lookup_of_declaresVariable _ declares]
  | parameter silent noVariable parameter =>
      rw [Scope.lookup_enclosed_of_not_declares silent,
        lookup_of_hasParameter _ noVariable parameter]
  | given silent noVariable noParameter gives =>
      rw [Scope.lookup_enclosed_of_not_declares silent,
        lookup_outside_function _ noVariable noParameter, gives.lookup_eq]
  | unresolved silent noVariable noParameter none =>
      rw [Scope.lookup_enclosed_of_not_declares silent,
        lookup_outside_function _ noVariable noParameter,
        Module.lookup_of_silent none]

theorem exists_standsFor (script : Module) (function : FunctionDeclaration)
    (around : List Enclosure) (name : String) :
    ∃ binding, StandsFor script function around name binding := by
  by_cases enclosed : ∃ enclosure ∈ around, enclosure.Declares name
  · exact ⟨_, .enclosed enclosed⟩
  · by_cases hoisted : function.DeclaresVariable name
    · exact ⟨_, .functionVariable enclosed hoisted⟩
    · by_cases parameter : function.HasParameter name
      · exact ⟨_, .parameter enclosed hoisted parameter⟩
      · by_cases given : ∃ binding, script.Gives name binding
        · obtain ⟨binding, gives⟩ := given
          exact ⟨binding, .given enclosed hoisted parameter gives⟩
        · exact ⟨_, .unresolved enclosed hoisted parameter (not_exists.mp given)⟩

/-- Looking a name up in the scope around it follows the rule. -/
theorem lookup_scopeAround_iff {binding : Binding} :
    (function.scopeAround script around).lookup name = binding ↔
      StandsFor script function around name binding := by
  constructor
  · rintro rfl
    obtain ⟨binding, stands⟩ := exists_standsFor script function around name
    rw [stands.lookup_eq]
    exact stands
  · exact StandsFor.lookup_eq

end Lookup

/-! ## Resolved names -/

mutual

theorem references_resolve (scope : Scope) :
    ∀ source : Expression, (source.resolve scope).references =
      source.references.map (Identifier.resolve scope)
  | .identifier _ | .receiver _ | .number _ _ | .string _ _ | .boolean _ _
  | .other _ _ => rfl
  | .template _ parts _ => referencesOfParts_resolve scope parts
  | .array elements _ => referencesOfAll_resolve scope elements
  | .object members _ => referencesOfMembers_resolve scope members
  | .parenthesized inner _ => references_resolve scope inner
  | .unary _ operand _ => references_resolve scope operand
  | .binary _ left right _ => by
      simp only [Expression.resolve, Expression.references, List.map_append,
        references_resolve scope left, references_resolve scope right]
  | .assignment _ place value _ => by
      simp only [Expression.resolve, Expression.references, List.map_append,
        references_resolve scope place, references_resolve scope value]
  | .member object _ _ _ => references_resolve scope object
  | .index object subscript _ => by
      simp only [Expression.resolve, Expression.references, List.map_append,
        references_resolve scope object, references_resolve scope subscript]
  | .call callee arguments _ _ => by
      simp only [Expression.resolve, Expression.references, List.map_append,
        references_resolve scope callee, referencesOfAll_resolve scope arguments]

theorem referencesOfAll_resolve (scope : Scope) :
    ∀ sources : List Expression,
      referencesOfAll (resolveExpressions scope sources) =
        (referencesOfAll sources).map (Identifier.resolve scope)
  | [] => rfl
  | source :: others => by
      simp only [resolveExpressions, referencesOfAll, List.map_append,
        references_resolve scope source, referencesOfAll_resolve scope others]

theorem referencesOfParts_resolve (scope : Scope) :
    ∀ parts : List TemplatePart,
      referencesOfParts (resolveParts scope parts) =
        (referencesOfParts parts).map (Identifier.resolve scope)
  | [] => rfl
  | .mk source _ :: others => by
      simp only [resolveParts, referencesOfParts, List.map_append,
        references_resolve scope source, referencesOfParts_resolve scope others]

theorem references_resolve_property (scope : Scope) :
    ∀ name : PropertyName, (name.resolve scope).references =
      name.references.map (Identifier.resolve scope)
  | .identifier _ | .string _ _ | .number _ _ | .privateName _ _ => rfl
  | .computed source _ => references_resolve scope source

theorem referencesOfMembers_resolve (scope : Scope) :
    ∀ members : List ObjectMember,
      referencesOfMembers (resolveMembers scope members) =
        (referencesOfMembers members).map (Identifier.resolve scope)
  | [] => rfl
  | .shorthand _ :: others => by
      simp only [resolveMembers, referencesOfMembers, List.map_cons,
        referencesOfMembers_resolve scope others]
  | .property name value _ :: others => by
      simp only [resolveMembers, referencesOfMembers, List.map_append,
        references_resolve_property scope name, references_resolve scope value,
        referencesOfMembers_resolve scope others]
  | .other _ _ :: others => referencesOfMembers_resolve scope others

end

/-- A name as it is resolved in the scope around it. -/
def Occurrence.resolve (base : Scope) (occurrence : Occurrence) : Identifier :=
  occurrence.identifier.resolve (base.enclosed occurrence.around)

/-- The names of the second list are those of the first one, resolved.  The
constructs around the names of a resolved function are resolved too, and do not
matter. -/
def ResolvedTo (base : Scope) (before after : List Occurrence) : Prop :=
  after.map Occurrence.identifier = before.map (Occurrence.resolve base)

section Resolved

variable {base : Scope} {before after first second : List Occurrence}

theorem ResolvedTo.append (resolved : ResolvedTo base before after)
    (others : ResolvedTo base first second) :
    ResolvedTo base (before ++ first) (after ++ second) := by
  unfold ResolvedTo at resolved others ⊢
  rw [List.map_append, List.map_append, resolved, others]

variable (base) (around inside : List Enclosure)

theorem resolvedTo_expression (source : Expression) :
    ResolvedTo base (source.occurrences around)
      ((source.resolve (base.enclosed around)).occurrences inside) := by
  unfold ResolvedTo Expression.occurrences
  rw [references_resolve]
  simp [Function.comp_def, Occurrence.resolve]

theorem resolvedTo_option (source : Option Expression) :
    ResolvedTo base (occurrencesOfOption around source)
      (occurrencesOfOption inside
        (source.map (Expression.resolve (base.enclosed around)))) := by
  cases source with
  | none => rfl
  | some source => exact resolvedTo_expression base around inside source

theorem resolvedTo_declarations (declared : List Declaration) :
    ResolvedTo base (occurrencesOfDeclarations around declared)
      (occurrencesOfDeclarations inside
        (declared.map (Declaration.resolve (base.enclosed around)))) := by
  induction declared with
  | nil => rfl
  | cons declaration others inductionHypothesis =>
      exact (resolvedTo_option base around inside declaration.initial).append
        inductionHypothesis

theorem resolvedTo_header (header : LoopHeader) :
    ResolvedTo base (header.occurrences around)
      ((header.resolve (header.declare (base.enclosed around))).occurrences
        inside) := by
  cases header with
  | declaration declared => rfl
  | expression assigned => exact resolvedTo_expression base around inside assigned

end Resolved

mutual

/-- Entering a construct adds it to those around what stands in it. -/
theorem resolvedTo_statement (base : Scope) :
    ∀ (around inside : List Enclosure) (source : Statement),
      ResolvedTo base (source.occurrences around)
        ((source.resolve (base.enclosed around)).occurrences inside)
  | around, _, .block statements _ =>
      resolvedTo_statements base (.block statements :: around) _ statements
  | around, inside, .expression evaluated _ =>
      resolvedTo_expression base around inside evaluated
  | around, inside, .branch condition consequent alternative _ =>
      ((resolvedTo_expression base around inside condition).append
        (resolvedTo_statement base (.limb consequent :: around) _ consequent)).append
          (resolvedTo_alternative base around inside alternative)
  | around, inside, .loop header iterable body _ =>
      ((resolvedTo_header base around inside header).append
        (resolvedTo_expression base around inside iterable)).append
          (resolvedTo_statement base (.limb body :: .header header :: around) _ body)
  | around, inside, .result returned _ =>
      resolvedTo_option base around inside returned
  | around, inside, .declarations _ declared _ =>
      resolvedTo_declarations base around inside declared
  | _, _, .other _ _ => rfl

theorem resolvedTo_statements (base : Scope) :
    ∀ (around inside : List Enclosure) (sources : List Statement),
      ResolvedTo base (occurrencesOfStatements around sources)
        (occurrencesOfStatements inside
          (resolveStatements (base.enclosed around) sources))
  | _, _, [] => rfl
  | around, inside, source :: others =>
      (resolvedTo_statement base around inside source).append
        (resolvedTo_statements base around inside others)

theorem resolvedTo_alternative (base : Scope) :
    ∀ (around inside : List Enclosure) (source : Option Statement),
      ResolvedTo base (occurrencesOfAlternative around source)
        (occurrencesOfAlternative inside
          (resolveAlternative (base.enclosed around) source))
  | _, _, none => rfl
  | around, _, some statement =>
      resolvedTo_statement base (.limb statement :: around) _ statement

end

theorem resolvedTo_function (scope : Scope) (function : FunctionDeclaration) :
    ResolvedTo (function.scope scope) function.occurrences
      (function.resolve scope).occurrences := by
  unfold FunctionDeclaration.occurrences FunctionDeclaration.resolve
  cases function.body with
  | none => rfl
  | some body =>
      exact resolvedTo_statements _ [.block body.statements] _ body.statements

/-- A name of the resolved function is that of the original one, with the meaning
that the rule gives it and no other one. -/
structure IsResolution (script : Module) (function : FunctionDeclaration)
    (before after : Occurrence) : Prop where
  name : after.identifier.name = before.identifier.name
  span : after.identifier.span = before.identifier.span
  binding : ∀ binding, after.identifier.binding = binding ↔
    StandsFor script function before.around before.identifier.name binding

/-- Every function of a module stays where it is when the module is resolved, and
its names, one by one, get the meaning that the declarations around them give
them: the innermost one decides. -/
theorem names_stand_for_innermost_declaration {script : Module} {index : Nat}
    {function : FunctionDeclaration}
    (placed : script.items[index]? = some (.function function)) :
    ∃ resolved, script.resolve.items[index]? = some (.function resolved) ∧
      List.Forall₂ (IsResolution script function) function.occurrences
        resolved.occurrences := by
  refine ⟨function.resolve script.scope, ?_, ?_⟩
  · simp [Module.resolve, placed, Item.resolve]
  · have same := resolvedTo_function script.scope function
    unfold ResolvedTo at same
    rw [← List.forall₂_eq_eq_eq, List.forall₂_map_left_iff,
      List.forall₂_map_right_iff] at same
    apply same.flip.imp
    intro before after resolved
    have found : after.identifier =
        before.identifier.resolve (function.scopeAround script before.around) :=
      resolved
    refine ⟨by rw [found]; rfl, by rw [found]; rfl, fun binding => ?_⟩
    rw [found]
    exact lookup_scopeAround_iff

/-- Names in a function whose pattern in a loop and whose constant in its body
hide an import and a parameter of the same name, and whose branch declares a
variable for the whole function. -/
theorem names_stand_for_innermost_declaration_shadowed :
    let span : Span := ⟨0, 0⟩
    let placement : Placement := ⟨span, 0⟩
    let named : String → Identifier := fun name => ⟨name, span, .unresolved⟩
    let read : String → Expression := fun name => .identifier (named name)
    let declared : BindingName → Option Expression → List Declaration :=
      fun name initial => [⟨name, initial, span⟩]
    let function : FunctionDeclaration :=
      ⟨some (named "f"), [],
        [⟨.identifier (named "p"), false, span⟩, ⟨.identifier (named "q"), false, span⟩],
        some ⟨[.branch (read "p")
            (.declarations .var (declared (.identifier (named "q")) none) placement)
            none placement,
          .loop (.declaration ⟨.array [.bound (.identifier (named "add"))] span, none, span⟩)
            (read "add")
            (.block [
              .declarations .const (declared (.identifier (named "p")) (some (read "q")))
                placement,
              .expression (.object [.shorthand (named "p"), .shorthand (named "add")] span)
                placement] placement) placement,
          .result (some (.array [read "p", read "add", read "shared", read "other"] span))
            placement], span⟩, false, span⟩
    let script : Module :=
      ⟨[.imports ⟨"@ts2vtl/java-types", [.named "add" "add"], span⟩,
        .statement (.declarations .const
          (declared (.identifier (named "shared")) (some (.number "1" span))) placement),
        .function function]⟩
    script.items[2]? = some (.function function) ∧
      ∃ resolved, script.resolve.items[2]? = some (.function resolved) ∧
        List.Forall₂ (IsResolution script function) function.occurrences
          resolved.occurrences ∧
        resolved.occurrences.map (fun occurrence =>
            (occurrence.identifier.name, occurrence.identifier.binding)) =
          [("p", .parameter), ("add", .helper "@ts2vtl/java-types" "add" .function),
            ("q", .variableName), ("p", .variableName), ("add", .variableName),
            ("p", .parameter), ("add", .helper "@ts2vtl/java-types" "add" .function),
            ("shared", .variableName), ("other", .unresolved)] := by
  intro span placement named read declared function script
  have placed : script.items[2]? = some (.function function) := rfl
  obtain ⟨resolved, present, follow⟩ :=
    names_stand_for_innermost_declaration placed
  refine ⟨placed, resolved, present, follow, ?_⟩
  have known : script.resolve.items[2]? =
      some (.function (function.resolve script.scope)) := rfl
  rw [known] at present
  cases present
  decide +kernel

end VelocityScript.Script
