import VelocityScript.Proofs.Lowering.Derivation
import VelocityScript.Proofs.Script.Names
import VelocityScript.Proofs.Template.Coverage

/-!
# Temporaries are set before they are read

A derivation sets the temporaries it makes, in order, before anything reads
them, and every name it puts into a template is valid.  The names of the script
must not be those of temporaries.
-/

namespace VelocityScript.Lowering

open Script

/-- The names that a step meets. -/
def Task.names : Task → List String
  | .name text _ => [text]
  | .identifier named => named.names
  | .number _ _ | .propertyName _ => []
  | .expression source | .value source | .path source | .bound _ source =>
      source.names
  | .values sources => namesOfAll sources
  | .part source => source.names
  | .parts sources => namesOfParts sources
  | .member source => source.names
  | .members sources => namesOfMembers sources
  | .range _ arguments => namesOfAll arguments
  | .helperCall exported _ _ arguments => exported :: namesOfAll arguments

def Task.check : (task : Task) → task.Result → Template.CheckContext →
    List Template.Finding
  | .name _ _, result => fun context => context.checkRead result
  | .identifier _, result | .expression _, result | .range _ _, result
  | .helperCall _ _ _ _, result => result.check
  | .number _ _, result | .propertyName _, result | .value _, result =>
      result.check
  | .path _, result => result.check
  | .bound _ _, result => result.check
  | .values _, results => fun context => Template.checkValues context results
  | .part _, .mk result _ _ => result.check
  | .parts _, results => fun context => Template.checkSpans context results
  | .member _, .mk key result _ =>
      fun context => key.check context ++ result.check context
  | .members _, results => fun context => Template.checkEntries context results

theorem check_parts_cons (part : TemplatePart) (others : List TemplatePart)
    (span : Template.TemplateSpan) (spans : List Template.TemplateSpan)
    (context : Template.CheckContext) :
    (Task.parts (part :: others)).check (span :: spans) context =
      (Task.part part).check span context ++
        (Task.parts others).check spans context := by
  cases span
  rfl

theorem check_members_cons (member : ObjectMember) (others : List ObjectMember)
    (entry : Template.MapEntry) (entries : List Template.MapEntry)
    (context : Template.CheckContext) :
    (Task.members (member :: others)).check (entry :: entries) context =
      (Task.member member).check entry context ++
        (Task.members others).check entries context := by
  cases entry
  rfl

theorem exported_mem_names {callee : Expression} {exported : String}
    {span : Span} (called : calleeForm callee = .helper exported span) :
    exported ∈ callee.names := by
  obtain ⟨named, moduleName, kind, rfl, bound⟩ :=
    exists_binding_of_helper called
  simp [Expression.names, Identifier.names, bound]

theorem Unreserved.name {named : Identifier} (unreserved : Unreserved named.names) :
    Unreserved [named.name] := by
  have listed : named.name ∈ named.names := by
    unfold Identifier.names
    split <;> exact List.mem_cons_self
  rw [unreserved_cons]
  exact ⟨unreserved _ listed, unreserved_nil⟩

/-! ## Reading the same nodes in other forms -/

theorem check_quoted (text : String) (origin : Template.Origin)
    (context : Template.CheckContext) :
    (Template.Value.quoted text origin).check context = [] := by
  unfold Template.Value.quoted
  split <;> rfl

theorem check_interpolated (expression : Template.Expression) :
    expression.interpolated.check = expression.check := by
  cases expression <;> rfl

theorem check_of_value? {expression : Template.Expression}
    {value : Template.Value} (found : expression.value? = some value) :
    value.check = expression.check := by
  cases expression <;> cases found <;> rfl

theorem check_of_path? {expression : Template.Expression}
    {path : Template.Path} (found : expression.path? = some path) :
    path.check = expression.check := by
  cases expression <;> cases found
  rfl

theorem check_of_reference? {expression : Template.Expression}
    {reference : Template.Reference}
    (found : expression.reference? = some reference) :
    reference.path.check = expression.check := by
  rcases expression with path | value | _ | _ | _
  · cases found
    rfl
  · cases value <;> cases found
    rfl
  all_goals cases found

/-- Setting a place checks less than reading it. -/
theorem check_place_of_reference (place : Template.Place)
    {context : Template.CheckContext}
    (read : place.reference.path.check context = []) :
    (place.check context).1 = [] := by
  cases place with
  | named target => exact (List.append_eq_nil_iff.mp read).1
  | property base name accessOrigin origin => exact read
  | index base subscript accessOrigin origin => exact read

/-! ## What a step provides -/

/-- The directives set the temporaries from `first` up to `next`, and where
these are set the check finds nothing. -/
structure Provides (first next : Nat) (directives : List Template.Element)
    (check : Template.CheckContext → List Template.Finding) : Prop where
  counted : first ≤ next
  sets : Template.Sets first next directives
  clean : Template.Clean first next check

namespace Provides

variable {first middle next : Nat}
variable {before after directives : List Template.Element}
variable {left right : Template.CheckContext → List Template.Finding}

/-- A node that reads no temporary needs no directives. -/
theorem alone (first : Nat) (clean : ∀ context, left context = []) :
    Provides first first [] left where
  counted := Nat.le_refl first
  sets := .nil first
  clean context _ := clean context

/-- The second of two steps reads none of the temporaries of the first, and
overwrites none. -/
theorem append (leftProvides : Provides first middle before left)
    (rightProvides : Provides middle next after right) :
    Provides first next (before ++ after) fun context =>
      left context ++ right context where
  counted := Nat.le_trans leftProvides.counted rightProvides.counted
  sets := leftProvides.sets.append rightProvides.sets
  clean :=
    (leftProvides.clean.widen (Nat.le_refl first) rightProvides.counted).append
      (rightProvides.clean.widen leftProvides.counted (Nat.le_refl next))

theorem mono (provides : Provides first next directives left)
    (fewer : ∀ context, left context = [] → right context = []) :
    Provides first next directives right where
  counted := provides.counted
  sets := provides.sets
  clean context covered := fewer context (provides.clean context covered)

/-- One more temporary takes the value of an expression. -/
theorem hoisting {expression : Template.Expression}
    (provides : Provides first next directives expression.check) :
    Provides first (next + 1)
      (directives ++ (Lowering.hoisting next expression).hoisted)
      (fun context =>
        context.checkRead (temporaryVariable next expression.origin).name) where
  counted := Nat.le_succ_of_le provides.counted
  sets := provides.sets.temporary provides.clean expression.origin
    expression.origin
  clean _ covered :=
    Template.CheckContext.checkRead_of_covers covered provides.counted
      (Nat.lt_succ_self next) expression.origin

/-- One more assignment sets a place that can be read. -/
theorem assigning {place : Template.Place} {value : Template.Expression}
    (combined : Option Template.BinaryOperator) (span : Span)
    (provides : Provides first next directives fun context =>
      place.reference.path.check context ++ value.check context) :
    Provides first next
      (directives ++ (Lowering.assigning combined place value span).hoisted)
      place.reference.path.check where
  counted := provides.counted
  sets := by
    refine provides.sets.assign ?_ ?_ (some span)
    · intro context covered
      have found := List.append_eq_nil_iff.mp (provides.clean context covered)
      cases combined with
      | none => exact found.2
      | some operator => exact List.append_eq_nil_iff.mpr found
    · intro context covered
      have found := List.append_eq_nil_iff.mp (provides.clean context covered)
      exact check_place_of_reference place found.1
  clean context covered :=
    (List.append_eq_nil_iff.mp (provides.clean context covered)).1

theorem interpolated {expression : Template.Expression}
    (provides : Provides first next directives expression.check) :
    Provides first next directives expression.interpolated.check := by
  rw [check_interpolated]
  exact provides

end Provides

/-- The names that the lowering puts into templates by itself. -/
def ownNames : List String :=
  ["ctx", "context", "arguments", "key", "value", "util", "qr", "discard",
    "esc", Catalogue.stringClass, "class"]

theorem ordinary_of_mem_ownNames {name : String} (own : name ∈ ownNames) :
    Template.isValidIdentifier name = true ∧
      Template.isTemporary name = false := by
  have ordinary : ∀ name ∈ ownNames, Template.isValidIdentifier name = true ∧
      Template.isTemporary name = false := by
    decide
  exact ordinary name own

theorem check_ownName {name : String} (own : name ∈ ownNames)
    (origin : Template.Origin) (context : Template.CheckContext) :
    context.checkRead ⟨name, origin⟩ = [] := by
  obtain ⟨valid, ordinary⟩ := ordinary_of_mem_ownNames own
  exact Template.CheckContext.checkRead_of_not_temporary valid ordinary

theorem receiver_mem_ownNames (target : Target) :
    target.receiver ∈ ownNames := by
  cases target <;> decide

/-- What a derivation adds provides for its result. -/
theorem Derives.provides {target : Target} {task : Task} {first next : Nat}
    {result : task.Result} {effect : Effect}
    (derived : Derives target task first result next effect)
    (unreserved : Unreserved task.names) :
    Provides first next effect.hoisted (task.check result) := by
  induction derived with
  | name valid =>
      refine .alone _ fun context => ?_
      exact Template.CheckContext.checkRead_of_not_temporary
        (Template.isValidIdentifier_bareName valid)
        (unreserved _ List.mem_cons_self)
  | argument bound named provided =>
      refine (provided unreserved.name).mono ?_
      intro context found
      have inContext : "ctx" ∈ ownNames := by decide
      have inArguments : "arguments" ∈ ownNames := by decide
      refine List.append_eq_nil_iff.mpr ⟨?_, found⟩
      exact List.append_eq_nil_iff.mpr
        ⟨check_ownName inContext _ context, check_ownName inArguments _ context⟩
  | variableName free named provided =>
      rw [Effect.append_hoisted, naming_hoisted]
      exact provided unreserved.name
  | number parsed => exact .alone _ fun _ => rfl
  | identifierKey => exact .alone _ fun _ => rfl
  | stringKey => exact .alone _ (check_quoted _ _)
  | numberKey parsed provided => exact provided unreserved_nil
  | identifier named provided => exact provided unreserved
  | receiver =>
      exact .alone _ (check_ownName (receiver_mem_ownNames target) _)
  | numeral parsed provided => exact provided unreserved_nil
  | string => exact .alone _ (check_quoted _ _)
  | boolean => exact .alone _ fun _ => rfl
  | template parts provided => exact provided unreserved
  | array values provided => exact provided unreserved
  | object members provided => exact provided unreserved
  | parenthesized inner provided => exact (provided unreserved).interpolated
  | unary lowered operand provided => exact (provided unreserved).interpolated
  | binary lowered left right leftProvided rightProvided =>
      simp only [Task.names, Expression.names, unreserved_append] at unreserved
      exact (leftProvided unreserved.1).interpolated.append
        (rightProvided unreserved.2).interpolated
  | assignment combined left right placed leftProvided rightProvided =>
      simp only [Task.names, Expression.names, unreserved_append] at unreserved
      obtain ⟨reference, referred, made⟩ := Option.bind_eq_some_iff.mp placed
      have read := Template.Reference.place?_eq_some_iff.mp made
      have leftChecked := leftProvided unreserved.1
      simp only [Task.check, ← check_of_reference? referred, ← read]
        at leftChecked
      exact (leftChecked.append (rightProvided unreserved.2).interpolated).assigning
        _ _
  | access base name baseProvided nameProvided =>
      simp only [Task.names, Expression.names, unreserved_append] at unreserved
      exact (baseProvided unreserved.1).append (nameProvided unreserved.2)
  | index base value baseProvided valueProvided =>
      simp only [Task.names, Expression.names, unreserved_append] at unreserved
      exact (baseProvided unreserved.1).append (valueProvided unreserved.2)
  | rangeCall called range provided =>
      simp only [Task.names, Expression.names, unreserved_append] at unreserved
      exact provided unreserved.2
  | call called other helper provided =>
      simp only [Task.names, Expression.names, unreserved_append] at unreserved
      refine provided (unreserved_cons.mpr ⟨?_, unreserved.2⟩)
      exact unreserved.1 _ (exported_mem_names called)
  | methodCall base name values baseProvided nameProvided valuesProvided =>
      simp only [Task.names, Expression.names, unreserved_append] at unreserved
      exact ((baseProvided unreserved.1.1).append
        (nameProvided unreserved.1.2)).append (valuesProvided unreserved.2)
  | kept inner found provided =>
      have checked := provided unreserved
      simp only [Task.check] at checked ⊢
      rw [← check_of_value? found] at checked
      exact checked
  | hoisted inner found provided => exact (provided unreserved).hoisting
  | keptPath inner found provided =>
      have checked := provided unreserved
      simp only [Task.check] at checked ⊢
      rw [← check_of_path? found] at checked
      exact checked
  | hoistedPath inner found provided => exact (provided unreserved).hoisting
  | numberBound value provided => exact provided unreserved
  | referenceBound value provided => exact provided unreserved
  | noValues => exact .alone _ fun _ => rfl
  | moreValues value values valueProvided valuesProvided =>
      simp only [Task.names, namesOfAll, unreserved_append] at unreserved
      exact (valueProvided unreserved.1).append (valuesProvided unreserved.2)
  | part value provided =>
      rw [Effect.append_hoisted, escaping_hoisted, List.append_nil]
      exact provided unreserved
  | noParts => exact .alone _ fun _ => rfl
  | moreParts part parts partProvided partsProvided =>
      simp only [Task.names, namesOfParts, unreserved_append] at unreserved
      refine ((partProvided unreserved.1).append
        (partsProvided unreserved.2)).mono ?_
      intro context found
      rw [check_parts_cons]
      exact found
  | shorthand named provided =>
      exact (provided unreserved).mono fun _ found => found
  | property key value keyProvided valueProvided =>
      exact (keyProvided unreserved_nil).append (valueProvided unreserved)
  | noMembers => exact .alone _ fun _ => rfl
  | moreMembers member members memberProvided membersProvided =>
      simp only [Task.names, namesOfMembers, unreserved_append] at unreserved
      refine ((memberProvided unreserved.1).append
        (membersProvided unreserved.2)).mono ?_
      intro context found
      rw [check_members_cons]
      exact found
  | range lowest highest lowestProvided highestProvided =>
      simp only [Task.names, namesOfAll, unreserved_append] at unreserved
      exact (lowestProvided unreserved.1).append (highestProvided unreserved.2.1)
  | helperCall base name values baseProvided nameProvided valuesProvided =>
      simp only [Task.names, namesOfAll, unreserved_append, unreserved_cons]
        at unreserved
      obtain ⟨exported, receiver, others⟩ := unreserved
      have named := nameProvided (unreserved_cons.mpr ⟨exported, unreserved_nil⟩)
      exact ((baseProvided receiver).append named).append (valuesProvided others)

end VelocityScript.Lowering
