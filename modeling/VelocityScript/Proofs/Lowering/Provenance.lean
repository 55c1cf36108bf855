import VelocityScript.Proofs.Lowering.Transpilation
import VelocityScript.Proofs.Lowering.Validity
import VelocityScript.Proofs.Template.Contents
import VelocityScript.Proofs.Template.Spelling

/-!
# Where the names of a template come from

A name of a template is a valid name of the script without its leading `$`, a
temporary that was made on the way, or one that the lowering brings itself.  So
every name of a template is a letter with letters, digits, `_` and `-` after it.
-/

namespace VelocityScript.Lowering

open Script

/-- Where a name of a template comes from: from the given names of the script,
from the temporaries made between two numbers, or from the lowering. -/
inductive ComesFrom (names : List String) (first next : Nat) : String → Prop
  | script {text : String} : text ∈ names →
      Template.isValidIdentifier text = true →
      ComesFrom names first next (bareName text)
  | temporary {number : Nat} : first ≤ number → number < next →
      ComesFrom names first next (Template.temporaryName number)
  | own {name : String} : name ∈ ownNames → ComesFrom names first next name

theorem ComesFrom.mono {names others : List String}
    {first next earlier later : Nat} {name : String}
    (comes : ComesFrom names first next name) (wider : names ⊆ others)
    (before : earlier ≤ first) (after : next ≤ later) :
    ComesFrom others earlier later name := by
  cases comes with
  | script member valid => exact .script (wider member) valid
  | temporary low high =>
      exact .temporary (Nat.le_trans before low) (Nat.lt_of_lt_of_le high after)
  | own member => exact .own member

theorem ComesFrom.isName {names : List String} {first next : Nat}
    {name : String} (comes : ComesFrom names first next name) :
    Template.isName name.toList = true := by
  cases comes with
  | script member valid => exact Template.isName_bareName valid
  | temporary low high => exact Template.isName_temporaryName _
  | own member =>
      have own : ∀ name ∈ ownNames, Template.isName name.toList = true := by
        decide
      exact own name member

/-- The names of the directives of a step, and the names found in its result,
come from the names it meets and from the temporaries it makes. -/
structure Traced (names : List String) (first next : Nat)
    (directives : List Template.Element) (found : List String) : Prop where
  counted : first ≤ next
  directives : ∀ name ∈ Template.visitElements .names directives,
    ComesFrom names first next name
  result : ∀ name ∈ found, ComesFrom names first next name

namespace Traced

variable {names others : List String} {first middle next : Nat}
variable {before after directives : List Template.Element}
variable {left right found : List String}

/-- A step without directives. -/
theorem alone (comes : ∀ name ∈ found, ComesFrom names first first name) :
    Traced names first first [] found where
  counted := Nat.le_refl first
  directives := List.forall_mem_nil _
  result := comes

theorem wider (traced : Traced names first next directives found)
    (more : names ⊆ others) : Traced others first next directives found where
  counted := traced.counted
  directives name member := (traced.directives name member).mono more
    (Nat.le_refl first) (Nat.le_refl next)
  result name member := (traced.result name member).mono more
    (Nat.le_refl first) (Nat.le_refl next)

theorem append (leftTraced : Traced names first middle before left)
    (rightTraced : Traced others middle next after right) :
    Traced (names ++ others) first next (before ++ after) (left ++ right) := by
  have fromLeft : ∀ name, ComesFrom names first middle name →
      ComesFrom (names ++ others) first next name := fun name comes =>
    comes.mono (List.subset_append_left _ _) (Nat.le_refl first)
      rightTraced.counted
  have fromRight : ∀ name, ComesFrom others middle next name →
      ComesFrom (names ++ others) first next name := fun name comes =>
    comes.mono (List.subset_append_right _ _) leftTraced.counted
      (Nat.le_refl next)
  refine ⟨Nat.le_trans leftTraced.counted rightTraced.counted, ?_, ?_⟩
  · rw [Template.visitElements_append]
    exact List.forall_mem_append.mpr
      ⟨fun name member => fromLeft name (leftTraced.directives name member),
        fun name member => fromRight name (rightTraced.directives name member)⟩
  · exact List.forall_mem_append.mpr
      ⟨fun name member => fromLeft name (leftTraced.result name member),
        fun name member => fromRight name (rightTraced.result name member)⟩

/-- Other names stand in the result. -/
theorem replace (traced : Traced names first next directives found)
    {instead : List String}
    (comes : ∀ name ∈ instead, name ∈ found ∨
      ComesFrom names first next name) :
    Traced names first next directives instead where
  counted := traced.counted
  directives := traced.directives
  result name member := by
    rcases comes name member with inFound | comesFrom
    · exact traced.result name inFound
    · exact comesFrom

/-- One more directive has no other names than the result. -/
theorem assign {place : Template.Place} {value : Template.Expression}
    (traced : Traced names first next directives found)
    (placed : place.visit .names ⊆ found) (valued : value.visit .names ⊆ found)
    (origin : Template.Origin) :
    Traced names first next (directives ++ [.assign place value origin])
      found where
  counted := traced.counted
  directives := by
    rw [Template.visitElements_append]
    refine List.forall_mem_append.mpr ⟨traced.directives, ?_⟩
    simp only [Template.visitElements, Template.Element.visit, List.append_nil]
    exact List.forall_mem_append.mpr
      ⟨fun name member => traced.result name (placed member),
        fun name member => traced.result name (valued member)⟩
  result := traced.result

/-- One more temporary takes the value of an expression. -/
theorem hoisting {expression : Template.Expression}
    (traced : Traced names first next directives (expression.visit .names)) :
    Traced names first (next + 1)
      (directives ++ (Lowering.hoisting next expression).hoisted)
      [Template.temporaryName next] := by
  have temporary : ComesFrom names first (next + 1)
      (Template.temporaryName next) :=
    .temporary traced.counted (Nat.lt_succ_self next)
  have later : ∀ name, ComesFrom names first next name →
      ComesFrom names first (next + 1) name := fun name comes =>
    comes.mono (List.Subset.refl names) (Nat.le_refl first) (Nat.le_succ next)
  refine ⟨Nat.le_succ_of_le traced.counted, ?_,
    List.forall_mem_singleton.mpr temporary⟩
  rw [Template.visitElements_append]
  refine List.forall_mem_append.mpr
    ⟨fun name member => later name (traced.directives name member), ?_⟩
  refine List.forall_mem_append.mpr
    ⟨List.forall_mem_cons.mpr ⟨temporary, fun name member =>
      later name (traced.result name member)⟩, List.forall_mem_nil _⟩

end Traced

/-- What is found in the result of a step. -/
def Task.visit {Found : Type} (visitor : Template.Visitor Found) :
    (task : Task) → task.Result → List Found
  | .name _ _, result => visitor.member result.text
  | .identifier _, result | .expression _, result | .range _ _, result
  | .helperCall _ _ _ _, result => result.visit visitor
  | .number _ _, result | .propertyName _, result | .value _, result =>
      result.visit visitor
  | .path _, result => result.visit visitor
  | .bound _ _, result => result.visit visitor
  | .values _, results => Template.visitValues visitor results
  | .part _, result => result.visit visitor
  | .parts _, results => Template.visitSpans visitor results
  | .member _, result => result.visit visitor
  | .members _, results => Template.visitEntries visitor results

theorem names_valueless (value : Template.Value) :
    Template.Visitor.names.value value = [] := rfl

theorem name_mem_names (named : Identifier) : named.name ∈ named.names := by
  unfold Identifier.names
  split <;> exact List.mem_cons_self

theorem visit_place_reference (place : Template.Place) :
    place.visit .names = place.reference.path.visit .names := by
  cases place <;> rfl

theorem visit_assignedValue (combined : Option Template.BinaryOperator)
    (place : Template.Place) (right : Template.Expression) (span : Span) :
    (assignedValue combined place right span).visit .names ⊆
      place.reference.path.visit .names ++ right.visit .names := by
  cases combined with
  | none => exact List.subset_append_right _ _
  | some operator => exact List.Subset.refl _

/-- The names in a derivation come from the names it meets. -/
theorem Derives.traced {target : Target} {task : Task} {first next : Nat}
    {result : task.Result} {effect : Effect}
    (derived : Derives target task first result next effect) :
    Traced task.names first next effect.hoisted (task.visit .names result) := by
  induction derived with
  | name valid =>
      refine .alone (List.forall_mem_singleton.mpr ?_)
      exact .script List.mem_cons_self valid
  | @argument named first next name effect bound derived traced =>
      have within := traced.wider (List.forall_mem_singleton.mpr
        (name_mem_names named))
      refine within.replace ?_
      have inContext : "ctx" ∈ ownNames := by decide
      have inArguments : "arguments" ∈ ownNames := by decide
      refine List.forall_mem_cons.mpr ⟨.inr (.own inContext), ?_⟩
      refine List.forall_mem_cons.mpr ⟨.inr (.own inArguments), ?_⟩
      exact List.forall_mem_singleton.mpr (.inl List.mem_cons_self)
  | @variableName named first next name effect free derived traced =>
      rw [Effect.append_hoisted, naming_hoisted]
      exact traced.wider (List.forall_mem_singleton.mpr (name_mem_names named))
  | number parsed => exact .alone (List.forall_mem_nil _)
  | identifierKey => exact .alone (List.forall_mem_nil _)
  | stringKey =>
      refine .alone ?_
      simp only [Task.visit, Template.visit_quoted names_valueless]
      exact List.forall_mem_nil _
  | numberKey parsed traced => exact traced
  | identifier named traced => exact traced
  | receiver =>
      refine .alone (List.forall_mem_singleton.mpr ?_)
      exact .own (receiver_mem_ownNames target)
  | numeral parsed traced => exact traced
  | string =>
      refine .alone ?_
      simp only [Task.visit, Template.Expression.visit, Template.visit_quoted names_valueless]
      exact List.forall_mem_nil _
  | boolean => exact .alone (List.forall_mem_nil _)
  | template parts traced => exact traced
  | array values traced => exact traced
  | object members traced => exact traced
  | parenthesized inner traced =>
      simp only [Task.visit, Template.Expression.visit,
        Template.visit_interpolated names_valueless]
      exact traced
  | unary lowered operand traced =>
      simp only [Task.visit, Template.Expression.visit,
        Template.visit_interpolated names_valueless]
      exact traced
  | binary lowered left right leftTraced rightTraced =>
      simp only [Task.visit, Template.Expression.visit,
        Template.visit_interpolated names_valueless]
      exact leftTraced.append rightTraced
  | assignment combined left right placed leftTraced rightTraced =>
      obtain ⟨reference, referred, made⟩ := Option.bind_eq_some_iff.mp placed
      have read := Template.Reference.place?_eq_some_iff.mp made
      have both := leftTraced.append rightTraced
      simp only [Task.visit] at both
      rw [← Template.visit_of_reference? names_valueless referred, ← read,
        ← Template.visit_interpolated names_valueless] at both
      refine (both.assign ?_ ?_ _).replace ?_
      · rw [visit_place_reference]
        exact List.subset_append_left _ _
      · exact visit_assignedValue _ _ _ _
      · exact fun name member => .inl (List.mem_append_left _ member)
  | access base name baseTraced nameTraced => exact baseTraced.append nameTraced
  | index base value baseTraced valueTraced =>
      exact baseTraced.append valueTraced
  | rangeCall called range traced =>
      exact traced.wider (List.subset_append_right _ _)
  | call called other helper traced =>
      refine traced.wider (List.cons_subset.mpr ⟨?_, ?_⟩)
      · exact List.mem_append_left _ (exported_mem_names called)
      · exact List.subset_append_right _ _
  | methodCall base name values baseTraced nameTraced valuesTraced =>
      exact (baseTraced.append nameTraced).append valuesTraced
  | kept inner found traced =>
      simp only [Task.visit, Template.visit_of_value? names_valueless found]
      exact traced
  | hoisted inner found traced => exact traced.hoisting
  | keptPath inner found traced =>
      simp only [Task.visit, Template.visit_of_path? found]
      exact traced
  | hoistedPath inner found traced => exact traced.hoisting
  | numberBound value traced => exact traced
  | referenceBound value traced => exact traced
  | noValues => exact .alone (List.forall_mem_nil _)
  | moreValues value values valueTraced valuesTraced =>
      exact valueTraced.append valuesTraced
  | part value traced =>
      rw [Effect.append_hoisted, escaping_hoisted, List.append_nil]
      exact traced
  | noParts => exact .alone (List.forall_mem_nil _)
  | moreParts part parts partTraced partsTraced =>
      exact partTraced.append partsTraced
  | shorthand named traced => exact traced
  | property key value keyTraced valueTraced => exact keyTraced.append valueTraced
  | noMembers => exact .alone (List.forall_mem_nil _)
  | moreMembers member members memberTraced membersTraced =>
      exact memberTraced.append membersTraced
  | range lower upper lowerTraced upperTraced =>
      refine (lowerTraced.append upperTraced).wider ?_
      refine List.append_subset.mpr ⟨List.subset_append_left _ _, ?_⟩
      exact List.subset_append_of_subset_right _ (List.subset_append_left _ _)
  | helperCall base name values baseTraced nameTraced valuesTraced =>
      refine ((baseTraced.append nameTraced).append valuesTraced).wider ?_
      refine List.append_subset.mpr ⟨List.append_subset.mpr ⟨?_, ?_⟩, ?_⟩
      · exact List.subset_cons_of_subset _ (List.subset_append_left _ _)
      · exact List.forall_mem_singleton.mpr List.mem_cons_self
      · exact List.subset_cons_of_subset _ (List.subset_append_right _ _)

/-! ## Statements -/

/-- What is found in the result of a step. -/
def Passage.visit {Found : Type} (visitor : Template.Visitor Found) :
    (passage : Passage) → passage.Result → List Found
  | .evaluation _, elements | .result _, elements | .declaration _, elements
  | .declarations _, elements | .statement _, elements
  | .statements _, elements => Template.visitElements visitor elements
  | .loopPattern _, (item, opening) =>
      visitor.assigned item.name.text ++ Template.visitElements visitor opening
  | .branch _ _ _, parts =>
      parts.first.visit visitor ++ Template.visitClauses visitor parts.others ++
        Template.visitOtherwise visitor parts.otherwise
  | .alternative _, rest =>
      Template.visitClauses visitor rest.others ++
        Template.visitOtherwise visitor rest.otherwise

theorem visitElements_blankLines {Found : Type}
    (visitor : Template.Visitor Found) (placement : Placement) :
    Template.visitElements visitor (blankLines placement) = [] := by
  unfold blankLines
  induction placement.leadingNewlines - 1 with
  | zero => rfl
  | succ count inductionHypothesis => exact inductionHypothesis

namespace Traced

variable {names found : List String} {first next : Nat}
variable {directives elements : List Template.Element}

/-- The directives stand before other elements, as a result. -/
theorem placed (traced : Traced names first next directives found)
    (comes : ∀ name ∈ Template.visitElements .names elements,
      name ∈ found ∨ ComesFrom names first next name) :
    Traced names first next []
      (Template.visitElements .names (directives ++ elements)) where
  counted := traced.counted
  directives := List.forall_mem_nil _
  result := by
    rw [Template.visitElements_append]
    refine List.forall_mem_append.mpr ⟨traced.directives, ?_⟩
    exact (traced.replace comes).result

theorem spaced (traced : Traced names first next directives
      (Template.visitElements .names elements)) (placement : Placement) :
    Traced names first next directives
      (Template.visitElements .names (blankLines placement ++ elements)) := by
  rw [Template.visitElements_append, visitElements_blankLines, List.nil_append]
  exact traced

end Traced

/-- A statement that is a reference has its names, and the names of the calls
that drop a result. -/
theorem visit_standalone (target : Target) (source : Expression)
    (reference : Template.Reference) :
    ∀ name ∈ Template.visitElements .names (standalone target source reference),
      name ∈ reference.path.visit .names ∨ name ∈ ownNames := by
  unfold standalone
  split
  · cases target with
    | appsync =>
        have utility : "util" ∈ ownNames := by decide
        have quiet : "qr" ∈ ownNames := by decide
        simp only [discardCall, Template.visitElements, Template.Element.visit,
          Template.Value.visit, Template.Path.visit, Template.visitValues,
          Template.Reference.value, List.append_nil]
        refine List.forall_mem_cons.mpr ⟨.inr utility, ?_⟩
        exact List.forall_mem_cons.mpr ⟨.inr quiet, fun _ member => .inl member⟩
    | apigateway =>
        have discarded : "discard" ∈ ownNames := by decide
        simp only [discardCall, Template.visitElements, Template.Element.visit,
          Template.Place.visit, Template.Expression.visit, Template.Value.visit,
          Template.Reference.value, List.append_nil]
        exact List.forall_mem_cons.mpr
          ⟨.inr discarded, fun _ member => .inl member⟩
  · simp only [Template.visitElements, Template.Element.visit,
      Template.Value.visit, Template.Reference.value, List.append_nil]
    exact fun _ member => .inl member

/-- The names of an entry pattern. -/
theorem names_of_entryNames? {elements : List BindingElement} {span : Span}
    {key value : Identifier} (named : entryNames? elements = some (key, value)) :
    (BindingName.array elements span).names = [key.name, value.name] := by
  rw [eq_of_entryNames? named]
  rfl

/-- The names in a derivation of statements come from the names it meets. -/
theorem Yields.traced {target : Target} {passage : Passage} {first next : Nat}
    {result : passage.Result} {effect : Effect}
    (yielded : Yields target passage first result next effect) :
    Traced passage.names first next effect.hoisted
      (passage.visit .names result) := by
  induction yielded with
  | assignment derived =>
      exact ⟨derived.traced.counted, List.forall_mem_nil _,
        derived.traced.directives⟩
  | standalone alone derived referred =>
      refine derived.traced.placed fun name member => ?_
      simp only [Task.visit,
        ← Template.visit_of_reference? names_valueless referred]
      rcases visit_standalone _ _ _ name member with inReference | own
      · exact .inl inReference
      · exact .inr (.own own)
  | noResult => exact .alone (List.forall_mem_nil _)
  | result derived =>
      have traced := derived.traced
      split
      · next none =>
          rw [List.isEmpty_iff.mp none] at traced
          refine traced.placed fun name member => .inl ?_
          rw [Template.visitElements_singleton] at member
          exact member
      · rw [List.append_assoc]
        refine traced.placed fun name member => .inl ?_
        simp only [Template.visitElements_append,
          Template.visitElements_singleton] at member
        exact member
  | uninitialised absent => exact .alone (List.forall_mem_nil _)
  | initialised named valued place derived =>
      obtain ⟨valid, rfl, rfl, rfl⟩ := place.name_inversion
      simp only [Passage.names, Declaration.allNames, named, valued,
        namesOfOption]
      refine (derived.traced.wider (List.subset_append_right _ _)).placed ?_
      simp only [Template.visitElements, Template.Element.visit,
        Template.Place.visit, Template.visit_interpolated names_valueless,
        List.append_nil]
      refine List.forall_mem_cons.mpr ⟨.inr ?_, fun _ member => .inl member⟩
      exact .script List.mem_cons_self valid
  | noDeclarations => exact .alone (List.forall_mem_nil _)
  | moreDeclarations declaration others declarationTraced othersTraced =>
      simp only [Passage.visit, Template.visitElements_append]
      exact declarationTraced.append othersTraced
  | item derived => exact derived.traced
  | @entry elements span key value first middle next keyName valueName _ _ named
      keyDerived valueDerived =>
      have both := keyDerived.traced.append valueDerived.traced
      have counted : first < next := both.counted
      have later : ∀ name, ComesFrom [key.name, value.name] (first + 1) next name →
          ComesFrom [key.name, value.name] first next name := fun name comes =>
        comes.mono (List.Subset.refl _) (Nat.le_succ first) (Nat.le_refl next)
      have entry : ComesFrom [key.name, value.name] first next
          (Template.temporaryName first) := .temporary (Nat.le_refl first) counted
      have fromKey := later _ (both.result keyName.text List.mem_cons_self)
      have fromValue := later _ (both.result valueName.text
        (List.mem_cons_of_mem _ List.mem_cons_self))
      have keyed : "key" ∈ ownNames := by decide
      have valued : "value" ∈ ownNames := by decide
      simp only [Passage.names, names_of_entryNames? named]
      refine ⟨Nat.le_of_lt counted, ?_, ?_⟩
      · exact fun name member => later name (both.directives name member)
      · simp only [Passage.visit, Template.Visitor.names, Template.visitElements,
          entryPart, Template.Element.visit, Template.Place.visit,
          Template.Expression.visit, Template.Value.visit, Template.Path.visit,
          Template.Variable.ofIdentifier, temporaryVariable, List.cons_append,
          List.nil_append, List.forall_mem_cons]
        exact ⟨entry, fromKey, entry, .own keyed, fromValue, entry, .own valued,
          List.forall_mem_nil _⟩
  | branch condition consequent alternative consequentTraced restTraced =>
      have all := (condition.traced.append consequentTraced).append restTraced
      simp only [Passage.visit, Template.Clause.visit, Template.Block.visit,
        Template.visit_interpolated names_valueless, Task.visit, Passage.names,
        Task.names, Effect.append_hoisted, List.append_assoc] at all ⊢
      exact all
  | noAlternative => exact .alone (List.forall_mem_nil _)
  | chained parts partsTraced => exact partsTraced
  | otherwise notBranch statement statementTraced => exact statementTraced
  | block statements statementsTraced => exact statementsTraced.spaced _
  | evaluation evaluated evaluatedTraced => exact evaluatedTraced.spaced _
  | branching parts partsTraced =>
      rw [List.append_assoc]
      refine Traced.spaced (partsTraced.placed fun name member => .inl ?_) _
      rw [Template.visitElements_singleton] at member
      exact member
  | @looping declared _ _ _ _ _ _ _ _ _ _ _ _ _ _ pattern iterable body
      patternTraced bodyTraced =>
      have inHeader : declared.name.names ⊆ declared.allNames :=
        List.subset_append_left _ _
      have all := ((patternTraced.wider inHeader).append
        iterable.traced).append bodyTraced
      rw [List.append_assoc]
      refine Traced.spaced ⟨all.counted, ?_, ?_⟩ _
      · have directives := all.directives
        simp only [Template.visitElements_append, List.forall_mem_append,
          Effect.append_hoisted, Effect.collected_hoisted] at directives ⊢
        exact ⟨⟨directives.1.1, List.forall_mem_nil _⟩, directives.2⟩
      · have directives := all.directives
        have result := all.result
        simp only [Passage.visit, Task.visit, Template.visitElements_append,
          Template.visitElements_singleton, Template.Element.visit,
          Template.Block.visit, List.forall_mem_append] at directives result ⊢
        exact ⟨directives.1.2, ⟨result.1.1.1, result.1.2⟩, result.1.1.2, result.2⟩
  | returning returned returnedTraced => exact returnedTraced.spaced _
  | declaring declared declaredTraced => exact declaredTraced.spaced _
  | noStatements => exact .alone (List.forall_mem_nil _)
  | moreStatements statement others statementTraced othersTraced =>
      simp only [Passage.visit, Template.visitElements_append]
      exact statementTraced.append othersTraced

/-! ## Templates -/

theorem own_of_mem_prelude (state : State) :
    ∀ name ∈ Template.visitElements .names (prelude state),
      name ∈ ownNames := by
  unfold prelude
  rw [Template.visitElements_append]
  refine List.forall_mem_append.mpr ⟨?_, ?_⟩ <;> split <;> decide

/-- How many temporaries the lowering of a function makes. -/
def temporaryCount (target : Target) (function : FunctionDeclaration) : Nat :=
  ((functionStep target function).run {}).2.temporaries

theorem temporaryCount_eq {target : Target} {function : FunctionDeclaration}
    {body : Block} {elements : List Template.Element} {next : Nat}
    {effect : Effect} (complaint : functionComplaint? function = none)
    (bodied : function.body = some body)
    (statements :
      Yields target (.statements body.statements) 0 elements next effect) :
    temporaryCount target function = next := by
  have ended := ends_some_iff.mp statements.ends {} rfl
  simp only [temporaryCount, functionStep, complaint, bodied, StateT.run_bind,
    ended]
  rfl

/-- The names of the template of a function come from the names of the
function. -/
theorem FunctionYields.comesFrom {target : Target}
    {function : FunctionDeclaration} {file : Template.File}
    (yielded : FunctionYields target function file) {name : String}
    (member : name ∈ file.visit .names) :
    ComesFrom function.names 0 (temporaryCount target function) name := by
  cases yielded with
  | body complaint bodied statements =>
      rw [temporaryCount_eq complaint bodied statements]
      simp only [FunctionDeclaration.names, bodied]
      simp only [Template.File.visit, Template.Block.visit,
        Template.visitElements_append] at member
      rcases List.mem_append.mp member with inPrelude | inElements
      · exact .own (own_of_mem_prelude _ name inPrelude)
      · exact statements.traced.result name inElements

/-- All names in the template of a function are a letter with letters, digits,
`_` and `-` after it. -/
theorem FunctionYields.isName {target : Target}
    {function : FunctionDeclaration} {file : Template.File}
    (yielded : FunctionYields target function file) {name : String}
    (member : name ∈ file.visit .names) :
    Template.isName name.toList = true :=
  (yielded.comesFrom member).isName

end VelocityScript.Lowering
