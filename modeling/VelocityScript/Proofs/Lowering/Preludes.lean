import VelocityScript.Proofs.Lowering.Accountability
import VelocityScript.Proofs.Lowering.Quotation
import VelocityScript.Proofs.Lowering.Visiting

/-!
# Preludes

A template starts with the preludes that it needs, and goes on with the lowered
statements.  The map from which quotes are taken is needed where a text of a
template literal has a quote, at whatever place of the body, and no such text has
one in the template.  The string class is needed where a name that stands for it
occurs other than as what is called.
-/

namespace VelocityScript

namespace Template

/-- Where a value is a template literal, no text of it has a quote. -/
def Value.IsEscaped : Value → Prop
  | .template head spans _ =>
      Lowering.hasQuote head = false ∧
        ∀ span ∈ spans, Lowering.hasQuote span.literal = false
  | _ => True

/-- No text of a template literal among some values has a quote. -/
def AreEscaped (values : List Value) : Prop :=
  ∀ value ∈ values, value.IsEscaped

section Escaped

variable {values others : List Value} {expression : Expression}

@[simp]
theorem areEscaped_nil : AreEscaped [] :=
  List.forall_mem_nil _

@[simp]
theorem areEscaped_cons {value : Value} :
    AreEscaped (value :: others) ↔ value.IsEscaped ∧ AreEscaped others :=
  List.forall_mem_cons

@[simp]
theorem areEscaped_append :
    AreEscaped (values ++ others) ↔ AreEscaped values ∧ AreEscaped others :=
  List.forall_mem_append

theorem areEscaped_interpolated :
    AreEscaped (expression.interpolated.visit .values) ↔
      AreEscaped (expression.visit .values) := by
  cases expression with
  | ofPath path => exact (areEscaped_cons).trans (and_iff_right trivial)
  | _ => exact Iff.rfl

theorem areEscaped_of_value? {value : Value}
    (found : expression.value? = some value) :
    AreEscaped (value.visit .values) ↔ AreEscaped (expression.visit .values) := by
  cases expression <;> cases found
  · exact (areEscaped_cons).trans (and_iff_right trivial)
  · exact Iff.rfl

theorem areEscaped_of_reference? {reference : Reference}
    (found : expression.reference? = some reference) :
    AreEscaped (reference.path.visit .values) ↔
      AreEscaped (expression.visit .values) := by
  rcases expression with path | value | _ | _ | _
  · cases found
    exact Iff.rfl
  · cases value <;> cases found
    exact ⟨fun escaped => areEscaped_cons.mpr ⟨trivial, escaped⟩,
      fun escaped => (areEscaped_cons.mp escaped).2⟩
  all_goals cases found

theorem areEscaped_quoted (text : String) (origin : Origin) :
    AreEscaped ((Value.quoted text origin).visit .values) := by
  unfold Value.quoted
  split <;> exact areEscaped_cons.mpr ⟨trivial, areEscaped_nil⟩

theorem visit_values_place (place : Place) :
    place.visit .values = place.reference.path.visit .values := by
  cases place <;> rfl

end Escaped

end Template

namespace Lowering

open Script Template

/-- No text of a template literal in the directives of a step, or in its result,
has a quote. -/
structure Escapes (directives : List Element) (found : List Value) : Prop where
  directives : AreEscaped (visitElements .values directives)
  result : AreEscaped found

namespace Escapes

variable {before after directives : List Element}
variable {left right found : List Value}

theorem alone (escaped : AreEscaped found) : Escapes [] found :=
  ⟨areEscaped_nil, escaped⟩

theorem append (first : Escapes before left) (second : Escapes after right) :
    Escapes (before ++ after) (left ++ right) where
  directives := by
    rw [visitElements_append]
    exact areEscaped_append.mpr ⟨first.directives, second.directives⟩
  result := areEscaped_append.mpr ⟨first.result, second.result⟩

theorem replace (escapes : Escapes directives found)
    (escaped : AreEscaped found → AreEscaped right) : Escapes directives right :=
  ⟨escapes.directives, escaped escapes.result⟩

/-- A value without a text of its own stands around the result. -/
theorem within (escapes : Escapes directives found) {value : Value}
    (plain : value.IsEscaped) : Escapes directives (value :: found) :=
  escapes.replace fun escaped => areEscaped_cons.mpr ⟨plain, escaped⟩

/-- One more directive. -/
theorem assign (escapes : Escapes directives found) {place : Place}
    {value : Template.Expression} (placed : AreEscaped (place.visit .values))
    (valued : AreEscaped (value.visit .values)) (origin : Origin) :
    Escapes (directives ++ [.assign place value origin]) found where
  directives := by
    rw [visitElements_append, visitElements_singleton]
    exact areEscaped_append.mpr
      ⟨escapes.directives, areEscaped_append.mpr ⟨placed, valued⟩⟩
  result := escapes.result

/-- One more temporary takes the value of an expression. -/
theorem hoisting {number : Nat} {expression : Template.Expression}
    (escapes : Escapes directives (expression.visit .values))
    (escaped : AreEscaped found) :
    Escapes (directives ++ (Lowering.hoisting number expression).hoisted) found := by
  have named : AreEscaped
      ((Place.named (temporaryVariable number expression.origin)).visit .values) :=
    areEscaped_nil
  exact (escapes.assign named escapes.result expression.origin).replace
    fun _ => escaped

end Escapes

theorem areEscaped_assignedValue {place : Place} {right : Template.Expression}
    (placed : AreEscaped (place.reference.path.visit .values))
    (valued : AreEscaped (right.visit .values))
    (combined : Option Template.BinaryOperator) (span : Span) :
    AreEscaped ((assignedValue combined place right span).visit .values) := by
  cases combined with
  | none => exact valued
  | some operator =>
      have former : AreEscaped (place.reference.value.visit .values) :=
        areEscaped_cons.mpr ⟨trivial, placed⟩
      exact areEscaped_append.mpr ⟨former, valued⟩

/-- No text of a template literal in a derivation has a quote. -/
theorem Derives.escapes {target : Target} {task : Task} {first next : Nat}
    {result : task.Result} {effect : Effect}
    (derived : Derives target task first result next effect) :
    Escapes effect.hoisted (task.visit .values result) := by
  have nothing : Escapes [] [] := .alone areEscaped_nil
  induction derived with
  | name valid => exact nothing
  | argument bound derived escapes =>
      exact escapes.replace fun _ => areEscaped_nil
  | variableName free derived escapes =>
      rw [Effect.append_hoisted, naming_hoisted]
      exact escapes
  | number parsed => exact nothing.within trivial
  | identifierKey => exact nothing.within trivial
  | stringKey => exact .alone (areEscaped_quoted _ _)
  | numberKey parsed escapes => exact escapes
  | identifier named escapes => exact escapes
  | receiver => exact nothing
  | numeral parsed escapes => exact escapes
  | string => exact .alone (areEscaped_quoted _ _)
  | boolean => exact nothing.within trivial
  | template parts escapes =>
      exact escapes.within ⟨not_hasQuote_escapedText _, parts.escaped_parts⟩
  | array values escapes => exact escapes.within trivial
  | object members escapes => exact escapes.within trivial
  | parenthesized inner escapes =>
      exact escapes.replace areEscaped_interpolated.mpr
  | unary lowered operand escapes =>
      exact escapes.replace areEscaped_interpolated.mpr
  | binary lowered left right leftEscapes rightEscapes =>
      exact (leftEscapes.replace areEscaped_interpolated.mpr).append
        (rightEscapes.replace areEscaped_interpolated.mpr)
  | assignment combined left right placed leftEscapes rightEscapes =>
      obtain ⟨reference, referred, made⟩ := Option.bind_eq_some_iff.mp placed
      have read := Reference.place?_eq_some_iff.mp made
      have inPlace := (areEscaped_of_reference? referred).mpr leftEscapes.result
      rw [← read] at inPlace
      have inValue := areEscaped_interpolated.mpr rightEscapes.result
      refine ((leftEscapes.append rightEscapes).assign ?_ ?_ _).replace fun _ => ?_
      · rw [visit_values_place]
        exact inPlace
      · exact areEscaped_assignedValue inPlace inValue _ _
      · exact areEscaped_cons.mpr ⟨trivial, inPlace⟩
  | access base name baseEscapes nameEscapes => exact baseEscapes.append nameEscapes
  | index base value baseEscapes valueEscapes =>
      exact baseEscapes.append valueEscapes
  | rangeCall called range escapes => exact escapes
  | call called other helper escapes => exact escapes
  | methodCall base name values baseEscapes nameEscapes valuesEscape =>
      exact (baseEscapes.append nameEscapes).append valuesEscape
  | kept inner found escapes =>
      exact escapes.replace (areEscaped_of_value? found).mpr
  | hoisted inner found escapes =>
      exact escapes.hoisting (areEscaped_cons.mpr ⟨trivial, areEscaped_nil⟩)
  | keptPath inner found escapes =>
      rw [Task.visit, visit_of_path? found]
      exact escapes
  | hoistedPath inner found escapes =>
      exact escapes.hoisting areEscaped_nil
  | numberBound value escapes => exact escapes.replace fun _ => areEscaped_nil
  | referenceBound value escapes =>
      exact escapes.replace fun escaped => (areEscaped_cons.mp escaped).2
  | noValues => exact nothing
  | moreValues value values valueEscapes valuesEscape =>
      exact valueEscapes.append valuesEscape
  | part value escapes =>
      rw [Effect.append_hoisted, escaping_hoisted, List.append_nil]
      exact escapes
  | noParts => exact nothing
  | moreParts part parts partEscapes partsEscape =>
      exact partEscapes.append partsEscape
  | shorthand named escapes =>
      refine escapes.replace fun escaped => ?_
      exact areEscaped_cons.mpr ⟨trivial, areEscaped_cons.mpr ⟨trivial, escaped⟩⟩
  | property key value keyEscapes valueEscapes =>
      exact keyEscapes.append valueEscapes
  | noMembers => exact nothing
  | moreMembers member members memberEscapes membersEscape =>
      exact memberEscapes.append membersEscape
  | range lower upper lowerEscapes upperEscapes =>
      exact (lowerEscapes.append upperEscapes).within trivial
  | helperCall base name values baseEscapes nameEscapes valuesEscape =>
      exact (baseEscapes.append nameEscapes).append valuesEscape

/-! ## Statements -/

namespace Escapes

variable {directives elements : List Element} {found : List Value}

/-- The directives stand before other elements, as a result. -/
theorem placed (escapes : Escapes directives found)
    (escaped : AreEscaped found → AreEscaped (visitElements .values elements)) :
    Escapes [] (visitElements .values (directives ++ elements)) := by
  refine .alone ?_
  rw [visitElements_append]
  exact areEscaped_append.mpr ⟨escapes.directives, escaped escapes.result⟩

theorem spaced (escapes : Escapes directives (visitElements .values elements))
    (placement : Placement) :
    Escapes directives
      (visitElements .values (blankLines placement ++ elements)) := by
  rw [visitElements_append, visitElements_blankLines, List.nil_append]
  exact escapes

end Escapes

theorem areEscaped_standalone (target : Target) (source : Script.Expression)
    {reference : Reference} (escaped : AreEscaped (reference.path.visit .values)) :
    AreEscaped (visitElements .values (standalone target source reference)) := by
  have printed : AreEscaped (reference.value.visit .values) :=
    areEscaped_cons.mpr ⟨trivial, escaped⟩
  unfold standalone
  split
  · cases target with
    | appsync =>
        simp only [discardCall, Template.visitElements, Element.visit, Value.visit,
          Path.visit, visitValues, List.append_nil, areEscaped_append]
        exact ⟨areEscaped_cons.mpr ⟨trivial, areEscaped_nil⟩,
          ⟨areEscaped_nil, areEscaped_nil⟩, printed⟩
    | apigateway =>
        rw [discardCall, visitElements_singleton]
        exact printed
  · rw [Template.visitElements, Element.visit]
    exact areEscaped_append.mpr ⟨printed, areEscaped_nil⟩

theorem Yields.escapes {target : Target} {passage : Passage} {first next : Nat}
    {result : passage.Result} {effect : Effect}
    (yielded : Yields target passage first result next effect) :
    Escapes effect.hoisted (passage.visit .values result) := by
  have nothing : Escapes [] [] := .alone areEscaped_nil
  induction yielded with
  | assignment derived => exact .alone derived.escapes.directives
  | standalone alone derived referred =>
      refine derived.escapes.placed fun escaped => ?_
      exact areEscaped_standalone _ _
        ((areEscaped_of_reference? referred).mpr escaped)
  | noResult => exact nothing
  | result derived =>
      split
      · next none =>
          have escapes := derived.escapes
          rw [List.isEmpty_iff.mp none] at escapes
          exact escapes.placed fun escaped => by
            rw [visitElements_singleton]
            exact escaped
      · rw [List.append_assoc]
        refine derived.escapes.placed fun escaped => ?_
        rw [visitElements_append, visitElements_singleton, visitElements_singleton]
        exact escaped
  | uninitialised absent => exact nothing
  | initialised named valued place derived =>
      obtain ⟨valid, rfl, rfl, rfl⟩ := place.name_inversion
      refine derived.escapes.placed fun escaped => ?_
      rw [visitElements_singleton]
      exact areEscaped_interpolated.mpr escaped
  | noDeclarations => exact nothing
  | moreDeclarations declaration others declarationEscapes othersEscape =>
      rw [Passage.visit, visitElements_append]
      exact declarationEscapes.append othersEscape
  | item derived => exact derived.escapes
  | entry named keyDerived valueDerived =>
      have both := keyDerived.escapes.append valueDerived.escapes
      refine ⟨both.directives, ?_⟩
      simp [Passage.visit, Template.visitElements, entryPart, Element.visit,
        Place.visit, Template.Expression.visit, Value.visit, Path.visit,
        Visitor.values, Value.IsEscaped]
  | branch condition consequent alternative consequentEscapes restEscapes =>
      have all := ((condition.escapes.replace areEscaped_interpolated.mpr).append
        consequentEscapes).append restEscapes
      rw [Effect.append_hoisted, Effect.append_hoisted]
      simp only [Passage.visit, Clause.visit, Block.visit, List.append_assoc]
        at all ⊢
      exact all
  | noAlternative => exact nothing
  | chained parts partsEscape => exact partsEscape
  | otherwise notBranch statement statementEscapes => exact statementEscapes
  | block statements statementsEscape => exact statementsEscape.spaced _
  | evaluation evaluated evaluatedEscapes => exact evaluatedEscapes.spaced _
  | branching parts partsEscape =>
      rw [List.append_assoc]
      refine Escapes.spaced (partsEscape.placed fun escaped => ?_) _
      rw [visitElements_singleton]
      exact escaped
  | looping pattern iterable body patternEscapes bodyEscapes =>
      have all := (patternEscapes.append iterable.escapes).append bodyEscapes
      have directives := all.directives
      have inResult := all.result
      rw [List.append_assoc]
      refine Escapes.spaced ⟨?_, ?_⟩ _
      · simp only [Effect.append_hoisted, Effect.collected_hoisted,
          visitElements_append, areEscaped_append] at directives ⊢
        exact ⟨⟨directives.1.1, areEscaped_nil⟩, directives.2⟩
      · simp only [Passage.visit, Task.visit, visitElements_append,
          visitElements_singleton, Element.visit, Block.visit, areEscaped_append]
          at directives inResult ⊢
        exact ⟨directives.1.2, ⟨inResult.1.1.1, inResult.1.2⟩, inResult.1.1.2,
          inResult.2⟩
  | returning returned returnedEscapes => exact returnedEscapes.spaced _
  | declaring declared declaredEscape => exact declaredEscape.spaced _
  | noStatements => exact nothing
  | moreStatements statement others statementEscapes othersEscape =>
      rw [Passage.visit, visitElements_append]
      exact statementEscapes.append othersEscape

/-! ## Templates -/

theorem areEscaped_prelude (state : State) :
    AreEscaped (visitElements .values (prelude state)) := by
  have escape : AreEscaped (visitElements .values escapePrelude) := by
    simp [escapePrelude, Template.visitElements, Element.visit, Place.visit,
      Template.Expression.visit, Value.visit, visitEntries, MapEntry.visit,
      Visitor.values, Value.IsEscaped]
  have stringClass : AreEscaped (visitElements .values stringClassPrelude) := by
    simp [stringClassPrelude, Template.visitElements, Element.visit, Place.visit,
      Template.Expression.visit, Value.visit, Path.chain, Path.visit,
      Visitor.values, Value.IsEscaped]
  unfold prelude
  rw [visitElements_append, areEscaped_append]
  constructor
  · split
    · exact escape
    · exact areEscaped_nil
  · split
    · exact stringClass
    · exact areEscaped_nil

section Needs

variable {target : Target} {body : Script.Block}

/-- A body that is lowered reaches a text with a quote exactly if one stands in a
template literal within it. -/
theorem any_hasQuote_iff_exists_within (lowered : (Node.block body).IsLowered target) :
    (reachOfStatements body.statements).texts.any hasQuote = true ↔
      ∃ head parts span,
        (Node.block body).Within (.expression (.template head parts span)) ∧
          (hasQuote head = true ∨ ∃ part ∈ parts, hasQuote part.literal = true) := by
  have reached : ∀ text, text ∈ (reachOfStatements body.statements).texts ↔
      ∃ node, (Node.block body).Within node ∧ text ∈ node.added.texts := fun _ =>
    Node.mem_component_reach_iff_exists_within Node.isComponent_texts lowered
  rw [List.any_eq_true]
  constructor
  · rintro ⟨text, member, quoted⟩
    obtain ⟨node, within, added⟩ := (reached text).mp member
    obtain ⟨head, parts, span, rfl, texts⟩ := Node.mem_texts_added.mp added
    refine ⟨head, parts, span, within, ?_⟩
    rcases texts with rfl | ⟨part, inParts, rfl⟩
    · exact .inl quoted
    · exact .inr ⟨part, inParts, quoted⟩
  · rintro ⟨head, parts, span, within, quoted⟩
    have found : ∀ text, (text = head ∨ ∃ part ∈ parts, part.literal = text) →
        text ∈ (reachOfStatements body.statements).texts := fun text texts =>
      (reached text).mpr ⟨_, within,
        Node.mem_texts_added.mpr ⟨head, parts, span, rfl, texts⟩⟩
    rcases quoted with quoted | ⟨part, inParts, quoted⟩
    · exact ⟨head, found head (.inl rfl), quoted⟩
    · exact ⟨part.literal, found _ (.inr ⟨part, inParts, rfl⟩), quoted⟩

/-- A body that is lowered reaches a name that stands for the string class exactly
if one occurs within it. -/
theorem any_isStringClass_iff_exists_within
    (lowered : (Node.block body).IsLowered target) :
    (reachOfStatements body.statements).mentioned.any isStringClass = true ↔
      ∃ named, isStringClass named = true ∧
        ((Node.block body).Within (.expression (.identifier named)) ∨
          (Node.block body).Within (.member (.shorthand named))) := by
  have reached : ∀ named, named ∈ (reachOfStatements body.statements).mentioned ↔
      ∃ node, (Node.block body).Within node ∧ named ∈ node.added.mentioned := fun _ =>
    Node.mem_component_reach_iff_exists_within Node.isComponent_mentioned lowered
  rw [List.any_eq_true]
  constructor
  · rintro ⟨named, member, isClass⟩
    obtain ⟨node, within, added⟩ := (reached named).mp member
    refine ⟨named, isClass, ?_⟩
    rcases Node.mem_mentioned_added.mp added with rfl | rfl
    · exact .inl within
    · exact .inr within
  · rintro ⟨named, isClass, within | within⟩
    · exact ⟨named, (reached named).mpr
        ⟨_, within, Node.mem_mentioned_added.mpr (.inl rfl)⟩, isClass⟩
    · exact ⟨named, (reached named).mpr
        ⟨_, within, Node.mem_mentioned_added.mpr (.inr rfl)⟩, isClass⟩

end Needs

end Lowering

end VelocityScript
