import VelocityScript.Proofs.Script.Relocation

/-!
# Relocating twice

Moving the parts of a script twice moves them once, along the composition of
the two moves.  So a script that is read further on is the same one as far as
spans are left out.
-/

namespace VelocityScript.Script

variable (first second : Span → Span)

theorem relocate_relocate_identifier (named : Identifier) :
    (named.relocate first).relocate second = named.relocate (second ∘ first) :=
  rfl

mutual

theorem relocate_relocate_expression : ∀ source : Expression,
    (source.relocate first).relocate second = source.relocate (second ∘ first)
  | .identifier _ | .receiver _ | .number _ _ | .string _ _ | .boolean _ _
  | .other _ _ => rfl
  | .template head parts span => by
      simp only [Expression.relocate, relocate_relocate_parts parts,
        Function.comp_apply]
  | .array elements span => by
      simp only [Expression.relocate, relocate_relocate_expressions elements,
        Function.comp_apply]
  | .object members span => by
      simp only [Expression.relocate, relocate_relocate_members members,
        Function.comp_apply]
  | .parenthesized inner span => by
      simp only [Expression.relocate, relocate_relocate_expression inner,
        Function.comp_apply]
  | .unary operator operand span => by
      simp only [Expression.relocate, relocate_relocate_expression operand,
        Function.comp_apply]
  | .binary operator left right span => by
      simp only [Expression.relocate, relocate_relocate_expression left,
        relocate_relocate_expression right, Function.comp_apply]
  | .assignment operator place value span => by
      simp only [Expression.relocate, relocate_relocate_expression place,
        relocate_relocate_expression value, Function.comp_apply]
  | .member object property isPrivate span => by
      simp only [Expression.relocate, relocate_relocate_expression object,
        relocate_relocate_identifier, Function.comp_apply]
  | .index object subscript span => by
      simp only [Expression.relocate, relocate_relocate_expression object,
        relocate_relocate_expression subscript, Function.comp_apply]
  | .call callee arguments returns span => by
      simp only [Expression.relocate, relocate_relocate_expression callee,
        relocate_relocate_expressions arguments, Function.comp_apply]

theorem relocate_relocate_expressions : ∀ sources : List Expression,
    relocateExpressions second (relocateExpressions first sources) =
      relocateExpressions (second ∘ first) sources
  | [] => rfl
  | source :: others => by
      simp only [relocateExpressions, relocate_relocate_expression source,
        relocate_relocate_expressions others]

theorem relocate_relocate_parts : ∀ parts : List TemplatePart,
    relocateParts second (relocateParts first parts) =
      relocateParts (second ∘ first) parts
  | [] => rfl
  | .mk source literal :: others => by
      simp only [relocateParts, TemplatePart.relocate,
        relocate_relocate_expression source, relocate_relocate_parts others]

theorem relocate_relocate_members : ∀ members : List ObjectMember,
    relocateMembers second (relocateMembers first members) =
      relocateMembers (second ∘ first) members
  | [] => rfl
  | .shorthand _ :: others => by
      simp only [relocateMembers, ObjectMember.relocate,
        relocate_relocate_identifier, relocate_relocate_members others]
  | .property name value span :: others => by
      simp only [relocateMembers, ObjectMember.relocate,
        relocate_relocate_propertyName name, relocate_relocate_expression value,
        relocate_relocate_members others, Function.comp_apply]
  | .other kind span :: others => by
      simp only [relocateMembers, ObjectMember.relocate,
        relocate_relocate_members others, Function.comp_apply]

theorem relocate_relocate_propertyName : ∀ name : PropertyName,
    (name.relocate first).relocate second = name.relocate (second ∘ first)
  | .identifier _ | .string _ _ | .number _ _ | .privateName _ _ => rfl
  | .computed source span => by
      simp only [PropertyName.relocate, relocate_relocate_expression source,
        Function.comp_apply]

end

mutual

theorem relocate_relocate_bindingName : ∀ name : BindingName,
    (name.relocate first).relocate second = name.relocate (second ∘ first)
  | .identifier _ => rfl
  | .array elements span => by
      simp only [BindingName.relocate, relocate_relocate_bindings elements,
        Function.comp_apply]
  | .object properties span => by
      simp only [BindingName.relocate, relocate_relocate_patterns properties,
        Function.comp_apply]

theorem relocate_relocate_bindings : ∀ elements : List BindingElement,
    relocateBindings second (relocateBindings first elements) =
      relocateBindings (second ∘ first) elements
  | [] => rfl
  | .hole :: others => by
      simp only [relocateBindings, relocate_relocate_bindings others]
  | .bound name :: others => by
      simp only [relocateBindings, relocate_relocate_bindingName name,
        relocate_relocate_bindings others]

theorem relocate_relocate_patterns : ∀ names : List BindingName,
    relocatePatterns second (relocatePatterns first names) =
      relocatePatterns (second ∘ first) names
  | [] => rfl
  | name :: others => by
      simp only [relocatePatterns, relocate_relocate_bindingName name,
        relocate_relocate_patterns others]

end

theorem relocate_relocate_initial (initial : Option Expression) :
    (initial.map (Expression.relocate first)).map (Expression.relocate second) =
      initial.map (Expression.relocate (second ∘ first)) := by
  rw [Option.map_map]
  exact Option.map_congr fun source _ =>
    relocate_relocate_expression first second source

theorem relocate_relocate_declaration (declared : Declaration) :
    (declared.relocate first).relocate second =
      declared.relocate (second ∘ first) := by
  simp only [Declaration.relocate, relocate_relocate_bindingName,
    relocate_relocate_initial, Function.comp_apply]

theorem relocate_relocate_declarations (declared : List Declaration) :
    (declared.map (Declaration.relocate first)).map
        (Declaration.relocate second) =
      declared.map (Declaration.relocate (second ∘ first)) := by
  rw [List.map_map]
  exact List.map_congr_left fun source _ =>
    relocate_relocate_declaration first second source

theorem relocate_relocate_header (header : LoopHeader) :
    (header.relocate first).relocate second =
      header.relocate (second ∘ first) := by
  cases header with
  | declaration declared =>
      exact congrArg LoopHeader.declaration
        (relocate_relocate_declaration first second declared)
  | expression assigned =>
      exact congrArg LoopHeader.expression
        (relocate_relocate_expression first second assigned)

theorem relocate_relocate_placement (placement : Placement) :
    (placement.relocate first).relocate second =
      placement.relocate (second ∘ first) :=
  rfl

mutual

/-- Relocating twice relocates once. -/
theorem relocate_relocate : ∀ source : Statement,
    (source.relocate first).relocate second = source.relocate (second ∘ first)
  | .block statements placement => by
      simp only [Statement.relocate, relocate_relocate_statements statements,
        relocate_relocate_placement]
  | .expression evaluated placement => by
      simp only [Statement.relocate, relocate_relocate_expression,
        relocate_relocate_placement]
  | .branch condition consequent alternative placement => by
      simp only [Statement.relocate, relocate_relocate_expression,
        relocate_relocate consequent, relocate_relocate_alternative alternative,
        relocate_relocate_placement]
  | .loop header iterable body placement => by
      simp only [Statement.relocate, relocate_relocate_header,
        relocate_relocate_expression, relocate_relocate body,
        relocate_relocate_placement]
  | .result returned placement => by
      simp only [Statement.relocate, relocate_relocate_initial,
        relocate_relocate_placement]
  | .declarations keyword declared placement => by
      simp only [Statement.relocate, relocate_relocate_declarations,
        relocate_relocate_placement]
  | .other kind placement => rfl

theorem relocate_relocate_statements : ∀ statements : List Statement,
    relocateStatements second (relocateStatements first statements) =
      relocateStatements (second ∘ first) statements
  | [] => rfl
  | statement :: others => by
      simp only [relocateStatements, relocate_relocate statement,
        relocate_relocate_statements others]

theorem relocate_relocate_alternative : ∀ source : Option Statement,
    relocateAlternative second (relocateAlternative first source) =
      relocateAlternative (second ∘ first) source
  | none => rfl
  | some statement => by
      simp only [relocateAlternative, relocate_relocate statement]

end

end VelocityScript.Script
