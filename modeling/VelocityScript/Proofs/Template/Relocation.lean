import VelocityScript.Proofs.Template.Contents

/-!
# Relocated templates

A template is relocated when the regions that its nodes come from are moved.
Nothing else about it changes.
-/

namespace VelocityScript.Template

def Identifier.relocate (move : Span → Span) (identifier : Identifier) :
    Identifier :=
  { identifier with origin := identifier.origin.map move }

mutual

/-- A path with the origins of its nodes moved. -/
def Path.relocate (move : Span → Span) : Path → Path
  | .name identifier => .name (identifier.relocate move)
  | .property base name origin =>
      .property (base.relocate move) (name.relocate move) (origin.map move)
  | .index base subscript origin =>
      .index (base.relocate move) (subscript.relocate move) (origin.map move)
  | .call base method calleeOrigin arguments origin =>
      .call (base.relocate move) (method.relocate move) (calleeOrigin.map move)
        (relocateValues move arguments) (origin.map move)

def Value.relocate (move : Span → Span) : Value → Value
  | .reference path origin => .reference (path.relocate move) (origin.map move)
  | .number value origin => .number value (origin.map move)
  | .string text quote origin => .string text quote (origin.map move)
  | .template head spans origin =>
      .template head (relocateSpans move spans) (origin.map move)
  | .boolean value origin => .boolean value (origin.map move)
  | .list elements origin =>
      .list (relocateValues move elements) (origin.map move)
  | .range first last origin =>
      .range (first.relocate move) (last.relocate move) (origin.map move)
  | .map entries origin => .map (relocateEntries move entries) (origin.map move)

def relocateValues (move : Span → Span) : List Value → List Value
  | [] => []
  | value :: others => value.relocate move :: relocateValues move others

def TemplateSpan.relocate (move : Span → Span) : TemplateSpan → TemplateSpan
  | .mk value literal origin => .mk (value.relocate move) literal (origin.map move)

def relocateSpans (move : Span → Span) : List TemplateSpan → List TemplateSpan
  | [] => []
  | span :: others => span.relocate move :: relocateSpans move others

def RangeBound.relocate (move : Span → Span) : RangeBound → RangeBound
  | .number value origin => .number value (origin.map move)
  | .reference path origin => .reference (path.relocate move) (origin.map move)

def MapEntry.relocate (move : Span → Span) : MapEntry → MapEntry
  | .mk name value origin =>
      .mk (name.relocate move) (value.relocate move) (origin.map move)

def relocateEntries (move : Span → Span) : List MapEntry → List MapEntry
  | [] => []
  | entry :: others => entry.relocate move :: relocateEntries move others

end

def Reference.relocate (move : Span → Span) (reference : Reference) : Reference :=
  ⟨reference.path.relocate move, reference.origin.map move⟩

def Variable.relocate (move : Span → Span) (target : Variable) : Variable :=
  ⟨target.name.relocate move, target.origin.map move⟩

def Expression.relocate (move : Span → Span) : Expression → Expression
  | .ofPath path => .ofPath (path.relocate move)
  | .ofValue value => .ofValue (value.relocate move)
  | .binary left operator right origin =>
      .binary (left.relocate move) operator (right.relocate move)
        (origin.map move)
  | .unary operator operand origin =>
      .unary operator (operand.relocate move) (origin.map move)
  | .parenthesized inner origin =>
      .parenthesized (inner.relocate move) (origin.map move)

def Place.relocate (move : Span → Span) : Place → Place
  | .named target => .named (target.relocate move)
  | .property base name accessOrigin origin =>
      .property (base.relocate move) (name.relocate move) (accessOrigin.map move)
        (origin.map move)
  | .index base subscript accessOrigin origin =>
      .index (base.relocate move) (subscript.relocate move)
        (accessOrigin.map move) (origin.map move)

mutual

/-- An element with the origins of its nodes moved. -/
def Element.relocate (move : Span → Span) : Element → Element
  | .assign place value origin =>
      .assign (place.relocate move) (value.relocate move) (origin.map move)
  | .branch first others otherwise origin =>
      .branch (first.relocate move) (relocateClauses move others)
        (relocateOtherwise move otherwise) (origin.map move)
  | .loop item iterable body origin =>
      .loop (item.relocate move) (iterable.relocate move) (body.relocate move)
        (origin.map move)
  | .emit value => .emit (value.relocate move)
  | .text text origin => .text text (origin.map move)
  | .newLine => .newLine

def relocateElements (move : Span → Span) : List Element → List Element
  | [] => []
  | element :: others => element.relocate move :: relocateElements move others

def Block.relocate (move : Span → Span) : Block → Block
  | .mk elements origin => .mk (relocateElements move elements) (origin.map move)

def Clause.relocate (move : Span → Span) : Clause → Clause
  | .mk condition body origin =>
      .mk (condition.relocate move) (body.relocate move) (origin.map move)

def relocateClauses (move : Span → Span) : List Clause → List Clause
  | [] => []
  | clause :: others => clause.relocate move :: relocateClauses move others

def relocateOtherwise (move : Span → Span) : Option Block → Option Block
  | none => none
  | some block => some (block.relocate move)

end

def File.relocate (move : Span → Span) (file : File) : File :=
  { name := file.name
    block := file.block.relocate move
    origin := file.origin.map move }

/-- A template up to where its nodes come from. -/
def File.withoutOrigins (file : File) : File :=
  file.relocate fun _ => ⟨0, 0⟩

variable (move : Span → Span)

theorem relocateElements_append (elements others : List Element) :
    relocateElements move (elements ++ others) =
      relocateElements move elements ++ relocateElements move others := by
  induction elements with
  | nil => rfl
  | cons element rest inductionHypothesis =>
      exact congrArg (element.relocate move :: ·) inductionHypothesis

theorem isEmpty_relocateElements (elements : List Element) :
    (relocateElements move elements).isEmpty = elements.isEmpty := by
  cases elements <;> rfl

theorem origin_relocate_path (path : Path) :
    (path.relocate move).origin = path.origin.map move := by
  cases path <;> rfl

theorem origin_relocate_value (value : Value) :
    (value.relocate move).origin = value.origin.map move := by
  cases value <;> rfl

theorem origin_relocate (expression : Expression) :
    (expression.relocate move).origin = expression.origin.map move := by
  cases expression with
  | ofPath path => exact origin_relocate_path move path
  | ofValue value => exact origin_relocate_value move value
  | _ => rfl

theorem quoted_relocate (text : String) (origin : Origin) :
    (Value.quoted text origin).relocate move = .quoted text (origin.map move) := by
  unfold Value.quoted
  split <;> rfl

theorem interpolated_relocate (expression : Expression) :
    (expression.relocate move).interpolated =
      expression.interpolated.relocate move := by
  cases expression with
  | ofPath path =>
      simp only [Expression.relocate, Expression.interpolated,
        origin_relocate_path]
      rfl
  | _ => rfl

theorem value?_relocate (expression : Expression) :
    (expression.relocate move).value? =
      expression.value?.map (Value.relocate move) := by
  cases expression with
  | ofPath path =>
      simp only [Expression.relocate, Expression.value?, origin_relocate_path]
      rfl
  | _ => rfl

theorem path?_relocate (expression : Expression) :
    (expression.relocate move).path? =
      expression.path?.map (Path.relocate move) := by
  cases expression <;> rfl

theorem reference?_relocate (expression : Expression) :
    (expression.relocate move).reference? =
      expression.reference?.map (Reference.relocate move) := by
  cases expression with
  | ofPath path =>
      simp only [Expression.relocate, Expression.reference?,
        origin_relocate_path]
      rfl
  | ofValue value => cases value <;> rfl
  | _ => rfl

theorem place?_relocate (reference : Reference) :
    (reference.relocate move).place? =
      reference.place?.map (Place.relocate move) := by
  obtain ⟨path, origin⟩ := reference
  cases path <;> rfl

theorem reference_relocate (place : Place) :
    (place.relocate move).reference = place.reference.relocate move := by
  cases place <;> rfl

theorem kind_relocate (expression : Expression) :
    (expression.relocate move).kind = expression.kind := by
  cases expression with
  | ofPath path => cases path <;> rfl
  | ofValue value =>
      cases value with
      | reference path origin => cases path <;> rfl
      | _ => rfl
  | _ => rfl

/-! ## Visits of relocated templates -/

section Visits

variable {Found : Type} {visitor : Visitor Found}

mutual

/-- Names are found wherever they come from. -/
theorem Path.visit_relocate (valueless : ∀ value, visitor.value value = []) :
    ∀ path : Path, (path.relocate move).visit visitor = path.visit visitor
  | .name _ => rfl
  | .property base _ _ => by
      have bases := base.visit_relocate valueless
      simp only [Path.relocate, Path.visit, bases, Identifier.relocate]
  | .index base subscript _ => by
      have bases := base.visit_relocate valueless
      have subscripts := subscript.visit_relocate valueless
      simp only [Path.relocate, Path.visit, bases, subscripts]
  | .call base _ _ arguments _ => by
      have bases := base.visit_relocate valueless
      have values := visitValues_relocate valueless arguments
      simp only [Path.relocate, Path.visit, bases, values, Identifier.relocate]

theorem Value.visit_relocate (valueless : ∀ value, visitor.value value = []) :
    ∀ value : Value, (value.relocate move).visit visitor = value.visit visitor
  | .reference path _ => by
      have paths := path.visit_relocate valueless
      simp only [Value.relocate, Value.visit, valueless, paths]
  | .number _ _ | .string _ _ _ | .boolean _ _ => by
      simp only [Value.relocate, Value.visit, valueless]
  | .template _ spans _ => by
      have values := visitSpans_relocate valueless spans
      simp only [Value.relocate, Value.visit, valueless, values]
  | .list elements _ => by
      have values := visitValues_relocate valueless elements
      simp only [Value.relocate, Value.visit, valueless, values]
  | .range first last _ => by
      have firsts := first.visit_relocate valueless
      have lasts := last.visit_relocate valueless
      simp only [Value.relocate, Value.visit, valueless, firsts, lasts]
  | .map entries _ => by
      have values := visitEntries_relocate valueless entries
      simp only [Value.relocate, Value.visit, valueless, values]

theorem visitValues_relocate (valueless : ∀ value, visitor.value value = []) :
    ∀ values : List Value,
      visitValues visitor (relocateValues move values) = visitValues visitor values
  | [] => rfl
  | value :: others => by
      have here := value.visit_relocate valueless
      have rest := visitValues_relocate valueless others
      simp only [relocateValues, visitValues, here, rest]

theorem TemplateSpan.visit_relocate
    (valueless : ∀ value, visitor.value value = []) :
    ∀ span : TemplateSpan, (span.relocate move).visit visitor = span.visit visitor
  | .mk value _ _ => value.visit_relocate valueless

theorem visitSpans_relocate (valueless : ∀ value, visitor.value value = []) :
    ∀ spans : List TemplateSpan,
      visitSpans visitor (relocateSpans move spans) = visitSpans visitor spans
  | [] => rfl
  | span :: others => by
      have here := span.visit_relocate valueless
      have rest := visitSpans_relocate valueless others
      simp only [relocateSpans, visitSpans, here, rest]

theorem RangeBound.visit_relocate
    (valueless : ∀ value, visitor.value value = []) :
    ∀ bound : RangeBound, (bound.relocate move).visit visitor = bound.visit visitor
  | .number _ _ => rfl
  | .reference path _ => path.visit_relocate valueless

theorem MapEntry.visit_relocate (valueless : ∀ value, visitor.value value = []) :
    ∀ entry : MapEntry, (entry.relocate move).visit visitor = entry.visit visitor
  | .mk name value _ => by
      have names := name.visit_relocate valueless
      have values := value.visit_relocate valueless
      simp only [MapEntry.relocate, MapEntry.visit, names, values]

theorem visitEntries_relocate (valueless : ∀ value, visitor.value value = []) :
    ∀ entries : List MapEntry,
      visitEntries visitor (relocateEntries move entries) =
        visitEntries visitor entries
  | [] => rfl
  | entry :: others => by
      have here := entry.visit_relocate valueless
      have rest := visitEntries_relocate valueless others
      simp only [relocateEntries, visitEntries, here, rest]

end

theorem Expression.visit_relocate (valueless : ∀ value, visitor.value value = [])
    (expression : Expression) :
    (expression.relocate move).visit visitor = expression.visit visitor := by
  induction expression with
  | ofPath path => exact path.visit_relocate move valueless
  | ofValue value => exact value.visit_relocate move valueless
  | binary left operator right origin leftSame rightSame =>
      simp only [Expression.relocate, Expression.visit, leftSame, rightSame]
  | unary operator operand origin same => exact same
  | parenthesized inner origin same => exact same

theorem Place.visit_relocate (valueless : ∀ value, visitor.value value = [])
    (place : Place) : (place.relocate move).visit visitor = place.visit visitor := by
  cases place with
  | named target => rfl
  | property base name accessOrigin origin =>
      simp only [Place.relocate, Place.visit, base.visit_relocate move valueless,
        Identifier.relocate]
  | index base subscript accessOrigin origin =>
      simp only [Place.relocate, Place.visit, base.visit_relocate move valueless,
        subscript.visit_relocate move valueless]

mutual

theorem Element.visit_relocate (valueless : ∀ value, visitor.value value = []) :
    ∀ element : Element, (element.relocate move).visit visitor = element.visit visitor
  | .assign place value _ => by
      simp only [Element.relocate, Element.visit,
        place.visit_relocate move valueless, value.visit_relocate move valueless]
  | .branch first others otherwise _ => by
      have firsts := first.visit_relocate valueless
      have rest := visitClauses_relocate valueless others
      have last := visitOtherwise_relocate valueless otherwise
      simp only [Element.relocate, Element.visit, firsts, rest, last]
  | .loop item iterable body _ => by
      have bodies := body.visit_relocate valueless
      simp only [Element.relocate, Element.visit,
        iterable.visit_relocate move valueless, bodies, Variable.relocate,
        Identifier.relocate]
  | .emit value => value.visit_relocate move valueless
  | .text _ _ | .newLine => rfl

theorem Block.visit_relocate (valueless : ∀ value, visitor.value value = []) :
    ∀ block : Block, (block.relocate move).visit visitor = block.visit visitor
  | .mk elements _ => visitElements_relocate valueless elements

theorem Clause.visit_relocate (valueless : ∀ value, visitor.value value = []) :
    ∀ clause : Clause, (clause.relocate move).visit visitor = clause.visit visitor
  | .mk condition body _ => by
      have bodies := body.visit_relocate valueless
      simp only [Clause.relocate, Clause.visit,
        condition.visit_relocate move valueless, bodies]

theorem visitElements_relocate (valueless : ∀ value, visitor.value value = []) :
    ∀ elements : List Element,
      visitElements visitor (relocateElements move elements) =
        visitElements visitor elements
  | [] => rfl
  | element :: others => by
      have here := element.visit_relocate valueless
      have rest := visitElements_relocate valueless others
      simp only [relocateElements, visitElements, here, rest]

theorem visitClauses_relocate (valueless : ∀ value, visitor.value value = []) :
    ∀ clauses : List Clause,
      visitClauses visitor (relocateClauses move clauses) =
        visitClauses visitor clauses
  | [] => rfl
  | clause :: others => by
      have here := clause.visit_relocate valueless
      have rest := visitClauses_relocate valueless others
      simp only [relocateClauses, visitClauses, here, rest]

theorem visitOtherwise_relocate (valueless : ∀ value, visitor.value value = []) :
    ∀ otherwise : Option Block,
      visitOtherwise visitor (relocateOtherwise move otherwise) =
        visitOtherwise visitor otherwise
  | none => rfl
  | some block => block.visit_relocate valueless

end

theorem File.visit_withoutOrigins (valueless : ∀ value, visitor.value value = [])
    (file : File) : file.withoutOrigins.visit visitor = file.visit visitor :=
  file.block.visit_relocate (fun _ => ⟨0, 0⟩) valueless

end Visits

end VelocityScript.Template
