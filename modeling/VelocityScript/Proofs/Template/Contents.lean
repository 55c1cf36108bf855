import VelocityScript.Template.Printer

/-!
# What stands in a template

One walk meets all names and values of a template, in document order.  What it
collects is a parameter: the names that are read, the variables that are set,
all names, or all values.
-/

namespace VelocityScript.Template

/-- What a walk collects: at a variable that is read, at a property or a method,
at a variable that is set, and at a value. -/
structure Visitor (Found : Type) where
  read : String → List Found := fun _ => []
  member : String → List Found := fun _ => []
  assigned : String → List Found := fun _ => []
  value : Value → List Found := fun _ => []

namespace Visitor

/-- Collects all names. -/
def names : Visitor String where
  read name := [name]
  member name := [name]
  assigned name := [name]

/-- Collects the variables that are read. -/
def reads : Visitor String where
  read name := [name]

/-- Collects the variables that are set, by a directive or by a loop. -/
def targets : Visitor String where
  assigned name := [name]

/-- Collects all values. -/
def values : Visitor Value where
  value found := [found]

end Visitor

variable {Found : Type}

mutual

def Path.visit (visitor : Visitor Found) : Path → List Found
  | .name identifier => visitor.read identifier.text
  | .property base name _ => base.visit visitor ++ visitor.member name.text
  | .index base subscript _ => base.visit visitor ++ subscript.visit visitor
  | .call base method _ arguments _ =>
      base.visit visitor ++ visitor.member method.text ++
        visitValues visitor arguments

/-- What is found at a value, and below it. -/
def Value.visit (visitor : Visitor Found) : Value → List Found
  | .reference path origin =>
      visitor.value (.reference path origin) ++ path.visit visitor
  | .number number origin => visitor.value (.number number origin)
  | .string content quote origin =>
      visitor.value (.string content quote origin)
  | .template head spans origin =>
      visitor.value (.template head spans origin) ++ visitSpans visitor spans
  | .boolean truth origin => visitor.value (.boolean truth origin)
  | .list elements origin =>
      visitor.value (.list elements origin) ++ visitValues visitor elements
  | .range first last origin =>
      visitor.value (.range first last origin) ++ first.visit visitor ++
        last.visit visitor
  | .map entries origin =>
      visitor.value (.map entries origin) ++ visitEntries visitor entries

def TemplateSpan.visit (visitor : Visitor Found) : TemplateSpan → List Found
  | .mk value _ _ => value.visit visitor

def RangeBound.visit (visitor : Visitor Found) : RangeBound → List Found
  | .number _ _ => []
  | .reference path _ => path.visit visitor

def MapEntry.visit (visitor : Visitor Found) : MapEntry → List Found
  | .mk name value _ => name.visit visitor ++ value.visit visitor

/-- What is found in several values. -/
def visitValues (visitor : Visitor Found) : List Value → List Found
  | [] => []
  | value :: others => value.visit visitor ++ visitValues visitor others

def visitSpans (visitor : Visitor Found) : List TemplateSpan → List Found
  | [] => []
  | span :: others => span.visit visitor ++ visitSpans visitor others

def visitEntries (visitor : Visitor Found) : List MapEntry → List Found
  | [] => []
  | entry :: others => entry.visit visitor ++ visitEntries visitor others

end

def Expression.visit (visitor : Visitor Found) : Expression → List Found
  | .ofPath path => path.visit visitor
  | .ofValue value => value.visit visitor
  | .binary left _ right _ => left.visit visitor ++ right.visit visitor
  | .unary _ operand _ => operand.visit visitor
  | .parenthesized inner _ => inner.visit visitor

/-- What is found in a place that is set.  Only a variable as a whole is set
itself; otherwise what the property or the index belongs to is read. -/
def Place.visit (visitor : Visitor Found) : Place → List Found
  | .named target => visitor.assigned target.name.text
  | .property base name _ _ => base.visit visitor ++ visitor.member name.text
  | .index base subscript _ _ => base.visit visitor ++ subscript.visit visitor

mutual

def Element.visit (visitor : Visitor Found) : Element → List Found
  | .assign place value _ => place.visit visitor ++ value.visit visitor
  | .branch first others otherwise _ =>
      first.visit visitor ++ visitClauses visitor others ++
        visitOtherwise visitor otherwise
  | .loop item iterable body _ =>
      visitor.assigned item.name.text ++ iterable.visit visitor ++
        body.visit visitor
  | .emit value => value.visit visitor
  | .text _ _ | .newLine => []

def Block.visit (visitor : Visitor Found) : Block → List Found
  | .mk elements _ => visitElements visitor elements

def Clause.visit (visitor : Visitor Found) : Clause → List Found
  | .mk condition body _ => condition.visit visitor ++ body.visit visitor

/-- What is found in several elements. -/
def visitElements (visitor : Visitor Found) : List Element → List Found
  | [] => []
  | element :: others => element.visit visitor ++ visitElements visitor others

def visitClauses (visitor : Visitor Found) : List Clause → List Found
  | [] => []
  | clause :: others => clause.visit visitor ++ visitClauses visitor others

/-- What is found in the block that is taken when no condition holds. -/
def visitOtherwise (visitor : Visitor Found) : Option Block → List Found
  | none => []
  | some block => block.visit visitor

end

def File.visit (visitor : Visitor Found) (file : File) : List Found :=
  file.block.visit visitor

theorem visitElements_append (visitor : Visitor Found)
    (first second : List Element) :
    visitElements visitor (first ++ second) =
      visitElements visitor first ++ visitElements visitor second := by
  induction first with
  | nil => rfl
  | cons element others inductionHypothesis =>
      simp only [List.cons_append, visitElements, inductionHypothesis,
        List.append_assoc]

theorem visitElements_singleton (visitor : Visitor Found) (element : Element) :
    visitElements visitor [element] = element.visit visitor :=
  List.append_nil _

theorem visitSpans_append (visitor : Visitor Found)
    (first second : List TemplateSpan) :
    visitSpans visitor (first ++ second) =
      visitSpans visitor first ++ visitSpans visitor second := by
  induction first with
  | nil => rfl
  | cons span others inductionHypothesis =>
      simp only [List.cons_append, visitSpans, inductionHypothesis,
        List.append_assoc]

/-! ## Walks that find nothing in values -/

/-- A visitor that looks for nothing that stands in a value. -/
structure Visitor.Barren (visitor : Visitor Found) : Prop where
  read : ∀ name, visitor.read name = []
  member : ∀ name, visitor.member name = []
  value : ∀ value, visitor.value value = []

theorem Visitor.targets_barren : Visitor.targets.Barren :=
  ⟨fun _ => rfl, fun _ => rfl, fun _ => rfl⟩

section Barren

variable {visitor : Visitor Found}

mutual

theorem Path.visit_eq_nil (barren : visitor.Barren) :
    ∀ path : Path, path.visit visitor = []
  | .name _ => barren.read _
  | .property base _ _ => by
      rw [Path.visit, base.visit_eq_nil barren, barren.member, List.append_nil]
  | .index base subscript _ => by
      rw [Path.visit, base.visit_eq_nil barren, subscript.visit_eq_nil barren,
        List.append_nil]
  | .call base _ _ arguments _ => by
      rw [Path.visit, base.visit_eq_nil barren, barren.member,
        visitValues_eq_nil barren arguments, List.append_nil, List.append_nil]

theorem Value.visit_eq_nil (barren : visitor.Barren) :
    ∀ value : Value, value.visit visitor = []
  | .reference path _ => by
      rw [Value.visit, barren.value, path.visit_eq_nil barren, List.append_nil]
  | .number _ _ => barren.value _
  | .string _ _ _ => barren.value _
  | .template _ spans _ => by
      rw [Value.visit, barren.value, visitSpans_eq_nil barren spans,
        List.append_nil]
  | .boolean _ _ => barren.value _
  | .list elements _ => by
      rw [Value.visit, barren.value, visitValues_eq_nil barren elements,
        List.append_nil]
  | .range first last _ => by
      rw [Value.visit, barren.value, first.visit_eq_nil barren,
        last.visit_eq_nil barren, List.append_nil, List.append_nil]
  | .map entries _ => by
      rw [Value.visit, barren.value, visitEntries_eq_nil barren entries,
        List.append_nil]

theorem RangeBound.visit_eq_nil (barren : visitor.Barren) :
    ∀ bound : RangeBound, bound.visit visitor = []
  | .number _ _ => rfl
  | .reference path _ => path.visit_eq_nil barren

theorem visitValues_eq_nil (barren : visitor.Barren) :
    ∀ values : List Value, visitValues visitor values = []
  | [] => rfl
  | value :: others => by
      rw [visitValues, value.visit_eq_nil barren,
        visitValues_eq_nil barren others, List.append_nil]

theorem visitSpans_eq_nil (barren : visitor.Barren) :
    ∀ spans : List TemplateSpan, visitSpans visitor spans = []
  | [] => rfl
  | .mk value _ _ :: others => by
      rw [visitSpans, TemplateSpan.visit, value.visit_eq_nil barren,
        visitSpans_eq_nil barren others, List.append_nil]

theorem visitEntries_eq_nil (barren : visitor.Barren) :
    ∀ entries : List MapEntry, visitEntries visitor entries = []
  | [] => rfl
  | .mk name value _ :: others => by
      rw [visitEntries, MapEntry.visit, name.visit_eq_nil barren,
        value.visit_eq_nil barren, visitEntries_eq_nil barren others,
        List.append_nil, List.append_nil]

end

theorem Expression.visit_eq_nil (barren : visitor.Barren)
    (expression : Expression) :
    expression.visit visitor = [] := by
  induction expression with
  | ofPath path => exact path.visit_eq_nil barren
  | ofValue value => exact value.visit_eq_nil barren
  | binary left operator right origin leftNil rightNil =>
      rw [Expression.visit, leftNil, rightNil, List.append_nil]
  | unary operator operand origin operandNil => exact operandNil
  | parenthesized inner origin innerNil => exact innerNil

end Barren

/-! ## The same nodes in other forms -/

section Forms

variable {visitor : Visitor Found} (valueless : ∀ value, visitor.value value = [])

include valueless

theorem visit_interpolated (expression : Expression) :
    expression.interpolated.visit visitor = expression.visit visitor := by
  cases expression with
  | ofPath path =>
      simp only [Expression.interpolated, Expression.visit, Value.visit,
        valueless, List.nil_append]
  | _ => rfl

theorem visit_of_value? {expression : Expression} {value : Value}
    (found : expression.value? = some value) :
    value.visit visitor = expression.visit visitor := by
  cases expression <;> cases found
  · simp only [Expression.visit, Value.visit, valueless, List.nil_append]
  · rfl

theorem visit_of_reference? {expression : Expression} {reference : Reference}
    (found : expression.reference? = some reference) :
    reference.path.visit visitor = expression.visit visitor := by
  rcases expression with path | value | _ | _ | _
  · cases found
    rfl
  · cases value <;> cases found
    simp only [Expression.visit, Value.visit, valueless, List.nil_append]
  all_goals cases found

theorem visit_quoted (text : String) (origin : Origin) :
    (Value.quoted text origin).visit visitor = [] := by
  unfold Value.quoted
  split <;> exact valueless _

end Forms

theorem visit_of_path? {visitor : Visitor Found} {expression : Expression}
    {path : Path} (found : expression.path? = some path) :
    path.visit visitor = expression.visit visitor := by
  cases expression <;> cases found
  rfl

/-! ## Where a value stands -/

/-- A value stands among some pieces and names: its own pieces are among them,
one after the other, and so are its names. -/
structure StandsIn (value : Value) (pieces : List Piece)
    (names : List String) : Prop where
  printed : ∃ depth, value.pieces depth <:+: pieces
  named : value.visit .names ⊆ names

namespace StandsIn

variable {value : Value} {pieces : List Piece} {names : List String}

theorem self (value : Value) (depth : Nat) :
    StandsIn value (value.pieces depth) (value.visit .names) :=
  ⟨⟨depth, List.infix_refl _⟩, List.Subset.refl _⟩

theorem before (stands : StandsIn value pieces names) (others : List Piece) :
    StandsIn value (pieces ++ others) names := by
  obtain ⟨depth, found⟩ := stands.printed
  exact ⟨⟨depth, found.trans (List.prefix_append pieces others).isInfix⟩,
    stands.named⟩

theorem after (stands : StandsIn value pieces names) (others : List Piece) :
    StandsIn value (others ++ pieces) names := by
  obtain ⟨depth, found⟩ := stands.printed
  exact ⟨⟨depth, found.trans (List.suffix_append others pieces).isInfix⟩,
    stands.named⟩

theorem cons (stands : StandsIn value pieces names) (piece : Piece) :
    StandsIn value (piece :: pieces) names :=
  stands.after [piece]

theorem inFirst (stands : StandsIn value pieces names) (others : List String) :
    StandsIn value pieces (names ++ others) :=
  ⟨stands.printed, List.subset_append_of_subset_left others stands.named⟩

theorem inSecond (stands : StandsIn value pieces names) (others : List String) :
    StandsIn value pieces (others ++ names) :=
  ⟨stands.printed, List.subset_append_of_subset_right others stands.named⟩

end StandsIn

variable {value : Value}

mutual

theorem Path.standsIn (depth : Nat) :
    ∀ path : Path, value ∈ path.visit .values →
      StandsIn value (path.pieces depth) (path.visit .names)
  | .name _, member => by cases member
  | .property base _ _, member => by
      have inBase : value ∈ base.visit .values := by
        simpa [Path.visit, Visitor.values] using member
      exact ((base.standsIn depth inBase).before _).inFirst _
  | .index base subscript _, member => by
      rcases List.mem_append.mp member with inBase | inSubscript
      · exact ((base.standsIn depth inBase).before _).inFirst _
      · have stands := subscript.standsIn depth inSubscript
        exact (((stands.before _).cons _).after _).inSecond _
  | .call base _ _ arguments _, member => by
      rcases List.mem_append.mp member with inCallee | inArguments
      · have inBase : value ∈ base.visit .values := by
          simpa [Visitor.values] using inCallee
        have stands := base.standsIn depth inBase
        exact ((stands.before _).inFirst _).inFirst _
      · have stands := argumentPieces_standsIn depth arguments inArguments
        exact (((((stands.before _).cons _).cons _).cons _).after _).inSecond _

theorem Value.standsIn (depth : Nat) :
    ∀ outer : Value, value ∈ outer.visit .values →
      StandsIn value (outer.pieces depth) (outer.visit .names)
  | .reference path origin, member => by
      rcases List.mem_append.mp member with here | inPath
      · rw [List.mem_singleton.mp here]
        exact .self _ depth
      · exact ((path.standsIn depth inPath).before _).cons _
  | .number number origin, member => by
      rw [List.mem_singleton.mp member]
      exact .self _ depth
  | .string content quote origin, member => by
      rw [List.mem_singleton.mp member]
      exact .self _ depth
  | .template head spans origin, member => by
      rcases List.mem_append.mp member with here | inSpans
      · rw [List.mem_singleton.mp here]
        exact .self _ depth
      · exact (((spanPieces_standsIn depth spans inSpans).before _).cons _).cons _
  | .boolean truth origin, member => by
      rw [List.mem_singleton.mp member]
      exact .self _ depth
  | .list [] origin, member => by
      rw [List.mem_singleton.mp member]
      exact .self _ depth
  | .list (element :: others) origin, member => by
      rcases List.mem_append.mp member with here | inElements
      · rw [List.mem_singleton.mp here]
        exact .self _ depth
      · refine ((StandsIn.before ?_ _).cons _).cons _
        rcases List.mem_append.mp inElements with inFirst | inOthers
        · have stands := element.standsIn (depth + 1) inFirst
          exact ((stands.before _).before _).inFirst _
        · have stands := elementPieces_standsIn (depth + 1) others inOthers
          exact (stands.after _).inSecond _
  | .range first last origin, member => by
      rcases List.mem_append.mp member with inFirst | inLast
      · rcases List.mem_append.mp inFirst with here | inFirst
        · rw [List.mem_singleton.mp here]
          exact .self _ depth
        · exact (((first.standsIn depth inFirst).before _).cons _).inFirst _
      · have stands := last.standsIn depth inLast
        exact ((((stands.before _).cons _).after _).cons _).inSecond _
  | .map [] origin, member => by
      rw [List.mem_singleton.mp member]
      exact .self _ depth
  | .map (entry :: others) origin, member => by
      rcases List.mem_append.mp member with here | inEntries
      · rw [List.mem_singleton.mp here]
        exact .self _ depth
      · refine ((StandsIn.before ?_ _).cons _).cons _
        rcases List.mem_append.mp inEntries with inFirst | inOthers
        · have stands := entry.standsIn (depth + 1) inFirst
          exact ((stands.before _).before _).inFirst _
        · have stands := entryPieces_standsIn (depth + 1) others inOthers
          exact (stands.after _).inSecond _

theorem TemplateSpan.standsIn (depth : Nat) :
    ∀ span : TemplateSpan, value ∈ span.visit .values →
      StandsIn value (span.pieces depth) (span.visit .names)
  | .mk inner _ _, member => (inner.standsIn depth member).before _

theorem RangeBound.standsIn (depth : Nat) :
    ∀ bound : RangeBound, value ∈ bound.visit .values →
      StandsIn value (bound.pieces depth) (bound.visit .names)
  | .number _ _, member => by cases member
  | .reference path _, member => ((path.standsIn depth member).before _).cons _

theorem MapEntry.standsIn (depth : Nat) :
    ∀ entry : MapEntry, value ∈ entry.visit .values →
      StandsIn value (entry.pieces depth) (entry.visit .names)
  | .mk name inner _, member => by
      rcases List.mem_append.mp member with inName | inValue
      · exact ((name.standsIn depth inName).before _).inFirst _
      · exact (((inner.standsIn depth inValue).cons _).after _).inSecond _

theorem argumentPieces_standsIn (depth : Nat) :
    ∀ arguments : List Value, value ∈ visitValues .values arguments →
      StandsIn value (argumentPieces depth arguments)
        (visitValues .names arguments)
  | [], member => by cases member
  | argument :: others, member => by
      rcases List.mem_append.mp member with inFirst | inOthers
      · exact ((argument.standsIn depth inFirst).before _).inFirst _
      · have stands := moreArgumentPieces_standsIn depth others inOthers
        exact (stands.after _).inSecond _

theorem moreArgumentPieces_standsIn (depth : Nat) :
    ∀ arguments : List Value, value ∈ visitValues .values arguments →
      StandsIn value (moreArgumentPieces depth arguments)
        (visitValues .names arguments)
  | [], member => by cases member
  | argument :: others, member => by
      rcases List.mem_append.mp member with inFirst | inOthers
      · exact (((argument.standsIn depth inFirst).before _).cons _).inFirst _
      · have stands := moreArgumentPieces_standsIn depth others inOthers
        exact ((stands.after _).cons _).inSecond _

theorem elementPieces_standsIn (depth : Nat) :
    ∀ elements : List Value, value ∈ visitValues .values elements →
      StandsIn value (elementPieces depth elements)
        (visitValues .names elements)
  | [], member => by cases member
  | element :: others, member => by
      rcases List.mem_append.mp member with inFirst | inOthers
      · exact (((element.standsIn depth inFirst).before _).before _).inFirst _
      · have stands := elementPieces_standsIn depth others inOthers
        exact (stands.after _).inSecond _

theorem spanPieces_standsIn (depth : Nat) :
    ∀ spans : List TemplateSpan, value ∈ visitSpans .values spans →
      StandsIn value (spanPieces depth spans) (visitSpans .names spans)
  | [], member => by cases member
  | span :: others, member => by
      rcases List.mem_append.mp member with inFirst | inOthers
      · exact ((span.standsIn depth inFirst).before _).inFirst _
      · exact ((spanPieces_standsIn depth others inOthers).after _).inSecond _

theorem entryPieces_standsIn (depth : Nat) :
    ∀ entries : List MapEntry, value ∈ visitEntries .values entries →
      StandsIn value (entryPieces depth entries) (visitEntries .names entries)
  | [], member => by cases member
  | entry :: others, member => by
      rcases List.mem_append.mp member with inFirst | inOthers
      · exact (((entry.standsIn depth inFirst).before _).before _).inFirst _
      · exact ((entryPieces_standsIn depth others inOthers).after _).inSecond _

end

theorem Expression.standsIn (depth : Nat) (expression : Expression)
    (member : value ∈ expression.visit .values) :
    StandsIn value (expression.pieces depth) (expression.visit .names) := by
  induction expression with
  | ofPath path => exact path.standsIn depth member
  | ofValue inner => exact Value.standsIn depth inner member
  | binary left operator right origin leftStands rightStands =>
      rcases List.mem_append.mp member with inLeft | inRight
      · exact ((leftStands inLeft).before _).inFirst _
      · exact (((((rightStands inRight).cons _).cons _).cons _).after
          _).inSecond _
  | unary operator operand origin operandStands =>
      exact (operandStands member).cons _
  | parenthesized inner origin innerStands =>
      exact ((innerStands member).before _).cons _

/-- What stands in a place stands in the reference to it. -/
theorem Place.standsIn (depth : Nat) (place : Place)
    (member : value ∈ place.visit .values) :
    StandsIn value (place.pieces depth) (place.visit .names) := by
  cases place with
  | named target => cases member
  | property base name accessOrigin origin =>
      have stands := (Path.property base name accessOrigin).standsIn depth member
      exact (stands.before _).cons _
  | index base subscript accessOrigin origin =>
      have stands := (Path.index base subscript accessOrigin).standsIn depth member
      exact (stands.before _).cons _

mutual

theorem Element.standsIn (depth : Nat) :
    ∀ element : Element, value ∈ element.visit .values →
      StandsIn value (element.pieces depth) (element.visit .names)
  | .assign place assigned _, member => by
      rcases List.mem_append.mp member with inPlace | inValue
      · exact (((place.standsIn depth inPlace).before _).cons _).inFirst _
      · have stands := assigned.standsIn depth inValue
        exact ((((stands.before _).cons _).after _).cons _).inSecond _
  | .branch first others otherwise _, member => by
      refine (StandsIn.before ?_ _).cons _
      rcases List.mem_append.mp member with inClauses | inOtherwise
      · refine (StandsIn.before ?_ _).inFirst _
        rcases List.mem_append.mp inClauses with inFirst | inOthers
        · exact ((first.standsIn depth inFirst).before _).inFirst _
        · exact ((clausePieces_standsIn depth others inOthers).after _).inSecond
            _
      · have stands := otherwisePieces_standsIn depth otherwise inOtherwise
        exact (stands.after _).inSecond _
  | .loop item iterable body _, member => by
      have inside : value ∈ iterable.visit .values ++ body.visit .values :=
        member
      refine ((StandsIn.cons ?_ _).after _).cons _
      rcases List.mem_append.mp inside with inIterable | inBody
      · have stands := Value.standsIn depth iterable inIterable
        exact ((stands.before _).inSecond _).inFirst _
      · have stands := body.standsIn (depth + 1) inBody
        exact ((((stands.before _).cons _).cons _).after _).inSecond _
  | .emit emitted, member => Value.standsIn depth emitted member
  | .text _ _, member => by cases member
  | .newLine, member => by cases member

theorem Block.standsIn (depth : Nat) :
    ∀ block : Block, value ∈ block.visit .values →
      StandsIn value (block.pieces depth) (block.visit .names)
  | .mk elements _, member => blockPieces_standsIn depth elements member

theorem Clause.standsIn (depth : Nat) :
    ∀ clause : Clause, value ∈ clause.visit .values →
      StandsIn value (clause.pieces depth) (clause.visit .names)
  | .mk condition body _, member => by
      rcases List.mem_append.mp member with inCondition | inBody
      · exact ((condition.standsIn depth inCondition).before _).inFirst _
      · have stands := body.standsIn (depth + 1) inBody
        exact (((stands.cons _).cons _).after _).inSecond _

theorem blockPieces_standsIn (depth : Nat) :
    ∀ elements : List Element, value ∈ visitElements .values elements →
      StandsIn value (blockPieces depth elements)
        (visitElements .names elements)
  | [], member => by cases member
  | element :: others, member => by
      rcases List.mem_append.mp member with inFirst | inOthers
      · exact ((element.standsIn depth inFirst).before _).inFirst _
      · exact ((blockPieces_standsIn depth others inOthers).after _).inSecond _

theorem clausePieces_standsIn (depth : Nat) :
    ∀ clauses : List Clause, value ∈ visitClauses .values clauses →
      StandsIn value (clausePieces depth clauses) (visitClauses .names clauses)
  | [], member => by cases member
  | clause :: others, member => by
      rcases List.mem_append.mp member with inFirst | inOthers
      · exact (((clause.standsIn depth inFirst).before _).cons _).inFirst _
      · have stands := clausePieces_standsIn depth others inOthers
        exact ((stands.after _).cons _).inSecond _

theorem otherwisePieces_standsIn (depth : Nat) :
    ∀ otherwise : Option Block, value ∈ visitOtherwise .values otherwise →
      StandsIn value (otherwisePieces depth otherwise)
        (visitOtherwise .names otherwise)
  | none, member => by cases member
  | some block, member => ((block.standsIn (depth + 1) member).cons _).cons _

end

/-- Every value of a template is printed in its text. -/
theorem File.standsIn {file : File} (stripComments : Bool)
    (member : value ∈ file.visit .values) :
    StandsIn value (file.pieces stripComments) (file.visit .names) := by
  have stands := file.block.standsIn 0 member
  unfold File.pieces
  split
  · exact stands
  · exact (stands.cons _).cons _

end VelocityScript.Template
