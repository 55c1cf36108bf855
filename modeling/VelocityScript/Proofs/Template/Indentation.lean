import VelocityScript.Proofs.Template.Contents
import VelocityScript.Proofs.Template.Writer

/-!
# Indentation

The text of a node is made of logical lines, which do not depend on how a level
is written.  Names, strings and the texts of template literals stand in one of
them each, whatever line breaks they have of their own.
-/

namespace VelocityScript.Template

/-- Collects what is printed as it stands: names, the values of strings, and the
texts of template literals. -/
def Visitor.verbatim : Visitor String where
  read name := [name]
  member name := [name]
  assigned name := [name]
  value
    | .string text _ _ => [text]
    | .template head spans _ =>
        head :: spans.map fun | .mk _ literal _ => literal
    | _ => []

/-- The texts of some pieces. -/
def contents (pieces : List Piece) : List String :=
  pieces.filterMap fun
    | .text _ content => some content
    | .lineBreak => none

section Contents

variable {depth : Nat} {content : String} {rest others : List Piece}

@[simp]
theorem contents_text :
    contents (.text depth content :: rest) = content :: contents rest := rfl

@[simp]
theorem contents_lineBreak : contents (.lineBreak :: rest) = contents rest := rfl

@[simp]
theorem contents_append : contents (rest ++ others) = contents rest ++ contents others :=
  List.filterMap_append

end Contents

/-! ## What is printed as it stands -/

mutual

theorem Path.verbatim (depth : Nat) : ∀ path : Path,
    path.visit .verbatim ⊆ contents (path.pieces depth)
  | .name _ => List.Subset.refl _
  | .property base _ _ => by
      have inBase := base.verbatim depth
      simp only [Path.visit, Path.pieces, contents_append, contents_text]
      grind [Visitor.verbatim]
  | .index base subscript _ => by
      have inBase := base.verbatim depth
      have inSubscript := subscript.verbatim depth
      simp only [Path.visit, Path.pieces, contents_append, contents_text]
      grind
  | .call base _ _ arguments _ => by
      have inBase := base.verbatim depth
      have inArguments := verbatim_arguments depth arguments
      simp only [Path.visit, Path.pieces, contents_append, contents_text]
      grind [Visitor.verbatim]

theorem Value.verbatim (depth : Nat) : ∀ value : Value,
    value.visit .verbatim ⊆ contents (value.pieces depth)
  | .reference path _ => by
      have inPath := path.verbatim depth
      simp only [Value.visit, Value.pieces, contents_append, contents_text]
      grind [Visitor.verbatim]
  | .number _ _ => List.nil_subset _
  | .string _ _ _ => by
      simp only [Value.visit, Value.pieces, contents_text]
      grind [Visitor.verbatim]
  | .template _ spans _ => by
      have inSpans := verbatim_spans depth spans
      simp only [Value.visit, Value.pieces, contents_append, contents_text]
      grind [Visitor.verbatim]
  | .boolean _ _ => List.nil_subset _
  | .list [] _ => List.nil_subset _
  | .list (element :: others) _ => by
      have inElement := element.verbatim (depth + 1)
      have inOthers := verbatim_elements (depth + 1) others
      simp only [Value.visit, visitValues, Value.pieces, contents_append,
        contents_text, contents_lineBreak]
      grind [Visitor.verbatim]
  | .range first last _ => by
      have inFirst := first.verbatim depth
      have inLast := last.verbatim depth
      simp only [Value.visit, Value.pieces, contents_append, contents_text]
      grind [Visitor.verbatim]
  | .map [] _ => List.nil_subset _
  | .map (entry :: others) _ => by
      have inEntry := entry.verbatim (depth + 1)
      have inOthers := verbatim_entries (depth + 1) others
      simp only [Value.visit, visitEntries, Value.pieces, contents_append,
        contents_text, contents_lineBreak]
      grind [Visitor.verbatim]

theorem RangeBound.verbatim (depth : Nat) : ∀ bound : RangeBound,
    bound.visit .verbatim ⊆ contents (bound.pieces depth)
  | .number _ _ => List.nil_subset _
  | .reference path _ => by
      have inPath := path.verbatim depth
      simp only [RangeBound.visit, RangeBound.pieces, contents_append,
        contents_text]
      grind

theorem MapEntry.verbatim (depth : Nat) : ∀ entry : MapEntry,
    entry.visit .verbatim ⊆ contents (entry.pieces depth)
  | .mk name value _ => by
      have inName := name.verbatim depth
      have inValue := value.verbatim depth
      simp only [MapEntry.visit, MapEntry.pieces, contents_append, contents_text]
      grind

theorem verbatim_arguments (depth : Nat) : ∀ arguments : List Value,
    visitValues .verbatim arguments ⊆ contents (argumentPieces depth arguments)
  | [] => List.nil_subset _
  | argument :: others => by
      have inArgument := argument.verbatim depth
      have inOthers := verbatim_moreArguments depth others
      simp only [visitValues, argumentPieces, contents_append]
      grind

theorem verbatim_moreArguments (depth : Nat) : ∀ arguments : List Value,
    visitValues .verbatim arguments ⊆
      contents (moreArgumentPieces depth arguments)
  | [] => List.nil_subset _
  | argument :: others => by
      have inArgument := argument.verbatim depth
      have inOthers := verbatim_moreArguments depth others
      simp only [visitValues, moreArgumentPieces, contents_append, contents_text]
      grind

theorem verbatim_elements (depth : Nat) : ∀ elements : List Value,
    visitValues .verbatim elements ⊆ contents (elementPieces depth elements)
  | [] => List.nil_subset _
  | element :: others => by
      have inElement := element.verbatim depth
      have inOthers := verbatim_elements depth others
      simp only [visitValues, elementPieces, contents_append]
      grind

/-- The texts after the interpolated values are printed, and so are the values. -/
theorem verbatim_spans (depth : Nat) : ∀ spans : List TemplateSpan,
    visitSpans .verbatim spans ++ (spans.map fun | .mk _ literal _ => literal) ⊆
      contents (spanPieces depth spans)
  | [] => List.nil_subset _
  | .mk value literal _ :: others => by
      have inValue := value.verbatim depth
      have inOthers := verbatim_spans depth others
      simp only [visitSpans, TemplateSpan.visit, spanPieces, TemplateSpan.pieces,
        contents_append, contents_text, List.map_cons]
      grind

theorem verbatim_entries (depth : Nat) : ∀ entries : List MapEntry,
    visitEntries .verbatim entries ⊆ contents (entryPieces depth entries)
  | [] => List.nil_subset _
  | entry :: others => by
      have inEntry := entry.verbatim depth
      have inOthers := verbatim_entries depth others
      simp only [visitEntries, entryPieces, contents_append]
      grind

end

theorem Expression.verbatim (depth : Nat) (expression : Expression) :
    expression.visit .verbatim ⊆ contents (expression.pieces depth) := by
  induction expression with
  | ofPath path => exact path.verbatim depth
  | ofValue value => exact value.verbatim depth
  | binary left operator right origin inLeft inRight =>
      simp only [Expression.visit, Expression.pieces, contents_append,
        contents_text]
      grind
  | unary operator operand origin inOperand =>
      exact List.subset_cons_of_subset _ inOperand
  | parenthesized inner origin inInner =>
      simp only [Expression.visit, Expression.pieces, contents_append,
        contents_text]
      grind

theorem Place.verbatim (depth : Nat) (place : Place) :
    place.visit .verbatim ⊆ contents (place.pieces depth) := by
  have inReference := place.reference.value.verbatim depth
  have same : place.visit .verbatim = place.reference.value.visit .verbatim := by
    cases place <;> rfl
  rw [same]
  exact inReference

mutual

theorem Element.verbatim (depth : Nat) : ∀ element : Element,
    element.visit .verbatim ⊆ contents (element.pieces depth)
  | .assign place value _ => by
      have inPlace := place.verbatim depth
      have inValue := value.verbatim depth
      simp only [Element.visit, Element.pieces, contents_append, contents_text]
      grind
  | .branch first others otherwise _ => by
      have inFirst := first.verbatim depth
      have inOthers := verbatim_clauses depth others
      have inOtherwise := verbatim_otherwise depth otherwise
      simp only [Element.visit, Element.pieces, contents_append, contents_text]
      grind
  | .loop item iterable body _ => by
      have inItem : [item.name.text] ⊆
          contents (item.reference.value.pieces depth) :=
        item.reference.value.verbatim depth
      have inIterable := iterable.verbatim depth
      have inBody := body.verbatim (depth + 1)
      simp only [Element.visit, Element.pieces, contents_append, contents_text,
        contents_lineBreak]
      grind [Visitor.verbatim]
  | .emit value => value.verbatim depth
  | .text _ _ | .newLine => List.nil_subset _

theorem Block.verbatim (depth : Nat) : ∀ block : Block,
    block.visit .verbatim ⊆ contents (block.pieces depth)
  | .mk elements _ => verbatim_block depth elements

theorem Clause.verbatim (depth : Nat) : ∀ clause : Clause,
    clause.visit .verbatim ⊆ contents (clause.pieces depth)
  | .mk condition body _ => by
      have inCondition := condition.verbatim depth
      have inBody := body.verbatim (depth + 1)
      simp only [Clause.visit, Clause.pieces, contents_append, contents_text,
        contents_lineBreak]
      grind

theorem verbatim_block (depth : Nat) : ∀ elements : List Element,
    visitElements .verbatim elements ⊆ contents (blockPieces depth elements)
  | [] => List.nil_subset _
  | element :: others => by
      have inElement := element.verbatim depth
      have inOthers := verbatim_block depth others
      simp only [visitElements, blockPieces, contents_append]
      grind

theorem verbatim_clauses (depth : Nat) : ∀ clauses : List Clause,
    visitClauses .verbatim clauses ⊆ contents (clausePieces depth clauses)
  | [] => List.nil_subset _
  | clause :: others => by
      have inClause := clause.verbatim depth
      have inOthers := verbatim_clauses depth others
      simp only [visitClauses, clausePieces, contents_append, contents_text]
      grind

theorem verbatim_otherwise (depth : Nat) : ∀ otherwise : Option Block,
    visitOtherwise .verbatim otherwise ⊆ contents (otherwisePieces depth otherwise)
  | none => List.nil_subset _
  | some block => List.subset_cons_of_subset _ (block.verbatim (depth + 1))

end

/-- What is printed of a node as it stands.  A clause, an interpolation and an entry
have no form of their own. -/
def Node.verbatim : Node → List String
  | .ofFile file => file.visit .verbatim
  | .ofBlock block => block.visit .verbatim
  | .ofElement element => element.visit .verbatim
  | .ofExpression expression => expression.visit .verbatim
  | .ofClause _ | .ofSpan _ | .ofEntry _ => []

theorem Node.verbatim_subset (stripComments : Bool) (node : Node) :
    node.verbatim ⊆ contents (node.pieces stripComments) := by
  cases node with
  | ofFile file =>
      have inBlock : file.visit .verbatim ⊆ contents (file.block.pieces 0) :=
        file.block.verbatim 0
      cases stripComments with
      | true => exact inBlock
      | false => exact List.subset_cons_of_subset _ inBlock
  | ofBlock block => exact block.verbatim 0
  | ofElement element => exact element.verbatim 0
  | ofExpression expression => exact expression.verbatim 0
  | ofClause _ | ofSpan _ | ofEntry _ => exact List.nil_subset _

/-! ## Lines -/

theorem lines_ne_nil (pieces : List Piece) : lines pieces ≠ [] := by
  obtain ⟨first, others, made, -⟩ := written_eq {} pieces
  rw [made]
  exact List.cons_ne_nil first others

/-- The text of a piece stands in one line. -/
theorem exists_line_of_mem_contents {text : String} {pieces : List Piece}
    (member : text ∈ contents pieces) :
    ∃ line ∈ lines pieces, text.toList <:+: line.content.toList := by
  induction pieces with
  | nil => cases member
  | cons piece rest inductionHypothesis =>
      cases piece with
      | lineBreak =>
          obtain ⟨line, inLines, stands⟩ := inductionHypothesis member
          exact ⟨line, List.mem_cons_of_mem _ inLines, stands⟩
      | text depth content =>
          obtain ⟨first, others, made⟩ :=
            List.exists_cons_of_ne_nil (lines_ne_nil rest)
          rw [made] at inductionHypothesis
          rw [lines, made]
          cases empty : content.isEmpty with
          | true =>
              rcases List.mem_cons.mp member with rfl | later
              · refine ⟨first, List.mem_cons_self, ?_⟩
                rw [String.isEmpty_iff.mp empty]
                exact List.nil_infix
              · exact inductionHypothesis later
          | false =>
              rcases List.mem_cons.mp member with rfl | later
              · refine ⟨_, List.mem_cons_self, ?_⟩
                rw [String.toList_append]
                exact (List.prefix_append _ _).isInfix
              · obtain ⟨line, inLines, stands⟩ := inductionHypothesis later
                rcases List.mem_cons.mp inLines with rfl | inOthers
                · refine ⟨_, List.mem_cons_self, ?_⟩
                  rw [String.toList_append]
                  exact stands.trans (List.suffix_append _ _).isInfix
                · exact ⟨line, List.mem_cons_of_mem _ inOthers, stands⟩

/-- An empty line stays empty, and another one has its level in front if levels are
written. -/
theorem Line.render_eq (options : LayoutOptions) (line : Line) :
    line.render options =
      if line.content = "" then
        ""
      else
        (if options.indentEnabled then
          String.join (List.replicate line.depth options.indentText)
        else
          "") ++ line.content := by
  unfold Line.render
  by_cases empty : line.content = ""
  · simp [empty]
  · cases options.indentEnabled <;> simp [empty]

theorem join_replicate_empty (count : Nat) :
    String.join (List.replicate count "") = "" := by
  rw [← String.toList_inj, String.toList_join]
  simp

/-- Where levels are not written, they are written as nothing. -/
theorem render_disabled (node : Node) (stripComments : Bool) (indentText : String) :
    node.render ⟨false, indentText, stripComments⟩ =
      node.render ⟨true, "", stripComments⟩ := by
  unfold Node.render renderLines
  refine congrArg _ (List.map_congr_left fun line _ => ?_)
  simp only [Line.render_eq, join_replicate_empty, Bool.false_eq_true, if_false,
    if_true]

theorem lines_banner (file : File) :
    (Node.ofFile file).lines false =
      ⟨0, "## Function: " ++ file.name⟩ :: (Node.ofFile file).lines true := by
  have full : ("## Function: " ++ file.name).isEmpty = false := by
    rw [String.isEmpty_eq_false_iff]
    simp
  have pieces : (Node.ofFile file).pieces false =
      .text 0 ("## Function: " ++ file.name) :: .lineBreak ::
        (Node.ofFile file).pieces true := rfl
  rw [Node.lines, Node.lines, pieces, lines, lines]
  simp only [full, Bool.false_eq_true, if_false, String.append_empty]

/-- The banner stands on a line of its own, in front of what is printed without
comments. -/
theorem render_banner (file : File) (indentEnabled : Bool) (indentText : String) :
    file.render ⟨indentEnabled, indentText, false⟩ =
      "## Function: " ++ file.name ++ "\n" ++
        file.render ⟨indentEnabled, indentText, true⟩ := by
  obtain ⟨first, others, made⟩ :=
    List.exists_cons_of_ne_nil (lines_ne_nil ((Node.ofFile file).pieces true))
  have bare : (Node.ofFile file).lines true = first :: others := made
  have banner : Line.render ⟨indentEnabled, indentText, false⟩
      ⟨0, "## Function: " ++ file.name⟩ = "## Function: " ++ file.name := by
    rw [Line.render_eq]
    simp
  unfold File.render Node.render renderLines
  rw [lines_banner, bare, List.map_cons, List.map_cons,
    String.intercalate_cons_cons, banner]
  rfl

/-- The text of a node is made of lines that do not depend on how a level is
written: these lines between line breaks, each that is not empty with its level in
front.  A writer gives the same text, and is at the level that it started at when
a node is printed.  What stands in a node as it is stands in one of the lines.
Without indentation the text is that with empty levels, and a template with
comments is its banner and the template without comments. -/
theorem indentation_changes_indentation_only :
    (∀ (node : Node) (stripComments : Bool), ∃ logical : List Line,
      (∀ indentEnabled indentText,
        let options : LayoutOptions := ⟨indentEnabled, indentText, stripComments⟩
        node.render options =
            String.intercalate "\n" (logical.map fun line =>
              if line.content = "" then
                ""
              else
                (if indentEnabled then
                  String.join (List.replicate line.depth indentText)
                else
                  "") ++ line.content) ∧
          ((node.print options).run {}).2.text = node.render options ∧
          ∀ writer : Writer,
            ((node.print options).run writer).2.depth = writer.depth) ∧
      ∀ text ∈ node.verbatim,
        ∃ line ∈ logical, text.toList <:+: line.content.toList) ∧
    (∀ (node : Node) (stripComments : Bool) (indentText : String),
      node.render ⟨false, indentText, stripComments⟩ =
        node.render ⟨true, "", stripComments⟩) ∧
    ∀ (file : File) (indentEnabled : Bool) (indentText : String),
      file.render ⟨indentEnabled, indentText, false⟩ =
        "## Function: " ++ file.name ++ "\n" ++
          file.render ⟨indentEnabled, indentText, true⟩ := by
  refine ⟨fun node stripComments => ⟨node.lines stripComments, ?_, ?_⟩,
    render_disabled, render_banner⟩
  · intro indentEnabled indentText options
    refine ⟨?_, node.text_print options, ?_⟩
    · unfold Node.render renderLines
      refine congrArg _ (List.map_congr_left fun line _ => ?_)
      rw [Line.render_eq]
    · intro writer
      rw [node.prints options writer]
      rfl
  · intro text member
    exact exists_line_of_mem_contents (node.verbatim_subset stripComments member)

/-- An entry with a line break of its own stands in one line. -/
theorem indentation_changes_indentation_only_entry :
    let text := "a\nb"
    let node := Node.ofExpression (.ofValue (.list [.string text .double none] none))
    (∃ logical : List Line,
      "[\n\t\"a\nb\"\n]" =
          String.intercalate "\n" (logical.map fun line =>
            if line.content = "" then
              ""
            else
              String.join (List.replicate line.depth "\t") ++ line.content) ∧
        ∃ line ∈ logical, text.toList <:+: line.content.toList) ∧
      ((node.print ⟨true, "\t", false⟩).run {}).2.text = "[\n\t\"a\nb\"\n]" ∧
      node.render ⟨false, "\t", false⟩ = node.render ⟨true, "", false⟩ := by
  intro text node
  obtain ⟨layouts, disabled, -⟩ := indentation_changes_indentation_only
  obtain ⟨logical, laid, verbatim⟩ := layouts node false
  obtain ⟨rendered, printed, -⟩ := laid true "\t"
  have found : node.render ⟨true, "\t", false⟩ = "[\n\t\"a\nb\"\n]" := by
    decide +kernel
  rw [found] at rendered printed
  exact ⟨⟨logical, rendered, verbatim text List.mem_cons_self⟩, printed,
    disabled node false "\t"⟩

end VelocityScript.Template
