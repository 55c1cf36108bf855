import VelocityScript.Proofs.Template.Writing

/-!
# A writer with a state

A template can also be printed without pieces: a writer keeps the text so far,
the level in force, and whether the line at hand has no text yet.  The first text
of a line is indented when it is written.  A step of printing writes what its
pieces give at the level that it starts at, and leaves that level as it was.
-/

namespace VelocityScript.Template

/-- The state of a writer. -/
structure Writer where
  text : String := ""
  depth : Nat := 0
  lineStart : Bool := true

/-- A step of printing. -/
abbrev Print := StateM Writer Unit

namespace Print

/-- Writes text on the line at hand, and the indentation before the first text of
a line.  An empty text leaves the line as it is. -/
def write (options : LayoutOptions) (content : String) : Print :=
  modify fun writer =>
    if content.isEmpty then
      writer
    else
      let level :=
        if writer.lineStart && options.indentEnabled then
          String.join (List.replicate writer.depth options.indentText)
        else
          ""
      { writer with text := writer.text ++ level ++ content, lineStart := false }

def newline : Print :=
  modify fun writer =>
    { writer with text := writer.text ++ "\n", lineStart := true }

def indent : Print :=
  modify fun writer => { writer with depth := writer.depth + 1 }

def unindent : Print :=
  modify fun writer => { writer with depth := writer.depth - 1 }

/-- One level deeper. -/
def indented (step : Print) : Print := do
  indent
  step
  unindent

/-- The end of an entry of a list or a map. -/
def endEntry (options : LayoutOptions) (isLast : Bool) : Print :=
  if isLast then
    newline
  else do
    write options ","
    newline

/-- Verbatim text, line by line. -/
def writeLines (options : LayoutOptions) : List (List Char) → Print
  | [] => return
  | [line] => write options (String.ofList line)
  | line :: others => do
      write options (String.ofList line)
      newline
      writeLines options others

end Print

open Print

mutual

def Path.print (options : LayoutOptions) : Path → Print
  | .name identifier => write options identifier.text
  | .property base member _ => do
      base.print options
      write options "."
      write options member.text
  | .index base subscript _ => do
      base.print options
      write options "["
      subscript.print options
      write options "]"
  | .call base method _ arguments _ => do
      base.print options
      write options "."
      write options method.text
      write options "("
      printArguments options arguments
      write options ")"

def Value.print (options : LayoutOptions) : Value → Print
  | .reference path _ => do
      write options path.braces.1
      path.print options
      write options path.braces.2
  | .number number _ => write options number.text
  | .string content quote _ => do
      write options (String.singleton quote.character)
      write options content
      write options (String.singleton quote.character)
  | .template head spans _ => do
      write options "\""
      write options head
      printSpans options spans
      write options "\""
  | .boolean truth _ => write options (if truth then "true" else "false")
  | .list [] _ => write options "[]"
  | .list (element :: others) _ => do
      write options "["
      newline
      indented do
        element.print options
        endEntry options others.isEmpty
        printElements options others
      write options "]"
  | .range first last _ => do
      write options "["
      first.print options
      write options ".."
      last.print options
      write options "]"
  | .map [] _ => write options "\x7b\x7d"
  | .map (entry :: others) _ => do
      write options "\x7b"
      newline
      indented do
        entry.print options
        endEntry options others.isEmpty
        printEntries options others
      write options "\x7d"

def TemplateSpan.print (options : LayoutOptions) : TemplateSpan → Print
  | .mk value literal _ => do
      value.print options
      write options literal

def RangeBound.print (options : LayoutOptions) : RangeBound → Print
  | .number number _ => write options number.text
  | .reference path _ => do
      write options path.braces.1
      path.print options
      write options path.braces.2

def MapEntry.print (options : LayoutOptions) : MapEntry → Print
  | .mk name value _ => do
      name.print options
      write options ": "
      value.print options

def printArguments (options : LayoutOptions) : List Value → Print
  | [] => return
  | argument :: others => do
      argument.print options
      printMoreArguments options others

/-- Prints the arguments after the first one. -/
def printMoreArguments (options : LayoutOptions) : List Value → Print
  | [] => return
  | argument :: others => do
      write options ", "
      argument.print options
      printMoreArguments options others

def printElements (options : LayoutOptions) : List Value → Print
  | [] => return
  | element :: others => do
      element.print options
      endEntry options others.isEmpty
      printElements options others

def printSpans (options : LayoutOptions) : List TemplateSpan → Print
  | [] => return
  | span :: others => do
      span.print options
      printSpans options others

def printEntries (options : LayoutOptions) : List MapEntry → Print
  | [] => return
  | entry :: others => do
      entry.print options
      endEntry options others.isEmpty
      printEntries options others

end

def Expression.print (options : LayoutOptions) : Expression → Print
  | .ofPath path => path.print options
  | .ofValue value => value.print options
  | .binary left operator right _ => do
      left.print options
      write options " "
      write options operator.text
      write options " "
      right.print options
  | .unary operator operand _ => do
      write options operator.text
      operand.print options
  | .parenthesized inner _ => do
      write options "("
      inner.print options
      write options ")"

mutual

def Element.print (options : LayoutOptions) : Element → Print
  | .assign place value _ => do
      write options "#set("
      place.reference.value.print options
      write options " = "
      value.print options
      write options ")"
      newline
  | .branch first others otherwise _ => do
      write options "#if("
      first.print options
      printClauses options others
      printOtherwise options otherwise
      write options "#end"
      newline
  | .loop item iterable body _ => do
      write options "#foreach("
      item.reference.value.print options
      write options " in "
      iterable.print options
      write options ")"
      newline
      indented (body.print options)
      write options "#end"
      newline
  | .emit value => value.print options
  | .text content _ =>
      writeLines options (splitWhere (· == '\n') content.toList)
  | .newLine => newline

def Block.print (options : LayoutOptions) : Block → Print
  | .mk elements _ => printBlock options elements

/-- Prints a condition, the end of its line and the guarded block. -/
def Clause.print (options : LayoutOptions) : Clause → Print
  | .mk condition body _ => do
      condition.print options
      write options ")"
      newline
      indented (body.print options)

def printBlock (options : LayoutOptions) : List Element → Print
  | [] => return
  | element :: others => do
      element.print options
      printBlock options others

/-- Prints the clauses after the first one. -/
def printClauses (options : LayoutOptions) : List Clause → Print
  | [] => return
  | clause :: others => do
      write options "#elseif("
      clause.print options
      printClauses options others

/-- Prints the block that is taken when no condition holds. -/
def printOtherwise (options : LayoutOptions) : Option Block → Print
  | none => return
  | some block => do
      write options "#else"
      newline
      indented (block.print options)

end

/-- What stands for a node of a kind that has no form of its own. -/
def Kind.placeholder (kind : Kind) : String :=
  "### " ++ kind.text ++ " not implemented ###"

/-- Prints a node, with the name of the function before a template unless comments
are stripped. -/
def Node.print (options : LayoutOptions) : Node → Print
  | .ofFile file => do
      if options.stripComments then
        file.block.print options
      else do
        write options ("## Function: " ++ file.name)
        newline
        file.block.print options
  | .ofBlock block => block.print options
  | .ofElement element => element.print options
  | .ofClause _ => write options (Kind.placeholder .conditionAndBlock)
  | .ofExpression expression => expression.print options
  | .ofSpan _ => write options (Kind.placeholder .templateSpan)
  | .ofEntry _ => write options (Kind.placeholder .propertyAssignment)

/-! ## What a step writes -/

section Steps

variable {options : LayoutOptions} {step other : Print}
variable {pieces more : Nat → List Piece}

/-- The writer after some pieces. -/
def Writer.after (options : LayoutOptions) (writer : Writer)
    (pieces : List Piece) : Writer :=
  { writer with
    text := writer.text ++
      String.ofList (written options (!writer.lineStart) pieces)
    lineStart := !isStarted (!writer.lineStart) pieces }

theorem isStarted_append (started : Bool) (first second : List Piece) :
    isStarted started (first ++ second) =
      isStarted (isStarted started first) second := by
  induction first generalizing started with
  | nil => rfl
  | cons piece rest inductionHypothesis =>
      cases piece with
      | lineBreak => exact inductionHypothesis false
      | text depth content => exact inductionHypothesis _

theorem Writer.after_after (writer : Writer) (first second : List Piece) :
    (writer.after options first).after options second =
      writer.after options (first ++ second) := by
  simp only [Writer.after, Bool.not_not, written_append, isStarted_append,
    String.ofList_append, String.append_assoc]

/-- A step writes the pieces of the level it starts at, and stays at this
level. -/
def Prints (options : LayoutOptions) (step : Print)
    (pieces : Nat → List Piece) : Prop :=
  ∀ writer : Writer,
    (step.run writer).2 = writer.after options (pieces writer.depth)

theorem prints_pure : Prints options (pure ()) fun _ => [] := by
  intro writer
  have nothing : writer.after options [] = writer := by
    simp [Writer.after, written, isStarted]
  exact nothing.symm

theorem Prints.bind (prints : Prints options step pieces)
    (others : Prints options other more) :
    Prints options (do step; other) fun depth => pieces depth ++ more depth := by
  intro writer
  have unfolded : ((do step; other : Print).run writer).2 =
      (other.run (step.run writer).2).2 := rfl
  rw [unfolded, others, prints, Writer.after_after]
  rfl

theorem ofList_indentation (depth : Nat) :
    String.ofList (indentation options depth) =
      if options.indentEnabled then
        String.join (List.replicate depth options.indentText)
      else
        "" := by
  rw [← String.toList_inj, String.toList_ofList, indentation]
  split <;> simp [String.toList_join, List.flatMap_def]

theorem prints_write (content : String) :
    Prints options (write options content) fun depth => [.text depth content] := by
  intro writer
  have unfolded : ((write options content).run writer).2 =
      if content.isEmpty then
        writer
      else
        { writer with
          text := writer.text ++
            (if writer.lineStart && options.indentEnabled then
              String.join (List.replicate writer.depth options.indentText)
            else
              "") ++ content
          lineStart := false } := rfl
  rw [unfolded]
  cases empty : content.isEmpty with
  | true => simp [Writer.after, written, isStarted, empty]
  | false =>
      cases start : writer.lineStart <;>
        simp [Writer.after, written, isStarted, empty, start,
          ofList_indentation, String.append_assoc]

theorem prints_newline : Prints options newline fun _ => [.lineBreak] := by
  intro writer
  have broken : writer.after options [.lineBreak] =
      { writer with text := writer.text ++ "\n", lineStart := true } := by
    simp [Writer.after, written, isStarted]
  exact broken.symm

theorem Prints.indented (prints : Prints options step pieces) :
    Prints options (indented step) fun depth => pieces (depth + 1) := by
  intro writer
  have unfolded : ((Print.indented step).run writer).2 =
      (unindent.run (step.run (indent.run writer).2).2).2 := rfl
  rw [unfolded, prints]
  rfl

theorem Prints.congr (prints : Prints options step pieces)
    (same : ∀ depth, pieces depth = more depth) : Prints options step more := by
  intro writer
  rw [← same]
  exact prints writer

theorem prints_endEntry (isLast : Bool) :
    Prints options (endEntry options isLast) fun depth => entryEnd depth isLast := by
  cases isLast with
  | true => exact prints_newline
  | false => exact (prints_write ",").bind prints_newline

theorem prints_writeLines (lines : List (List Char)) :
    Prints options (writeLines options lines) fun depth => verbatim depth lines := by
  match lines with
  | [] => exact prints_pure
  | [line] => exact prints_write _
  | line :: next :: others =>
      exact (prints_write _).bind
        (prints_newline.bind (prints_writeLines (next :: others)))

end Steps

/-! ## Every node is printed by its pieces -/

section Nodes

variable (options : LayoutOptions)

mutual

theorem Path.prints : ∀ path : Path,
    Prints options (path.print options) fun depth => path.pieces depth
  | .name _ => prints_write _
  | .property base _ _ => base.prints.bind ((prints_write _).bind (prints_write _))
  | .index base subscript _ =>
      base.prints.bind
        ((prints_write _).bind (subscript.prints.bind (prints_write _)))
  | .call base _ _ arguments _ =>
      base.prints.bind ((prints_write _).bind ((prints_write _).bind
        ((prints_write _).bind ((prints_arguments arguments).bind (prints_write _)))))

theorem Value.prints : ∀ value : Value,
    Prints options (value.print options) fun depth => value.pieces depth
  | .reference path _ =>
      (prints_write _).bind (path.prints.bind (prints_write _))
  | .number _ _ => prints_write _
  | .string _ _ _ => (prints_write _).bind ((prints_write _).bind (prints_write _))
  | .template _ spans _ =>
      (prints_write _).bind ((prints_write _).bind
        ((prints_spans spans).bind (prints_write _)))
  | .boolean _ _ => prints_write _
  | .list [] _ => prints_write _
  | .list (element :: others) _ => by
      have inside := element.prints.bind ((prints_endEntry others.isEmpty).bind
        (prints_elements others))
      have whole := (prints_write "[").bind (prints_newline.bind
        (inside.indented.bind (prints_write "]")))
      exact whole.congr fun depth => by simp [Value.pieces]
  | .range first last _ =>
      (prints_write _).bind (first.prints.bind
        ((prints_write _).bind (last.prints.bind (prints_write _))))
  | .map [] _ => prints_write _
  | .map (entry :: others) _ => by
      have inside := entry.prints.bind ((prints_endEntry others.isEmpty).bind
        (prints_entries others))
      have whole := (prints_write "\x7b").bind (prints_newline.bind
        (inside.indented.bind (prints_write "\x7d")))
      exact whole.congr fun depth => by simp [Value.pieces]

theorem TemplateSpan.prints : ∀ span : TemplateSpan,
    Prints options (span.print options) fun depth => span.pieces depth
  | .mk value _ _ => value.prints.bind (prints_write _)

theorem RangeBound.prints : ∀ bound : RangeBound,
    Prints options (bound.print options) fun depth => bound.pieces depth
  | .number _ _ => prints_write _
  | .reference path _ =>
      (prints_write _).bind (path.prints.bind (prints_write _))

theorem MapEntry.prints : ∀ entry : MapEntry,
    Prints options (entry.print options) fun depth => entry.pieces depth
  | .mk name value _ => name.prints.bind ((prints_write _).bind value.prints)

theorem prints_arguments : ∀ arguments : List Value,
    Prints options (printArguments options arguments) fun depth =>
      argumentPieces depth arguments
  | [] => prints_pure
  | argument :: others => argument.prints.bind (prints_moreArguments others)

theorem prints_moreArguments : ∀ arguments : List Value,
    Prints options (printMoreArguments options arguments) fun depth =>
      moreArgumentPieces depth arguments
  | [] => prints_pure
  | argument :: others =>
      (prints_write _).bind (argument.prints.bind (prints_moreArguments others))

theorem prints_elements : ∀ elements : List Value,
    Prints options (printElements options elements) fun depth =>
      elementPieces depth elements
  | [] => prints_pure
  | element :: others => by
      have whole := element.prints.bind ((prints_endEntry others.isEmpty).bind
        (prints_elements others))
      exact whole.congr fun depth => (List.append_assoc _ _ _).symm

theorem prints_spans : ∀ spans : List TemplateSpan,
    Prints options (printSpans options spans) fun depth => spanPieces depth spans
  | [] => prints_pure
  | span :: others => span.prints.bind (prints_spans others)

theorem prints_entries : ∀ entries : List MapEntry,
    Prints options (printEntries options entries) fun depth =>
      entryPieces depth entries
  | [] => prints_pure
  | entry :: others => by
      have whole := entry.prints.bind ((prints_endEntry others.isEmpty).bind
        (prints_entries others))
      exact whole.congr fun depth => (List.append_assoc _ _ _).symm

end

theorem Expression.prints (expression : Expression) :
    Prints options (expression.print options) fun depth =>
      expression.pieces depth := by
  induction expression with
  | ofPath path => exact path.prints options
  | ofValue value => exact value.prints options
  | binary left operator right origin leftPrints rightPrints =>
      exact leftPrints.bind ((prints_write _).bind ((prints_write _).bind
        ((prints_write _).bind rightPrints)))
  | unary operator operand origin operandPrints =>
      exact (prints_write _).bind operandPrints
  | parenthesized inner origin innerPrints =>
      exact (prints_write _).bind (innerPrints.bind (prints_write _))

mutual

theorem Element.prints : ∀ element : Element,
    Prints options (element.print options) fun depth => element.pieces depth
  | .assign place value _ =>
      (prints_write _).bind ((place.reference.value.prints options).bind
        ((prints_write _).bind ((value.prints options).bind
          ((prints_write _).bind prints_newline))))
  | .branch first others otherwise _ => by
      have whole := (prints_write "#if(").bind (first.prints.bind
        ((prints_clauses others).bind ((prints_otherwise otherwise).bind
          ((prints_write "#end").bind prints_newline))))
      exact whole.congr fun depth => by simp [Element.pieces]
  | .loop item iterable body _ =>
      (prints_write _).bind ((item.reference.value.prints options).bind
        ((prints_write _).bind ((iterable.prints options).bind
          ((prints_write _).bind (prints_newline.bind
            (body.prints.indented.bind ((prints_write _).bind prints_newline)))))))
  | .emit value => value.prints options
  | .text _ _ => prints_writeLines _
  | .newLine => prints_newline

theorem Block.prints : ∀ block : Block,
    Prints options (block.print options) fun depth => block.pieces depth
  | .mk elements _ => prints_block elements

theorem Clause.prints : ∀ clause : Clause,
    Prints options (clause.print options) fun depth => clause.pieces depth
  | .mk condition body _ =>
      (condition.prints options).bind ((prints_write _).bind
        (prints_newline.bind body.prints.indented))

theorem prints_block : ∀ elements : List Element,
    Prints options (printBlock options elements) fun depth =>
      blockPieces depth elements
  | [] => prints_pure
  | element :: others => element.prints.bind (prints_block others)

theorem prints_clauses : ∀ clauses : List Clause,
    Prints options (printClauses options clauses) fun depth =>
      clausePieces depth clauses
  | [] => prints_pure
  | clause :: others =>
      (prints_write _).bind (clause.prints.bind (prints_clauses others))

theorem prints_otherwise : ∀ otherwise : Option Block,
    Prints options (printOtherwise options otherwise) fun depth =>
      otherwisePieces depth otherwise
  | none => prints_pure
  | some block =>
      (prints_write _).bind (prints_newline.bind block.prints.indented)

end

/-- The pieces of a node at a level.  A node is printed at the outermost one. -/
def Node.piecesAt (stripComments : Bool) (depth : Nat) : Node → List Piece
  | .ofFile file =>
      if stripComments then
        file.block.pieces depth
      else
        .text depth ("## Function: " ++ file.name) :: .lineBreak ::
          file.block.pieces depth
  | .ofBlock block => block.pieces depth
  | .ofElement element => element.pieces depth
  | .ofClause _ => [.text depth (Kind.placeholder .conditionAndBlock)]
  | .ofExpression expression => expression.pieces depth
  | .ofSpan _ => [.text depth (Kind.placeholder .templateSpan)]
  | .ofEntry _ => [.text depth (Kind.placeholder .propertyAssignment)]

theorem Node.piecesAt_zero (stripComments : Bool) (node : Node) :
    node.piecesAt stripComments 0 = node.pieces stripComments := by
  cases node <;> rfl

theorem Node.prints (node : Node) :
    Prints options (node.print options) fun depth =>
      node.piecesAt options.stripComments depth := by
  cases node with
  | ofFile file =>
      unfold Node.print Node.piecesAt
      cases options.stripComments with
      | true => exact file.block.prints options
      | false =>
          exact (prints_write _).bind (prints_newline.bind (file.block.prints options))
  | ofBlock block => exact block.prints options
  | ofElement element => exact element.prints options
  | ofExpression expression => exact expression.prints options
  | ofClause _ | ofSpan _ | ofEntry _ => exact prints_write _

/-- Printed from the start, a node gives its text. -/
theorem Node.text_print (node : Node) :
    ((node.print options).run {}).2.text = node.render options := by
  have printed : ((node.print options).run {}).2.text =
      "" ++ String.ofList
        (written options false (node.piecesAt options.stripComments 0)) :=
    congrArg Writer.text (node.prints options {})
  rw [printed, node.piecesAt_zero, ← toList_render_node, String.ofList_toList,
    String.empty_append]

end Nodes

end VelocityScript.Template
