import VelocityScript.Number.Decimal
import VelocityScript.Template.Layout
import VelocityScript.Template.Tree
import VelocityScript.Template.Walk
import VelocityScript.Text.Split

/-!
# Printing templates

A directive ends its line, and its body stands one level deeper.  So do the
entries of lists and maps, one a line.
-/

namespace VelocityScript.Template

def entryEnd (depth : Nat) (isLast : Bool) : List Piece :=
  if isLast then [.lineBreak] else [.text depth ",", .lineBreak]

/-- Verbatim text, each of its lines at the given level. -/
def verbatim (depth : Nat) : List (List Char) → List Piece
  | [] => []
  | [line] => [.text depth (String.ofList line)]
  | line :: others =>
      .text depth (String.ofList line) :: .lineBreak :: verbatim depth others

/-- The opening and the closing of a reference: a variable has no braces. -/
def Path.braces : Path → String × String
  | .name _ => ("$", "")
  | _ => ("$\x7b", "\x7d")

mutual

def Path.pieces (depth : Nat) : Path → List Piece
  | .name identifier => [.text depth identifier.text]
  | .property base member _ =>
      base.pieces depth ++ [.text depth ".", .text depth member.text]
  | .index base subscript _ =>
      base.pieces depth ++
        .text depth "[" :: (subscript.pieces depth ++ [.text depth "]"])
  | .call base method _ arguments _ =>
      base.pieces depth ++ .text depth "." :: .text depth method.text ::
        .text depth "(" :: (argumentPieces depth arguments ++ [.text depth ")"])

def Value.pieces (depth : Nat) : Value → List Piece
  | .reference path _ =>
      .text depth path.braces.1 ::
        (path.pieces depth ++ [.text depth path.braces.2])
  | .number number _ => [.text depth number.text]
  | .string content quote _ =>
      let mark := .text depth (String.singleton quote.character)
      [mark, .text depth content, mark]
  | .template head spans _ =>
      .text depth "\"" :: .text depth head ::
        (spanPieces depth spans ++ [.text depth "\""])
  | .boolean truth _ => [.text depth (if truth then "true" else "false")]
  | .list [] _ => [.text depth "[]"]
  | .list (element :: others) _ =>
      .text depth "[" :: .lineBreak ::
        (element.pieces (depth + 1) ++ entryEnd (depth + 1) others.isEmpty ++
          elementPieces (depth + 1) others ++ [.text depth "]"])
  | .range first last _ =>
      .text depth "[" ::
        (first.pieces depth ++ .text depth ".." ::
          (last.pieces depth ++ [.text depth "]"]))
  | .map [] _ => [.text depth "\x7b\x7d"]
  | .map (entry :: others) _ =>
      .text depth "\x7b" :: .lineBreak ::
        (entry.pieces (depth + 1) ++ entryEnd (depth + 1) others.isEmpty ++
          entryPieces (depth + 1) others ++ [.text depth "\x7d"])

def TemplateSpan.pieces (depth : Nat) : TemplateSpan → List Piece
  | .mk value literal _ => value.pieces depth ++ [.text depth literal]

/-- The pieces of the end of a range. -/
def RangeBound.pieces (depth : Nat) : RangeBound → List Piece
  | .number number _ => [.text depth number.text]
  | .reference path _ =>
      .text depth path.braces.1 ::
        (path.pieces depth ++ [.text depth path.braces.2])

def MapEntry.pieces (depth : Nat) : MapEntry → List Piece
  | .mk name value _ =>
      name.pieces depth ++ .text depth ": " :: value.pieces depth

def argumentPieces (depth : Nat) : List Value → List Piece
  | [] => []
  | argument :: others =>
      argument.pieces depth ++ moreArgumentPieces depth others

/-- The pieces of the arguments after the first one. -/
def moreArgumentPieces (depth : Nat) : List Value → List Piece
  | [] => []
  | argument :: others =>
      .text depth ", " ::
        (argument.pieces depth ++ moreArgumentPieces depth others)

def elementPieces (depth : Nat) : List Value → List Piece
  | [] => []
  | element :: others =>
      element.pieces depth ++ entryEnd depth others.isEmpty ++
        elementPieces depth others

/-- The pieces of the interpolations of a template literal. -/
def spanPieces (depth : Nat) : List TemplateSpan → List Piece
  | [] => []
  | span :: others => span.pieces depth ++ spanPieces depth others

/-- The pieces of the entries of a map after the first one. -/
def entryPieces (depth : Nat) : List MapEntry → List Piece
  | [] => []
  | entry :: others =>
      entry.pieces depth ++ entryEnd depth others.isEmpty ++
        entryPieces depth others

end

def Expression.pieces (depth : Nat) : Expression → List Piece
  | .ofPath path => path.pieces depth
  | .ofValue value => value.pieces depth
  | .binary left operator right _ =>
      left.pieces depth ++ .text depth " " :: .text depth operator.text ::
        .text depth " " :: right.pieces depth
  | .unary operator operand _ =>
      .text depth operator.text :: operand.pieces depth
  | .parenthesized inner _ =>
      .text depth "(" :: (inner.pieces depth ++ [.text depth ")"])

def Place.pieces (depth : Nat) (place : Place) : List Piece :=
  place.reference.value.pieces depth

mutual

def Element.pieces (depth : Nat) : Element → List Piece
  | .assign place value _ =>
      .text depth "#set(" ::
        (place.pieces depth ++ .text depth " = " ::
          (value.pieces depth ++ [.text depth ")", .lineBreak]))
  | .branch first others otherwise _ =>
      .text depth "#if(" ::
        (first.pieces depth ++ clausePieces depth others ++
          otherwisePieces depth otherwise ++ [.text depth "#end", .lineBreak])
  | .loop item iterable body _ =>
      .text depth "#foreach(" ::
        (item.reference.value.pieces depth ++ .text depth " in " ::
          (iterable.pieces depth ++ .text depth ")" :: .lineBreak ::
            (body.pieces (depth + 1) ++ [.text depth "#end", .lineBreak])))
  | .emit value => value.pieces depth
  | .text content _ =>
      verbatim depth (splitWhere (· == '\n') content.toList)
  | .newLine => [.lineBreak]

def Block.pieces (depth : Nat) : Block → List Piece
  | .mk elements _ => blockPieces depth elements

/-- The pieces of a condition, the end of its line and the guarded block. -/
def Clause.pieces (depth : Nat) : Clause → List Piece
  | .mk condition body _ =>
      condition.pieces depth ++ .text depth ")" :: .lineBreak ::
        body.pieces (depth + 1)

def blockPieces (depth : Nat) : List Element → List Piece
  | [] => []
  | element :: others => element.pieces depth ++ blockPieces depth others

/-- The pieces of the clauses after the first one. -/
def clausePieces (depth : Nat) : List Clause → List Piece
  | [] => []
  | clause :: others =>
      .text depth "#elseif(" ::
        (clause.pieces depth ++ clausePieces depth others)

/-- The pieces of the block that is taken when no condition holds. -/
def otherwisePieces (depth : Nat) : Option Block → List Piece
  | none => []
  | some block =>
      .text depth "#else" :: .lineBreak :: block.pieces (depth + 1)

end

/-- The text that stands for a node which has no form of its own. -/
def placeholder (kind : Kind) : List Piece :=
  [.text 0 ("### " ++ kind.text ++ " not implemented ###")]

/-- The pieces of a template: a banner with the name of the function, unless
comments are stripped, and the block. -/
def File.pieces (stripComments : Bool) (file : File) : List Piece :=
  if stripComments then
    file.block.pieces 0
  else
    .text 0 ("## Function: " ++ file.name) :: .lineBreak :: file.block.pieces 0

def Node.pieces (stripComments : Bool) : Node → List Piece
  | .ofFile file => file.pieces stripComments
  | .ofBlock block => block.pieces 0
  | .ofElement element => element.pieces 0
  | .ofClause _ => placeholder .conditionAndBlock
  | .ofExpression expression => expression.pieces 0
  | .ofSpan _ => placeholder .templateSpan
  | .ofEntry _ => placeholder .propertyAssignment

/-- The logical lines of a node.  They do not depend on how a level is
written. -/
def Node.lines (stripComments : Bool) (node : Node) : List Line :=
  Template.lines (node.pieces stripComments)

/-- The text of a node. -/
def Node.render (options : LayoutOptions) (node : Node) : String :=
  renderLines options (node.lines options.stripComments)

/-- The text of a template. -/
def File.render (options : LayoutOptions) (file : File) : String :=
  (Node.ofFile file).render options

end VelocityScript.Template
