/-!
# Layout of template text

Printing gives pieces of text, each with the indentation level in force where
it stands, and line breaks.  The pieces make up logical lines, and only the
last step, which writes the lines, looks at how a level is written.
-/

namespace VelocityScript.Template

/-- How a template is laid out. -/
structure LayoutOptions where
  indentEnabled : Bool := true
  indentText : String := "  "
  stripComments : Bool := false
  deriving DecidableEq

/-- A piece of output. -/
inductive Piece where
  | text (depth : Nat) (content : String)
  | lineBreak
  deriving DecidableEq

/-- A logical line: its level and its text.  The text of a string or a name
stays as it is, even if it has line breaks of its own. -/
structure Line where
  depth : Nat
  content : String
  deriving DecidableEq

/-- The logical lines of some pieces.  The level of a line is that of its
first text. -/
def lines : List Piece → List Line
  | [] => [⟨0, ""⟩]
  | .lineBreak :: rest => ⟨0, ""⟩ :: lines rest
  | .text depth content :: rest =>
      match lines rest with
      | [] => [⟨depth, content⟩]
      | line :: others =>
          if content.isEmpty then
            line :: others
          else
            ⟨depth, content ++ line.content⟩ :: others

/-- The text of a line.  An empty line gets no indentation. -/
def Line.render (options : LayoutOptions) (line : Line) : String :=
  if line.content.isEmpty || !options.indentEnabled then
    line.content
  else
    String.join (List.replicate line.depth options.indentText) ++ line.content

/-- The text of some lines. -/
def renderLines (options : LayoutOptions) (content : List Line) : String :=
  String.intercalate "\n" (content.map (Line.render options))

end VelocityScript.Template
