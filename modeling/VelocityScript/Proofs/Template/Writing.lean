import VelocityScript.Template.Printer

/-!
# Writing pieces from left to right

The lines of some pieces are made from their end, and indented when they are
complete.  The same text can be written piece by piece: the first text of a
line is indented, and what follows on the line stands right after it.  So the
text of some pieces is that of the first ones followed by that of the others.
-/

namespace VelocityScript.Template

variable (options : LayoutOptions)

/-- The indentation of a level. -/
def indentation (depth : Nat) : List Char :=
  if options.indentEnabled then
    (List.replicate depth options.indentText.toList).flatten
  else
    []

/-- The text of some pieces, where the line at hand has text already or not. -/
def written (started : Bool) : List Piece → List Char
  | [] => []
  | .lineBreak :: rest => '\n' :: written false rest
  | .text depth content :: rest =>
      if content.isEmpty then
        written started rest
      else
        (if started then [] else indentation options depth) ++
          content.toList ++ written true rest

/-- Whether the line at hand has text after some pieces. -/
def isStarted (started : Bool) : List Piece → Bool
  | [] => started
  | .lineBreak :: rest => isStarted false rest
  | .text _ content :: rest => isStarted (started || !content.isEmpty) rest

theorem written_append (started : Bool) (first second : List Piece) :
    written options started (first ++ second) =
      written options started first ++
        written options (isStarted started first) second := by
  induction first generalizing started with
  | nil => rfl
  | cons piece rest inductionHypothesis =>
      cases piece with
      | lineBreak =>
          exact congrArg ('\n' :: ·) (inductionHypothesis false)
      | text depth content =>
          simp only [List.cons_append, written, isStarted]
          split
          · next empty => simp only [empty, Bool.not_true, Bool.or_false,
              inductionHypothesis]
          · next full =>
              rw [Bool.not_eq_true] at full
              simp only [full, Bool.not_false, Bool.or_true, List.append_assoc,
                inductionHypothesis]

/-- A line has text after a piece that has some. -/
theorem isStarted_concat (started : Bool) (pieces : List Piece) (depth : Nat)
    {content : String} (full : content.isEmpty = false) :
    isStarted started (pieces ++ [.text depth content]) = true := by
  induction pieces generalizing started with
  | nil => simp only [List.nil_append, isStarted, full, Bool.not_false,
      Bool.or_true]
  | cons piece rest inductionHypothesis =>
      cases piece with
      | lineBreak => exact inductionHypothesis false
      | text depth content => exact inductionHypothesis _

/-- On a line with text, more text stands right after it. -/
theorem written_true_text (depth : Nat) (content : String)
    (rest : List Piece) :
    written options true (.text depth content :: rest) =
      content.toList ++ written options true rest := by
  simp only [written]
  split
  · next empty => rw [String.isEmpty_iff.mp empty, String.toList_empty,
      List.nil_append]
  · rfl

/-- The text of the lines after the first one. -/
def writtenLines (others : List Line) : List Char :=
  others.flatMap fun line => '\n' :: (line.render options).toList

theorem toList_renderLines (first : Line) (others : List Line) :
    (renderLines options (first :: others)).toList =
      (first.render options).toList ++ writtenLines options others := by
  induction others generalizing first with
  | nil =>
      simp [renderLines, writtenLines]
  | cons second others inductionHypothesis =>
      have rest := inductionHypothesis second
      simp only [renderLines, List.map_cons, String.intercalate_cons_cons,
        String.toList_append] at rest ⊢
      rw [rest]
      simp [writtenLines]

/-- An empty line has no indentation, and any other line has it before its
text. -/
theorem toList_render (depth : Nat) (content : String) :
    (Line.render options ⟨depth, content⟩).toList =
      (if content.isEmpty then [] else indentation options depth) ++
        content.toList := by
  unfold Line.render indentation
  cases content.isEmpty <;> cases options.indentEnabled <;>
    simp [String.toList_join, List.flatMap_def]

/-- Pieces written from left to right give the lines made from their end: the
first line has its indentation unless it is under way. -/
theorem written_eq (pieces : List Piece) :
    ∃ first others, lines pieces = first :: others ∧
      written options false pieces =
        (first.render options).toList ++ writtenLines options others ∧
      written options true pieces =
        first.content.toList ++ writtenLines options others := by
  induction pieces with
  | nil => exact ⟨⟨0, ""⟩, [], rfl, rfl, rfl⟩
  | cons piece rest inductionHypothesis =>
      obtain ⟨first, others, made, fresh, going⟩ := inductionHypothesis
      cases piece with
      | lineBreak =>
          refine ⟨⟨0, ""⟩, first :: others, by rw [lines, made], ?_, ?_⟩
          all_goals
            simp only [written, fresh, writtenLines, List.flatMap_cons]
            rfl
      | text depth content =>
          cases empty : content.isEmpty with
          | true =>
              refine ⟨first, others, ?_, ?_, ?_⟩
              · simp only [lines, made, empty, if_true]
              · simpa only [written, empty, if_true] using fresh
              · simpa only [written, empty, if_true] using going
          | false =>
              have full : (content ++ first.content).isEmpty = false := by
                rw [String.isEmpty_eq_false_iff] at empty ⊢
                simp [empty]
              refine ⟨⟨depth, content ++ first.content⟩, others, ?_, ?_, ?_⟩
              · simp only [lines, made, empty, Bool.false_eq_true, if_false]
              · simp only [written, empty, Bool.false_eq_true, if_false, going,
                  toList_render, full, String.toList_append, List.append_assoc]
              · simp only [written, empty, Bool.false_eq_true, if_false, if_true,
                  going, String.toList_append, List.nil_append, List.append_assoc]

/-- The text of a node is written from left to right. -/
theorem toList_render_node (node : Node) :
    (node.render options).toList =
      written options false (node.pieces options.stripComments) := by
  obtain ⟨first, others, made, fresh, -⟩ :=
    written_eq options (node.pieces options.stripComments)
  rw [Node.render, Node.lines, made, toList_renderLines, fresh]

end VelocityScript.Template
