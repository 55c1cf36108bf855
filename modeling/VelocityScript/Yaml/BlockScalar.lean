import VelocityScript.Number.Literal
import VelocityScript.Yaml.Glyph

/-!
# YAML scalars that their indentation delimits

The text of such a scalar starts on the line after its header.  The header
says what becomes of the line breaks at the end, and may say how far the text
is indented.
-/

namespace VelocityScript.Yaml

/-- What becomes of the line breaks at the end of a scalar: one is kept, none
is kept, or all are kept. -/
inductive Chomping where
  | clip
  | strip
  | keep
  deriving DecidableEq

/-- Reads what a header says about the end of the text. -/
def chompingFrom : List Glyph → Chomping × List Glyph
  | [] => (.clip, [])
  | glyph :: rest =>
      if glyph.character = '+' then
        (.keep, rest)
      else if glyph.character = '-' then
        (.strip, rest)
      else
        (.clip, glyph :: rest)

/-- Reads what a header says about the indentation of the text.  An
indentation of nothing is refused. -/
def incrementFrom? : List Glyph → Option (Option Nat × List Glyph)
  | [] => some (none, [])
  | glyph :: rest =>
      match digitIn? 10 glyph.character with
      | none => some (none, glyph :: rest)
      | some 0 => none
      | some increment => some (some increment, rest)

/-- Reads a header up to the end of its line.  Its two parts may stand in any
order. -/
def blockHeader? (text : List Glyph) :
    Option (Chomping × Option Nat × List Glyph) := do
  let (early, rest) := chompingFrom text
  let (increment, rest) ← incrementFrom? rest
  let (chomping, rest) :=
    if early = .clip then chompingFrom rest else (early, rest)
  return (chomping, increment, ← finishLine? rest)

/-- Empty lines: their breaks, the deepest column at which one of them or the
line after them starts, and what follows. -/
structure EmptyLines where
  breaks : List Char
  deepest : Nat
  rest : List Glyph
  deriving DecidableEq

/-- Passes over the indentation of a text and over its empty lines.  No more
than `indent` blanks of a line are indentation, if `indent` is known.  A tab
is no indentation. -/
def emptyLinesFrom? (indent : Option Nat) :
    (deepest : Nat) → List Glyph → Option EmptyLines
  | deepest, [] => some ⟨[], deepest, []⟩
  | deepest, glyph :: rest =>
      let indenting := indent.all (glyph.column < ·)
      if indenting && glyph.character == ' ' then
        emptyLinesFrom? indent deepest rest
      else if indenting && glyph.character == '\t' then
        none
      else if isBreak glyph.character then do
        let lines ← emptyLinesFrom? indent (max deepest glyph.column) rest
        return { lines with breaks := glyph.character :: lines.breaks }
      else
        some ⟨[], max deepest glyph.column, glyph :: rest⟩

/-- The line breaks before a line: the one that ends the line before it, if
there is one, and those of empty lines; and whether the line before it starts
with a blank. -/
structure Spacing where
  lineEnd : Option Char
  breaks : List Char
  afterBlank : Bool
  deriving DecidableEq

namespace Spacing

/-- The text between two lines.  In a folded text a line feed between lines
reads as a space, unless empty lines follow it or one of the two lines starts
with a blank. -/
def text (spacing : Spacing) (folds beforeBlank : Bool) : List Char :=
  if folds && spacing.lineEnd == some '\n' && !spacing.afterBlank &&
      !beforeBlank then
    if spacing.breaks = [] then [' '] else spacing.breaks
  else
    spacing.lineEnd.toList ++ spacing.breaks

def finalText (spacing : Spacing) : Chomping → List Char
  | .strip => []
  | .clip => spacing.lineEnd.toList
  | .keep => spacing.lineEnd.toList ++ spacing.breaks

end Spacing

/-- Reads the lines of a text that start in the column `indent`.  The first
argument bounds the number of lines. -/
def blockLinesFrom? (folds : Bool) (chomping : Chomping) (indent : Nat) :
    Nat → Spacing → List Glyph → Option (List Char × List Glyph)
  | 0, _, _ => none
  | _, spacing, [] => some (spacing.finalText chomping, [])
  | bound + 1, spacing, glyph :: rest =>
      if glyph.column = indent then do
        let line := (glyph :: rest).takeWhile fun glyph =>
          !isBreak glyph.character
        let lineEnd := dropLine (glyph :: rest)
        let lines ← emptyLinesFrom? (some indent) 0 lineEnd.tail
        let blank := isInlineBlank glyph.character
        let (text, finish) ←
          blockLinesFrom? folds chomping indent bound
            ⟨firstCharacter? lineEnd, lines.breaks, blank⟩ lines.rest
        return (spacing.text folds blank ++ line.map (·.character) ++ text,
          finish)
      else
        some (spacing.finalText chomping, glyph :: rest)

/-- Reads a scalar from its header on.  Where the header does not say how far
the text is indented, its first line and the empty lines before it do; the
text is indented more than what is around it, whose lines start at column
`least` or further right. -/
def blockScalar? (folds : Bool) (least : Nat) (text : List Glyph) :
    Option (List Char × List Glyph) := do
  let (chomping, increment, rest) ← blockHeader? text
  let given := increment.map (least - 1 + ·)
  let lines ← emptyLinesFrom? given 0 rest
  let indent := given.getD (max lines.deepest (max least 1))
  blockLinesFrom? folds chomping indent (text.length + 1)
    ⟨none, lines.breaks, false⟩ lines.rest

end VelocityScript.Yaml
