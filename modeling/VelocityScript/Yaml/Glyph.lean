/-!
# Characters of a YAML text and their places

Structure depends on lines and columns, and the length of a key is limited, so
every character is read together with its place.
-/

namespace VelocityScript.Yaml

/-- Whether a character may stand in a text. -/
def isAllowed (character : Char) : Bool :=
  let code := character.toNat
  code == 9 || code == 10 || code == 13 || (32 ≤ code && code ≤ 126) ||
    code == 0x85 || (0xA0 ≤ code && code ≤ 0xFFFD) || 0x10000 ≤ code

/-- The text with a carriage return, a line feed, both together and a next
line character all written as one line feed.  Line separators and paragraph
separators end lines too, but they stay what they are. -/
def unifyBreaks : List Char → List Char
  | [] => []
  | '\r' :: '\n' :: rest => '\n' :: unifyBreaks rest
  | character :: rest =>
      (if character = '\r' ∨ character = '\u0085' then '\n' else character) ::
        unifyBreaks rest

/-- Whether a character ends a line, once line breaks are unified. -/
def isBreak (character : Char) : Bool :=
  character == '\n' || character == '\u2028' || character == '\u2029'

/-- Whether a character is a blank inside a line. -/
def isInlineBlank (character : Char) : Bool :=
  character == ' ' || character == '\t'

/-- Whether a character delimits collections written between brackets. -/
def isFlowMark (character : Char) : Bool :=
  [',', '[', ']', '\x7b', '\x7d'].contains character

/-- A character and its place: its line, its column, and the number of bytes
before it. -/
structure Glyph where
  character : Char
  line : Nat
  column : Nat
  offset : Nat
  deriving DecidableEq

/-- The characters of a text with their places, from a given place on. -/
def glyphsFrom (line column offset : Nat) : List Char → List Glyph
  | [] => []
  | character :: rest =>
      let finish := offset + character.utf8Size
      ⟨character, line, column, offset⟩ ::
        if isBreak character then
          glyphsFrom (line + 1) 0 finish rest
        else
          glyphsFrom line (column + 1) finish rest

/-- Places are added to the characters, and nothing else changes. -/
@[simp]
theorem map_character_glyphsFrom
    (line column offset : Nat) (text : List Char) :
    (glyphsFrom line column offset text).map (·.character) = text := by
  induction text generalizing line column offset with
  | nil =>
      rfl
  | cons character rest inductionHypothesis =>
      by_cases ends : isBreak character
      · simp [glyphsFrom, ends, inductionHypothesis]
      · simp [glyphsFrom, ends, inductionHypothesis]

/-- The characters of a text with their places. -/
def glyphs (text : String) : List Glyph :=
  glyphsFrom 0 0 0 (unifyBreaks text.toList)

/-- The first character of a text. -/
def firstCharacter? (text : List Glyph) : Option Char :=
  text.head?.map (·.character)

/-- Whether a text is over, or starts with a line break. -/
def startsBreak (text : List Glyph) : Bool :=
  (firstCharacter? text).all isBreak

/-- Whether a text is over, or starts with a blank or a line break. -/
def startsBlank (text : List Glyph) : Bool :=
  (firstCharacter? text).all fun character =>
    isInlineBlank character || isBreak character

/-- Whether three characters of one kind stand alone at the start of a line. -/
def seesMark (mark : Char) (text : List Glyph) : Bool :=
  text.head?.all (·.column == 0) &&
    (text.take 3).map (·.character) == List.replicate 3 mark &&
    startsBlank (text.drop 3)

/-- Whether a mark between documents stands at the start of a line. -/
def seesDocumentMark (text : List Glyph) : Bool :=
  seesMark '-' text || seesMark '.' text

/-- The text without the blanks in front. -/
def dropBlanks (text : List Glyph) : List Glyph :=
  text.dropWhile fun glyph => isInlineBlank glyph.character

/-- The text from the end of its first line on. -/
def dropLine (text : List Glyph) : List Glyph :=
  text.dropWhile fun glyph => !isBreak glyph.character

/-- The text after a line on which nothing but blanks and a comment is left. -/
def finishLine? (text : List Glyph) : Option (List Glyph) :=
  let rest := dropBlanks text
  let rest := if firstCharacter? rest = some '#' then dropLine rest else rest
  if startsBreak rest then some rest.tail else none

/-- Passes over blanks, comments and line breaks.  A tab is a blank only where
no indentation is measured: between brackets, or where no key may stand.  A
byte order mark may start a line.  After a line break outside brackets a key
may stand; the result says whether one may. -/
def dropGap (inFlow : Bool) :
    (keyAllowed inComment : Bool) → List Glyph → Bool × List Glyph
  | keyAllowed, _, [] => (keyAllowed, [])
  | keyAllowed, inComment, glyph :: rest =>
      if isBreak glyph.character then
        dropGap inFlow (keyAllowed || !inFlow) false rest
      else if inComment || glyph.character == ' ' ||
          (glyph.character == '\t' && (inFlow || !keyAllowed)) ||
          (glyph.character == '\ufeff' && glyph.column == 0) then
        dropGap inFlow keyAllowed inComment rest
      else if glyph.character = '#' then
        dropGap inFlow keyAllowed true rest
      else
        (keyAllowed, glyph :: rest)

end VelocityScript.Yaml
